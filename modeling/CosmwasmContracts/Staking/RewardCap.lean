import CosmwasmContracts.Staking.Windows

/-! No second of staking is paid twice. Since the windows of an address's payouts do not
overlap, all it is ever paid fits under its largest stake at the largest rate over the
time since its first deposit. -/

namespace CosmwasmContracts.Staking
open Library.CheckedWord Library.FiniteMap Library.TransactionMachine Library.TimedHistory
  CosmwasmStd CwOwnable

/-- The seconds at which an address's Stake messages were made. -/
def stakeSeconds (user : Addr) (_ : Storage) (tx : Tx) (_ : Response) : List Nat :=
  match tx.msg with
  | .stake _ => if tx.sender = user then [seconds tx] else []
  | _ => []

theorem stakeSeconds_of_pays {user : Addr} {storage : Storage} {tx : Tx} {response : Response}
    (pays : tx.msg.Pays) : stakeSeconds user storage tx response = [] := by
  obtain ⟨block, sender, msg, dispatched⟩ := tx
  cases msg with
  | unstake | claimRewards => rfl
  | stake | changeConfig | updateOwnership => exact pays.elim

theorem stakeSeconds_mem {user : Addr} {storage : Storage} {tx : Tx} {response : Response} {moment : Nat}
    (member : moment ∈ stakeSeconds user storage tx response) : moment = seconds tx := by
  unfold stakeSeconds at member
  split at member
  next =>
    split at member
    next => exact List.mem_singleton.mp member
    next => cases member
  next => cases member

section Cap

/-- What has been paid, against the largest stake and rate from the first second to the
last one paid for. -/
structure Capped (first : Option Nat) (running : Prop) (total amount apr frontier : Nat) : Prop where
  unopened : first = none → ¬running ∧ total = 0
  capped : ∀ second, first = some second → second ≤ frontier ∧
    rewardUnit * total ≤ amount * apr * (frontier - second)

variable {first : Option Nat} {running running' : Prop} {total amount apr frontier : Nat}
variable {amount' apr' frontier' : Nat}

/-- The cap only loosens: stakes, rates and the frontier grow along a history. -/
theorem Capped.grow (capped : Capped first running total amount apr frontier) (stakes : amount ≤ amount')
    (rates : apr ≤ apr') (later : frontier ≤ frontier')
    (still : first = none → running' → running) :
    Capped first running' total amount' apr' frontier' := by
  refine ⟨fun unopened => ?_, fun second opened => ?_⟩
  · obtain ⟨stopped, nothing⟩ := capped.unopened unopened
    exact ⟨fun runs => stopped (still unopened runs), nothing⟩
  · obtain ⟨began, bound⟩ := capped.capped second opened
    exact ⟨began.trans later, bound.trans
      (Nat.mul_le_mul (Nat.mul_le_mul stakes rates) (Nat.sub_le_sub_right later second))⟩

/-- The first deposit starts the clock with nothing paid. -/
theorem Capped.opening (capped : Capped none running total amount apr frontier) :
    Capped (some frontier') running' total amount' apr' frontier' := by
  obtain ⟨_, nothing⟩ := capped.unopened rfl
  refine ⟨fun unopened => ?_, fun second opened => ?_⟩
  · cases unopened
  · cases opened
    rw [nothing]
    exact ⟨le_rfl, Nat.zero_le _⟩

/-- The next window starts where the last one ended. -/
theorem Capped.pay {held rate reward closes : Nat} (capped : Capped first running total amount apr frontier)
    (runs : running) (priced : reward = exactReward held rate (closes - frontier)) (stakes : held ≤ amount)
    (rates : rate ≤ apr) (ordered : frontier ≤ closes) :
    Capped first running' (total + reward) amount apr closes := by
  refine ⟨fun unopened => ((capped.unopened unopened).1 runs).elim, fun second opened => ?_⟩
  obtain ⟨began, bound⟩ := capped.capped second opened
  have latest : rewardUnit * reward ≤ amount * apr * (closes - frontier) := by
    rw [priced]
    exact (exactReward_mul_le _ _ _).trans (Nat.mul_le_mul_right _ (Nat.mul_le_mul stakes rates))
  refine ⟨began.trans ordered, ?_⟩
  calc
    rewardUnit * (total + reward) = rewardUnit * total + rewardUnit * reward := Nat.mul_add _ _ _
    _ ≤ amount * apr * (frontier - second) + amount * apr * (closes - frontier) :=
      Nat.add_le_add bound latest
    _ = amount * apr * (closes - second) := by
      rw [← Nat.mul_add]
      congr 1
      omega

end Cap

section Step

variable {before next : Storage} {contract : Addr} {tx : Tx} {messages : List CosmosMsg} {user : Addr}

/-- Only a deposit of its own opens an entry. -/
theorem effect_opens (effect : Effect before tx.block.time contract tx.sender tx.msg next messages)
    (absent : before.stakes.mayLoad user = none) {kept : StakeInfo}
    (present : next.stakes.mayLoad user = some kept) (response : Response) :
    stakeSeconds user before tx response ≠ [] := by
  obtain ⟨block, sender, msg, dispatched⟩ := tx
  by_cases own : sender = user
  · subst own
    cases effect with
    | opened | toppedUp => simp [stakeSeconds]
    | reduced amount rest reward total entry payout | closed amount reward total entry payout
    | claimed reward entry payout =>
      cases absent.symm.trans payout.present
    | reconfigured | reowned => cases absent.symm.trans present
  · rw [effect_frame effect (Ne.symm own), absent] at present
    cases present

/-- An entry that a deposit opens runs from the deposit's own second. -/
theorem effect_opening_time (effect : Effect before tx.block.time contract tx.sender tx.msg next messages)
    (quiet : ¬(tx.sender = user ∧ tx.msg.Pays)) (absent : before.stakes.mayLoad user = none) :
    resumes next (seconds tx) user = seconds tx := by
  apply resumes_restarted
  intro kept present
  rcases (effect_quiet effect quiet).2.2 kept present with ⟨entry, old, _⟩ | ⟨_, same⟩
  · cases absent.symm.trans old
  · exact same

end Step

section Run

variable (machine : Machine Storage Tx TxError Response) (start : Storage) (user : Addr)

/-- The second of an address's first successful Stake. -/
def firstStake (txs : List Tx) : Option Nat := (machine.observe (stakeSeconds user) start txs).head?

def largestStake (txs : List Tx) : Nat := machine.peak (fun storage => stakedAmount storage user) start txs

def largestApr (txs : List Tx) : Nat := machine.peak (fun storage => storage.config.apr.toNat) start txs

/-- The reward paid to an address so far is capped by the whole time since its first Stake. -/
def CappedRun (genesis : Nat) (txs : List Tx) (storage : Storage) : Prop :=
  Capped (firstStake machine start user txs) (∃ entry, storage.stakes.mayLoad user = some entry)
    (machine.tally (rewardedTo user) start txs) (largestStake machine start user txs)
    (largestApr machine start txs) (frontier genesis user txs storage)

variable {machine start user}

theorem firstStake_snoc_ok {txs : List Tx} {tx : Tx} {next : Storage} {response : Response}
    (commits : machine.exec (machine.run start txs) tx = .ok (next, response)) :
    firstStake machine start user (txs ++ [tx]) =
      (firstStake machine start user txs).or
        (stakeSeconds user (machine.run start txs) tx response).head? := by
  unfold firstStake
  rw [Machine.observe_snoc_ok _ _ commits, List.head?_append]

theorem firstStake_snoc_error {txs : List Tx} {tx : Tx} {reason : TxError}
    (fails : machine.exec (machine.run start txs) tx = .error reason) :
    firstStake machine start user (txs ++ [tx]) = firstStake machine start user txs := by
  unfold firstStake
  rw [Machine.observe_snoc_error _ _ fails]

end Run

theorem run_capped (api : Api) (ownable : Package) (contract : Addr) {start : Storage} {genesis : Nat}
    (empty : start.stakes = ∅) (user : Addr) {txs : List Tx} (ordered : Ordered nanos genesis txs) :
    CappedRun (machine api ownable contract) start user genesis txs
      ((machine api ownable contract).run start txs) := by
  apply ordered_rule _ nanos
    (motive := fun txs storage => CappedRun (machine api ownable contract) start user genesis txs storage)
    genesis start ?_ ?_ ?_ ordered
  · refine ⟨fun _ => ⟨?_, rfl⟩, fun second opened => ?_⟩
    · rintro ⟨entry, present⟩
      rw [empty, Map.mayLoad_empty] at present
      cases present
    · cases opened
  · intro txs tx next response later capped commits
    have effect := commit_effect commits
    have stakes := Machine.peak_le_append (machine api ownable contract)
      (fun storage => stakedAmount storage user) start txs [tx]
    have rates := Machine.peak_le_append (machine api ownable contract)
      (fun storage => storage.config.apr.toNat) start txs [tx]
    unfold CappedRun at capped ⊢
    rw [firstStake_snoc_ok commits, Machine.tally_snoc_ok _ _ commits, frontier_snoc]
    by_cases paid : tx.sender = user ∧ tx.msg.Pays
    · obtain ⟨rfl, pays⟩ := paid
      obtain ⟨entry, reward, payout, minted, restarted⟩ := effect_payment effect pays
      have opening : frontier genesis tx.sender txs ((machine api ownable contract).run start txs) =
          entry.stakeTime.seconds.toNat := resumes_of_present _ payout.present
      have closing : resumes next (seconds tx) tx.sender = seconds tx := resumes_restarted restarted
      have held := Machine.read_le_peak (machine api ownable contract)
        (fun storage => stakedAmount storage tx.sender) start txs
      have rate := Machine.read_le_peak (machine api ownable contract)
        (fun storage => storage.config.apr.toNat) start txs
      change stakedAmount _ _ ≤ _ at held
      rw [stakedAmount_of_present payout.present] at held
      rw [opening] at capped
      rw [stakeSeconds_of_pays pays, List.head?_nil, Option.or_none, closing, rewardedTo, minted]
      exact (capped.grow stakes rates le_rfl fun _ => id).pay ⟨entry, payout.present⟩ payout.exact
        (held.trans stakes) (rate.trans rates) payout.started
    · have advance := resumes_quiet effect paid later
      rw [rewardedTo, (effect_quiet effect paid).1, Nat.add_zero]
      cases opened : firstStake (machine api ownable contract) start user txs with
      | some second =>
        rw [opened] at capped
        refine capped.grow stakes rates advance fun unopened => ?_
        cases unopened
      | none =>
        rw [opened] at capped
        have absent : ((machine api ownable contract).run start txs).stakes.mayLoad user = none :=
          Option.eq_none_iff_forall_ne_some.mpr fun entry present =>
            (capped.unopened rfl).1 ⟨entry, present⟩
        rw [Option.none_or]
        cases deposit : stakeSeconds user ((machine api ownable contract).run start txs) tx response with
        | nil =>
          refine capped.grow stakes rates advance fun _ runs => ?_
          obtain ⟨kept, present⟩ := runs
          exact (effect_opens effect absent present response deposit).elim
        | cons moment rest =>
          have now : moment = seconds tx := stakeSeconds_mem (deposit ▸ List.mem_cons_self)
          rw [effect_opening_time effect paid absent, List.head?_cons, now]
          exact capped.opening
  · intro txs tx reason later capped fails
    unfold CappedRun at capped ⊢
    rw [firstStake_snoc_error fails, Machine.tally_snoc_error _ _ fails, frontier_snoc]
    exact capped.grow (Machine.peak_le_append _ _ start txs [tx])
      (Machine.peak_le_append _ _ start txs [tx]) (resumes_le_resumes _ user (wholeSeconds_mono later))
      fun _ => id

/-- No second of staking is paid twice, whatever the configurations on the way: clocks
never run ahead of the block, the windows of an address's payouts follow one another,
and what it was paid by any second `later` is at most its largest stake at the largest
rate since its first Stake. -/
theorem no_second_paid_twice (api : Api) (ownable : Package) (contract : Addr) (msg : InstantiateMsg)
    (start : Storage) (response : Response)
    (made : instantiate api ownable msg = .ok (start, response)) (genesis : Nat) (txs : List Tx)
    (ordered : Ordered nanos genesis txs) (user : Addr) :
    (∀ entry now, ((machine api ownable contract).run start txs).stakes.mayLoad user = some entry →
      reached nanos genesis txs ≤ now.nanos.toNat →
        entry.stakeTime.nanos.toNat ≤ now.nanos.toNat ∧
          ∀ E : Type, ∃ elapsed,
            (elapsedSeconds now entry.stakeTime : Result E (Word 64)) = .ok elapsed) ∧
    (∀ payment ∈ (machine api ownable contract).observe (payments user) start txs,
      payment.opens ≤ payment.closes) ∧
    ((machine api ownable contract).observe (payments user) start txs).Pairwise Payment.Follows ∧
    ∀ later, wholeSeconds (reached nanos genesis txs) ≤ later →
      match firstStake (machine api ownable contract) start user txs with
      | none => (machine api ownable contract).tally (rewardedTo user) start txs = 0
      | some first =>
          (machine api ownable contract).tally (rewardedTo user) start txs ≤
            exactReward (largestStake (machine api ownable contract) start user txs)
              (largestApr (machine api ownable contract) start txs) (later - first) := by
  have empty := (instantiate_empty made).1
  have times := run_times api ownable contract empty ordered
  have settled := run_settled api ownable contract start user ordered
  have capped := run_capped api ownable contract empty user ordered
  refine ⟨?_, settled.spans, settled.follows, ?_⟩
  · intro entry now present arrived
    have timed := (times user entry present).trans arrived
    refine ⟨timed, fun E => ?_⟩
    obtain ⟨elapsed, since⟩ := Word.checkedSub_of_le (Timestamp.seconds_mono timed)
    exact ⟨elapsed, unwrap_eq_ok.mpr since⟩
  · intro later arrived
    split
    next unopened => exact (capped.unopened unopened).2
    next first opened =>
      obtain ⟨_, bound⟩ := capped.capped first opened
      have current := (resumes_le_wholeSeconds times user).trans arrived
      rw [exactReward, Nat.le_div_iff_mul_le (by decide), Nat.mul_comm]
      exact bound.trans (Nat.mul_le_mul_left _ (Nat.sub_le_sub_right current first))

theorem no_second_paid_twice_testHistory :
    ((machine Api.accepting Package.documented ⟨"staking"⟩).observe (payments ⟨"user1"⟩) testPool
      testHistory).Pairwise Payment.Follows :=
  (no_second_paid_twice Api.accepting Package.documented ⟨"staking"⟩ testMsg testPool testResponse rfl
    0 testHistory (by decide) ⟨"user1"⟩).2.2.1

example : (machine Api.accepting Package.documented ⟨"staking"⟩).observe (payments ⟨"user1"⟩) testPool
    testHistory =
      [{ opens := 100, closes := 2592100, lockup := 2592000 },
        { opens := 2592100, closes := 2599200, lockup := 3600 }] := by decide

end CosmwasmContracts.Staking
