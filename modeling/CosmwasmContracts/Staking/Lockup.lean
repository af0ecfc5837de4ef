import CosmwasmContracts.Staking.Windows

/-! The lockup of each deposit. An address has one entry with one time, so a deposit
added to a running entry unlocks with it. Where no deposit is added later than its
entry's own second, every withdrawal is covered by deposits past the lockup. -/

namespace CosmwasmContracts.Staking
open Library.CheckedWord Library.FiniteMap Library.TransactionMachine Library.TimedHistory
  CosmwasmStd CwOwnable

/-- The successful deposits of an address, each with its second. -/
def deposits (user : Addr) (_ : Storage) (tx : Tx) (_ : Response) : List (Nat × Nat) :=
  match tx.msg with
  | .stake amount => if tx.sender = user then [(seconds tx, amount.toNat)] else []
  | _ => []

/-- Deposits of something into an entry that has been running since an earlier second. -/
def lateTopUps (user : Addr) (before : Storage) (tx : Tx) (_ : Response) : List (Nat × Nat) :=
  match tx.msg, before.stakes.mayLoad user with
  | .stake amount, some entry =>
      if tx.sender = user ∧ amount.toNat ≠ 0 ∧ seconds tx ≠ entry.stakeTime.seconds.toNat then
        [(seconds tx, amount.toNat)]
      else []
  | _, _ => []

theorem lateTopUps_eq_nil {user : Addr} {before : Storage} {tx : Tx} {response : Response}
    (prompt : lateTopUps user before tx response = []) {amount : Uint128} {entry : StakeInfo}
    (deposit : tx.msg = .stake amount) (own : tx.sender = user)
    (present : before.stakes.mayLoad user = some entry) :
    amount.toNat = 0 ∨ seconds tx = entry.stakeTime.seconds.toNat := by
  by_contra late
  rw [not_or] at late
  unfold lateTopUps at prompt
  simp only [deposit, present] at prompt
  rw [if_pos ⟨own, late⟩] at prompt
  cases prompt

/-- The sum of the deposits that are at least a lockup old. -/
def matured (lockup now : Nat) (deposits : List (Nat × Nat)) : Nat :=
  ((deposits.filter fun deposit => deposit.1 + lockup ≤ now).map Prod.snd).sum

theorem matured_of_aged {lockup now : Nat} {deposits : List (Nat × Nat)}
    (aged : ∀ deposit ∈ deposits, deposit.2 = 0 ∨ deposit.1 + lockup ≤ now) :
    matured lockup now deposits = (deposits.map Prod.snd).sum := by
  unfold matured
  induction deposits with
  | nil => rfl
  | cons first rest ih =>
    have others := ih (fun deposit member => aged deposit (List.mem_cons_of_mem first member))
    rw [List.map_cons, List.sum_cons, ← others]
    by_cases old : first.1 + lockup ≤ now
    · rw [List.filter_cons_of_pos (by simpa using old), List.map_cons, List.sum_cons]
    · have nothing : first.2 = 0 := (aged first List.mem_cons_self).resolve_right old
      rw [List.filter_cons_of_neg (by simpa using old), nothing, Nat.zero_add]

theorem deposits_mem {user : Addr} {storage : Storage} {tx : Tx} {response : Response}
    {deposit : Nat × Nat} (member : deposit ∈ deposits user storage tx response) :
    deposit.1 = seconds tx := by
  unfold deposits at member
  split at member
  next =>
    split at member
    next => exact congrArg Prod.fst (List.mem_singleton.mp member)
    next => cases member
  next => cases member

theorem deposits_sum (user : Addr) (storage : Storage) (tx : Tx) (response : Response) :
    ((deposits user storage tx response).map Prod.snd).sum = stakedBy user storage tx response := by
  obtain ⟨block, sender, msg, dispatched⟩ := tx
  cases msg with
  | stake amount =>
    unfold deposits stakedBy deposited
    by_cases own : sender = user <;> simp [own]
  | unstake | claimRewards | changeConfig | updateOwnership => rfl

section Step

variable {before next : Storage} {contract : Addr} {tx : Tx} {messages : List CosmosMsg} {user : Addr}

/-- A deposit that is not late is as old as the entry it is in. -/
theorem effect_deposit_age
    (effect : Effect before tx.block.time contract tx.sender tx.msg next messages) {response : Response}
    (prompt : lateTopUps user before tx response = []) {deposit : Nat × Nat}
    (member : deposit ∈ deposits user before tx response) :
    deposit.2 = 0 ∨ deposit.1 ≤ resumes next (seconds tx) user := by
  obtain ⟨block, sender, msg, dispatched⟩ := tx
  cases msg with
  | unstake | claimRewards | changeConfig | updateOwnership => cases member
  | stake amount =>
    unfold deposits at member
    by_cases own : sender = user
    · subst own
      simp only [if_true, List.mem_singleton] at member
      subst member
      cases effect with
      | opened amount total absent sum =>
        right
        rw [resumes_of_present _ (Map.mayLoad_save_self _ _ _)]
        exact le_rfl
      | toppedUp amount held total entry present grown sum =>
        rw [resumes_of_present _ (Map.mayLoad_save_self _ _ _)]
        exact (lateTopUps_eq_nil prompt rfl rfl present).imp_right le_of_eq
    · simp [own] at member

end Step

section Run

variable {api : Api} {ownable : Package} {contract : Addr} {start : Storage} {genesis : Nat}

/-- How old an address's deposits are after a history: all in the past, and, where none
was late, none younger than the clock of the entry they are in. -/
structure Aged (machine : Machine Storage Tx TxError Response) (start : Storage) (genesis : Nat)
    (user : Addr) (txs : List Tx) (storage : Storage) : Prop where
  past : ∀ deposit ∈ machine.observe (deposits user) start txs,
    deposit.1 ≤ wholeSeconds (reached nanos genesis txs)
  aged : machine.observe (lateTopUps user) start txs = [] →
    ∀ deposit ∈ machine.observe (deposits user) start txs,
      deposit.2 = 0 ∨ deposit.1 ≤ frontier genesis user txs storage

theorem run_fixed {txs : List Tx} (constant : ∀ tx ∈ txs, ¬tx.msg.ChangesConfig) :
    ((machine api ownable contract).run start txs).config = start.config := by
  refine Machine.run_invariant _ (motive := fun storage : Storage => storage.config = start.config)
    (fun tx => ¬tx.msg.ChangesConfig) ?_ rfl constant
  intro before tx next response same fixed commits
  exact (effect_config (commit_effect commits) fixed).trans same

theorem run_aged (user : Addr) {txs : List Tx} (ordered : Ordered nanos genesis txs) :
    Aged (machine api ownable contract) start genesis user txs
      ((machine api ownable contract).run start txs) := by
  apply ordered_rule _ nanos
    (motive := fun txs storage => Aged (machine api ownable contract) start genesis user txs storage)
    genesis start ⟨by simp, by simp⟩ ?_ ?_ ordered
  · intro txs tx next response later aged commits
    have effect := commit_effect commits
    have advance : frontier genesis user txs ((machine api ownable contract).run start txs) ≤
        resumes next (seconds tx) user := resumes_advances effect later
    have moment : wholeSeconds (reached nanos genesis txs) ≤ seconds tx := wholeSeconds_mono later
    refine ⟨?_, ?_⟩
    · intro deposit member
      rw [Machine.observe_snoc_ok _ _ commits, List.mem_append] at member
      rw [reached_snoc]
      rcases member with old | latest
      · exact (aged.past deposit old).trans moment
      · exact (deposits_mem latest).le
    · intro prompt deposit member
      rw [Machine.observe_snoc_ok _ _ commits, List.append_eq_nil_iff] at prompt
      rw [Machine.observe_snoc_ok _ _ commits, List.mem_append] at member
      rw [frontier_snoc]
      rcases member with old | latest
      · exact (aged.aged prompt.1 deposit old).imp_right advance.trans'
      · exact effect_deposit_age effect prompt.2 latest
  · intro txs tx reason later aged fails
    have moment : wholeSeconds (reached nanos genesis txs) ≤ seconds tx := wholeSeconds_mono later
    refine ⟨?_, ?_⟩
    · intro deposit member
      rw [Machine.observe_snoc_error _ _ fails] at member
      rw [reached_snoc]
      exact (aged.past deposit member).trans moment
    · intro prompt deposit member
      rw [Machine.observe_snoc_error _ _ fails] at prompt member
      rw [frontier_snoc]
      exact (aged.aged prompt deposit member).imp_right (resumes_le_resumes _ user moment).trans'

/-- Where an address never adds to an entry that has been running since an earlier
second, or there is no lockup, whatever it withdraws together with all it withdrew
before is covered by its deposits that are a lockup old. -/
theorem deposits_locked (api : Api) (ownable : Package) (contract : Addr) (msg : InstantiateMsg)
    (start : Storage) (response : Response)
    (made : instantiate api ownable msg = .ok (start, response)) (genesis : Nat) (txs : List Tx)
    (tx : Tx) (ordered : Ordered nanos genesis (txs ++ [tx]))
    (constant : ∀ other ∈ txs, ¬other.msg.ChangesConfig) (user : Addr)
    (prompt : start.config.lockupPeriod.toNat = 0 ∨
      (machine api ownable contract).observe (lateTopUps user) start txs = [])
    (amount : Uint128) (sent : tx.sender = user) (withdrawal : tx.msg = .unstake amount)
    (success : (machine api ownable contract).Commits ((machine api ownable contract).run start txs) tx) :
    amount.toNat + (machine api ownable contract).tally (unstakedBy user) start txs ≤
      matured start.config.lockupPeriod.toNat (seconds tx)
        ((machine api ownable contract).observe (deposits user) start txs) := by
  subst sent
  obtain ⟨next, out, commits⟩ := success
  obtain ⟨past, later⟩ := (ordered_snoc nanos genesis txs tx).mp ordered
  have aged : Aged (machine api ownable contract) start genesis tx.sender txs _ :=
    run_aged tx.sender past
  have fixed : ((machine api ownable contract).run start txs).config = start.config := run_fixed constant
  have moment : wholeSeconds (reached nanos genesis txs) ≤ seconds tx := wholeSeconds_mono later
  have effect := commit_effect commits
  obtain ⟨entry, reward, payout, _, _⟩ := effect_payment effect (withdrawal ▸ trivial)
  have opening : frontier genesis tx.sender txs ((machine api ownable contract).run start txs) =
      entry.stakeTime.seconds.toNat := resumes_of_present _ payout.present
  have unlocked : start.config.lockupPeriod.toNat ≤ seconds tx - entry.stakeTime.seconds.toNat :=
    fixed ▸ payout.unlocked
  have started : entry.stakeTime.seconds.toNat ≤ seconds tx := payout.started
  have all : matured start.config.lockupPeriod.toNat (seconds tx)
      ((machine api ownable contract).observe (deposits tx.sender) start txs) =
        (machine api ownable contract).tally (stakedBy tx.sender) start txs := by
    rw [matured_of_aged, Machine.sum_map_observe _ _ _ _ (deposits_sum tx.sender)]
    intro deposit member
    rcases prompt with none | prompt
    · have before := aged.past deposit member
      omega
    · rcases aged.aged prompt deposit member with nothing | young
      · exact Or.inl nothing
      · omega
  have books := run_entries api ownable contract (instantiate_empty made).1 txs tx.sender
  have moved := effect_amount effect tx.sender
  rw [withdrawal] at moved
  simp only [withdrawn, deposited, if_true, Nat.add_zero] at moved
  rw [all]
  omega

end Run

/-- One token staked, and a hundred thousand more in the block in which it unlocks. -/
def lateDeposit : List Tx :=
  [⟨blockAt 100, ⟨"user1"⟩, .stake (word 1), true⟩,
    ⟨blockAt 2592100, ⟨"user1"⟩, .stake (word 100000), true⟩]

def sameBlockWithdrawal : Tx :=
  ⟨blockAt 2592100, ⟨"user1"⟩, .unstake (word 100001), true⟩

/-- The deposit of this very block leaves with the one that was locked. -/
theorem lateDeposit_not_locked :
    instantiate Api.accepting Package.documented testMsg = .ok (testPool, testResponse) ∧
    Ordered nanos 0 (lateDeposit ++ [sameBlockWithdrawal]) ∧
    (∀ tx ∈ lateDeposit, ¬tx.msg.ChangesConfig) ∧
    (machine Api.accepting Package.documented ⟨"staking"⟩).Commits
      ((machine Api.accepting Package.documented ⟨"staking"⟩).run testPool lateDeposit)
      sameBlockWithdrawal ∧
    ¬(word 100001 : Uint128).toNat +
        (machine Api.accepting Package.documented ⟨"staking"⟩).tally (unstakedBy ⟨"user1"⟩) testPool
          lateDeposit ≤
      matured testPool.config.lockupPeriod.toNat (seconds sameBlockWithdrawal)
        ((machine Api.accepting Package.documented ⟨"staking"⟩).observe (deposits ⟨"user1"⟩) testPool
          lateDeposit) :=
  ⟨rfl, by decide, by decide, by decide, by decide⟩

/-- Two deposits of one block, of which a part has been withdrawn. -/
def promptDeposits : List Tx :=
  [⟨blockAt 100, ⟨"user1"⟩, .stake (word 1), true⟩,
    ⟨blockAt 100, ⟨"user1"⟩, .stake (word 100000), true⟩,
    ⟨blockAt 2592100, ⟨"user1"⟩, .unstake (word 40000), true⟩]

def restWithdrawal : Tx := ⟨blockAt 5184100, ⟨"user1"⟩, .unstake (word 60001), true⟩

theorem deposits_locked_promptDeposits :
    (word 60001 : Uint128).toNat +
        (machine Api.accepting Package.documented ⟨"staking"⟩).tally (unstakedBy ⟨"user1"⟩) testPool
          promptDeposits ≤
      matured testPool.config.lockupPeriod.toNat (seconds restWithdrawal)
        ((machine Api.accepting Package.documented ⟨"staking"⟩).observe (deposits ⟨"user1"⟩) testPool
          promptDeposits) :=
  deposits_locked Api.accepting Package.documented ⟨"staking"⟩ testMsg testPool testResponse rfl 0
    promptDeposits restWithdrawal (by decide) (by decide) ⟨"user1"⟩ (Or.inr (by decide)) (word 60001)
    rfl rfl (by decide)

end CosmwasmContracts.Staking
