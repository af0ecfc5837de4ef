import CosmwasmContracts.Staking.Effects

/-! The staking contract run message by message, and its books: the stored total is
the sum of all entries, and each entry is what its address deposited less what it
took back. -/

namespace CosmwasmContracts.Staking
open Library.CheckedWord Library.FiniteMap Library.TransactionMachine CosmwasmStd CwOwnable

/-- A message to the contract in its block, with the host's word on whether every
sub-message of the response went through. -/
structure Tx where
  block : BlockInfo
  sender : Addr
  msg : ExecuteMsg
  dispatched : Bool
  deriving DecidableEq

inductive TxError where
  | contract (reason : Failure ContractError)
  | subMessage
  deriving DecidableEq

/-- The contract under the host, whatever contract its sub-messages go to: the whole
transaction reverts when the call fails or a sub-message does. -/
def machine (api : Api) (ownable : Package) (contract : Addr) :
    Machine Storage Tx TxError Response where
  exec storage tx :=
    match execute api ownable storage ⟨tx.block, contract⟩ ⟨tx.sender⟩ tx.msg with
    | .error reason => .error (.contract reason)
    | .ok (next, response) =>
        if tx.dispatched then .ok (next, response) else .error .subMessage

def deposited (user sender : Addr) : ExecuteMsg → Nat
  | .stake amount => if sender = user then amount.toNat else 0
  | _ => 0

def withdrawn (user sender : Addr) : ExecuteMsg → Nat
  | .unstake amount => if sender = user then amount.toNat else 0
  | _ => 0

def stakedBy (user : Addr) (_ : Storage) (tx : Tx) (_ : Response) : Nat :=
  deposited user tx.sender tx.msg

def unstakedBy (user : Addr) (_ : Storage) (tx : Tx) (_ : Response) : Nat :=
  withdrawn user tx.sender tx.msg

variable {api : Api} {ownable : Package} {contract : Addr}

theorem exec_execute {before next : Storage} {tx : Tx} {response : Response}
    (commits : (machine api ownable contract).exec before tx = .ok (next, response)) :
    execute api ownable before ⟨tx.block, contract⟩ ⟨tx.sender⟩ tx.msg = .ok (next, response) := by
  cases result : execute api ownable before ⟨tx.block, contract⟩ ⟨tx.sender⟩ tx.msg with
  | error reason =>
    simp only [machine, result] at commits
    cases commits
  | ok value =>
    cases accepted : tx.dispatched with
    | false => simp [machine, result, accepted] at commits
    | true => simpa [machine, result, accepted] using commits

theorem exec_eq_ok {before next : Storage} {tx : Tx} {response : Response} :
    (machine api ownable contract).exec before tx = .ok (next, response) ↔
      execute api ownable before ⟨tx.block, contract⟩ ⟨tx.sender⟩ tx.msg = .ok (next, response) ∧
        tx.dispatched = true := by
  constructor
  · intro commits
    have executed := exec_execute commits
    refine ⟨executed, ?_⟩
    cases sent : tx.dispatched with
    | true => rfl
    | false =>
      simp only [machine, executed, sent] at commits
      cases commits
  · rintro ⟨executed, sent⟩
    simp only [machine, executed, sent, if_true]

theorem commit_effect {before next : Storage} {tx : Tx} {response : Response}
    (commits : (machine api ownable contract).exec before tx = .ok (next, response)) :
    Effect before tx.block.time contract tx.sender tx.msg next response.messages :=
  execute_effect (exec_execute commits)

section Step

variable {before next : Storage} {now : Timestamp} {sender : Addr} {msg : ExecuteMsg}
variable {messages : List CosmosMsg}

theorem stakedAmount_of_present {storage : Storage} {user : Addr} {entry : StakeInfo}
    (present : storage.stakes.mayLoad user = some entry) :
    stakedAmount storage user = entry.amount.toNat := Map.value_of_some _ present

theorem stakedAmount_of_absent {storage : Storage} {user : Addr}
    (absent : storage.stakes.mayLoad user = none) : stakedAmount storage user = 0 :=
  Map.value_of_none _ absent

def stakesTotal (stakes : Map Addr StakeInfo) : Nat :=
  Map.total (fun entry => entry.amount.toNat) stakes

theorem stakesTotal_save (storage : Storage) (user : Addr) (amount : Uint128) (time : Timestamp) :
    stakesTotal (storage.stakes.save user { amount := amount, stakeTime := time }) +
        stakedAmount storage user = stakesTotal storage.stakes + amount.toNat :=
  Map.total_save _ storage.stakes user { amount := amount, stakeTime := time }

theorem stakesTotal_remove (storage : Storage) (user : Addr) :
    stakesTotal (storage.stakes.remove user) + stakedAmount storage user =
      stakesTotal storage.stakes :=
  Map.total_remove _ storage.stakes user

/-- The stored total moves with the entries on every branch. -/
theorem effect_total (effect : Effect before now contract sender msg next messages)
    (balanced : before.totalStaked.toNat = stakesTotal before.stakes) :
    next.totalStaked.toNat = stakesTotal next.stakes := by
  cases effect with
  | opened amount total absent sum =>
    have books := stakesTotal_save before sender amount now
    rw [stakedAmount_of_absent absent] at books
    change total.toNat = stakesTotal (before.stakes.save sender _)
    omega
  | toppedUp amount held total entry present grown sum =>
    have books := stakesTotal_save before sender held entry.stakeTime
    rw [stakedAmount_of_present present] at books
    change total.toNat = stakesTotal (before.stakes.save sender _)
    omega
  | reduced amount rest reward total entry payout positive parts remains =>
    have books := stakesTotal_save before sender rest now
    rw [stakedAmount_of_present payout.present] at books
    change total.toNat = stakesTotal (before.stakes.save sender _)
    omega
  | closed amount reward total entry payout all remains =>
    have books := stakesTotal_remove before sender
    rw [stakedAmount_of_present payout.present] at books
    change total.toNat = stakesTotal (before.stakes.remove sender)
    omega
  | claimed reward entry payout positive =>
    have books := stakesTotal_save before sender entry.amount now
    rw [stakedAmount_of_present payout.present] at books
    change before.totalStaked.toNat = stakesTotal (before.stakes.save sender _)
    omega
  | reconfigured | reowned => exact balanced

theorem effect_token (effect : Effect before now contract sender msg next messages) :
    next.config.tokenAddress = before.config.tokenAddress := by
  cases effect <;> rfl

/-- Nothing but a message of its own touches an address's entry. -/
theorem effect_frame (effect : Effect before now contract sender msg next messages) {user : Addr}
    (other : user ≠ sender) : next.stakes.mayLoad user = before.stakes.mayLoad user := by
  cases effect with
  | opened | toppedUp | reduced | claimed => exact Map.mayLoad_save_of_ne _ _ other
  | closed => exact Map.mayLoad_remove_of_ne _ other
  | reconfigured | reowned => rfl

/-- An entry moves by exactly what its address stakes and unstakes. -/
theorem effect_amount (effect : Effect before now contract sender msg next messages) (user : Addr) :
    stakedAmount next user + withdrawn user sender msg =
      stakedAmount before user + deposited user sender msg := by
  by_cases own : sender = user
  · subst own
    cases effect with
    | opened amount total absent sum =>
      rw [stakedAmount_of_absent absent, stakedAmount_of_present (Map.mayLoad_save_self _ _ _)]
      simp only [withdrawn, deposited, if_true, Nat.zero_add, Nat.add_zero]
    | toppedUp amount held total entry present grown sum =>
      rw [stakedAmount_of_present present, stakedAmount_of_present (Map.mayLoad_save_self _ _ _)]
      simp only [withdrawn, deposited, if_true, Nat.add_zero]
      exact grown
    | reduced amount rest reward total entry payout positive parts remains =>
      rw [stakedAmount_of_present payout.present,
        stakedAmount_of_present (Map.mayLoad_save_self _ _ _)]
      simp only [withdrawn, deposited, if_true]
      exact parts
    | closed amount reward total entry payout all remains =>
      rw [stakedAmount_of_present payout.present, stakedAmount_of_absent (Map.mayLoad_remove_self _ _)]
      simp only [withdrawn, deposited, if_true, Nat.zero_add]
      exact all
    | claimed reward entry payout positive =>
      rw [stakedAmount_of_present payout.present,
        stakedAmount_of_present (Map.mayLoad_save_self _ _ _)]
      rfl
    | reconfigured | reowned => rfl
  · have kept := effect_frame effect (Ne.symm own)
    have same : stakedAmount next user = stakedAmount before user := by
      unfold stakedAmount Map.value
      rw [kept]
    have none : withdrawn user sender msg = 0 ∧ deposited user sender msg = 0 := by
      cases msg <;> simp [withdrawn, deposited, own]
    omega

end Step

theorem instantiate_empty {msg : InstantiateMsg} {storage : Storage} {response : Response}
    (made : instantiate api ownable msg = .ok (storage, response)) :
    storage.stakes = ∅ ∧ storage.totalStaked.toNat = 0 := by
  obtain ⟨ownership, _, made⟩ := bind_eq_ok.mp made
  obtain ⟨token, _, made⟩ := bind_eq_ok.mp made
  cases made
  exact ⟨rfl, rfl⟩

theorem instantiate_token {msg : InstantiateMsg} {storage : Storage} {response : Response}
    (made : instantiate api ownable msg = .ok (storage, response)) :
    storage.config.tokenAddress = ⟨msg.tokenAddress⟩ := by
  obtain ⟨ownership, _, made⟩ := bind_eq_ok.mp made
  obtain ⟨token, valid, made⟩ := bind_eq_ok.mp made
  cases made
  exact api.given _ _ (into_eq_ok.mp valid)

theorem stakedAmount_of_empty {storage : Storage} (empty : storage.stakes = ∅) (user : Addr) :
    stakedAmount storage user = 0 := by
  unfold stakedAmount
  rw [empty, Map.value_empty]

/-- The stored total and the sum of the entries never part. -/
theorem run_counted (api : Api) (ownable : Package) (contract : Addr) {start : Storage}
    (counted : start.totalStaked.toNat = stakesTotal start.stakes) (txs : List Tx) :
    ((machine api ownable contract).run start txs).totalStaked.toNat =
      stakesTotal ((machine api ownable contract).run start txs).stakes := by
  refine Machine.run_invariant _
    (motive := fun storage : Storage => storage.totalStaked.toNat = stakesTotal storage.stakes)
    (fun _ => True) ?_ counted (fun _ _ => trivial)
  exact fun before tx next response balanced _ commits => effect_total (commit_effect commits) balanced

/-- An entry is what its address deposited less what it took back. -/
theorem run_entries (api : Api) (ownable : Package) (contract : Addr) {start : Storage}
    (empty : start.stakes = ∅) (txs : List Tx) (user : Addr) :
    stakedAmount ((machine api ownable contract).run start txs) user +
        (machine api ownable contract).tally (unstakedBy user) start txs =
      (machine api ownable contract).tally (stakedBy user) start txs := by
  apply Machine.history_rule (motive := fun txs storage =>
    stakedAmount storage user + (machine api ownable contract).tally (unstakedBy user) start txs =
      (machine api ownable contract).tally (stakedBy user) start txs)
  · exact stakedAmount_of_empty empty user
  · intro txs tx next response earlier commits
    have moved := effect_amount (commit_effect commits) user
    rw [Machine.tally_snoc_ok _ _ commits, Machine.tally_snoc_ok _ _ commits]
    change _ + (_ + withdrawn user tx.sender tx.msg) = _ + deposited user tx.sender tx.msg
    omega
  · intro txs tx reason earlier fails
    rw [Machine.tally_snoc_error _ _ fails, Machine.tally_snoc_error _ _ fails]
    exact earlier

/-- An entry is never more than the stored total. -/
theorem entry_le_total {storage : Storage} (balanced : storage.totalStaked.toNat = stakesTotal storage.stakes)
    {user : Addr} {entry : StakeInfo} (present : storage.stakes.mayLoad user = some entry) :
    entry.amount.toNat ≤ storage.totalStaked.toNat := by
  rw [balanced, ← stakedAmount_of_present present]
  exact Map.value_le_total _ storage.stakes user

/-- With a balanced book, the subtraction from the total never reports an overflow. -/
theorem executeUnstake_no_overflow {storage : Storage}
    (balanced : storage.totalStaked.toNat = stakesTotal storage.stakes) (env : Env) (info : MessageInfo)
    (amount : Uint128) (operation : OverflowOperation) (operand1 operand2 : String) :
    executeUnstake storage env info amount ≠
      .error (.error (.std (.overflow operation operand1 operand2))) := by
  intro fails
  unfold executeUnstake at fails
  rcases bind_eq_error.mp fails with missing | ⟨entry, present, fails⟩
  · cases stored : storage.stakes.mayLoad info.sender <;> simp [loadStake, stored, okOr, into] at missing
  rw [loadStake_eq_ok] at present
  split at fails
  next => simp at fails
  next covered =>
    rcases bind_eq_error.mp fails with early | ⟨elapsed, _, fails⟩
    · exact unwrap_ne_error early
    split at fails
    next => simp at fails
    next =>
      rcases bind_eq_error.mp fails with unpriced | ⟨reward, _, fails⟩
      · exact calculateRewardApr_ne_error unpriced
      rcases bind_eq_error.mp fails with short | ⟨rest, _, fails⟩
      · exact unwrap_ne_error short
      rcases bind_eq_error.mp fails with overflow | ⟨total, _, impossible⟩
      · have within := entry_le_total balanced present
        have counted : amount.toNat ≤ storage.totalStaked.toNat := by omega
        obtain ⟨total, remains⟩ := Word.checkedSub_of_le counted
        simp [remains, okOr, into] at overflow
      · cases impossible

/-- After any run: the stored total is the sum of the entries, every entry is its
address's deposits less its withdrawals, and no Unstake fails on the total. -/
theorem bookkeeping_exact (api : Api) (ownable : Package) (contract : Addr) (msg : InstantiateMsg)
    (start : Storage) (response : Response)
    (made : instantiate api ownable msg = .ok (start, response)) (txs : List Tx) :
    ((machine api ownable contract).run start txs).totalStaked.toNat =
        stakesTotal ((machine api ownable contract).run start txs).stakes ∧
    (∀ user, stakedAmount ((machine api ownable contract).run start txs) user =
      (machine api ownable contract).tally (stakedBy user) start txs -
        (machine api ownable contract).tally (unstakedBy user) start txs ∧
      (machine api ownable contract).tally (unstakedBy user) start txs ≤
        (machine api ownable contract).tally (stakedBy user) start txs) ∧
    ∀ env info amount operation operand1 operand2,
      executeUnstake ((machine api ownable contract).run start txs) env info amount ≠
        .error (.error (.std (.overflow operation operand1 operand2))) := by
  obtain ⟨empty, zero⟩ := instantiate_empty made
  have counted : start.totalStaked.toNat = stakesTotal start.stakes := by
    rw [zero, empty]
    exact (Map.total_empty _).symm
  have total := run_counted api ownable contract counted txs
  refine ⟨total, fun user => ?_, ?_⟩
  · have entry := run_entries api ownable contract empty txs user
    omega
  · intro env info amount operation operand1 operand2
    exact executeUnstake_no_overflow total env info amount operation operand1 operand2

/-- The pool of the integration tests: ten percent a year, locked for thirty days. -/
def testMsg : InstantiateMsg :=
  { owner := "owner", tokenAddress := "token", rewardRate := word 1000, lockupPeriod := word 2592000 }

def testPool : Storage where
  ownership := { owner := some ⟨"owner"⟩, pendingOwner := none, pendingExpiry := none }
  config := { tokenAddress := ⟨"token"⟩, apr := word 1000, lockupPeriod := word 2592000 }
  stakes := ∅
  totalStaked := Word.zero

def testResponse : Response := Response.new.addAttribute "action" "instantiate"

/-- A block by its time in whole seconds. -/
def blockAt (number : Nat) : BlockInfo :=
  { height := word 1, time := ⟨word (number * 1000000000)⟩ }

/-- A deposit, a withdrawal that comes too early, a claim after the lockup, a change of
rates and the withdrawal of half a deposit. -/
def testHistory : List Tx :=
  [⟨blockAt 100, ⟨"user1"⟩, .stake (word 100000), true⟩,
    ⟨blockAt 200, ⟨"user1"⟩, .unstake (word 1), true⟩,
    ⟨blockAt 2592100, ⟨"user1"⟩, .claimRewards, true⟩,
    ⟨blockAt 2592200, ⟨"owner"⟩, .changeConfig (word 2000) (word 3600), true⟩,
    ⟨blockAt 2599200, ⟨"user1"⟩, .unstake (word 50000), true⟩]

theorem bookkeeping_exact_testHistory :
    ((machine Api.accepting Package.documented ⟨"staking"⟩).run testPool testHistory).totalStaked.toNat =
      stakesTotal ((machine Api.accepting Package.documented ⟨"staking"⟩).run testPool testHistory).stakes :=
  (bookkeeping_exact Api.accepting Package.documented ⟨"staking"⟩ testMsg testPool testResponse rfl
    testHistory).1

example : stakedAmount ((machine Api.accepting Package.documented ⟨"staking"⟩).run testPool testHistory)
    ⟨"user1"⟩ = 50000 := by decide

end CosmwasmContracts.Staking
