import CosmwasmContracts.Staking.Payouts

/-! What the pool's event log tells. Whoever reads the attributes of the committed messages,
with the time of the block that each was in, knows every entry with its time, the total, the
rate, the lockup and every reward paid. -/

namespace CosmwasmContracts.Staking
open Library.CheckedWord Library.FiniteMap Library.TransactionMachine CosmwasmStd CwOwnable

/-- An entry of the log, as its attributes tell it. -/
inductive Notice where
  | staked (staker : Addr) (amount : Nat)
  | unstaked (staker : Addr) (amount reward : Nat)
  | claimed (staker : Addr) (reward : Nat)
  | configured (apr lockupPeriod : Nat)
  | other
  deriving DecidableEq

def Notice.ofAttributes (attributes : List (String × String)) : Notice :=
  if field attributes "action" = "stake" then
    .staked ⟨field attributes "from"⟩ (number (field attributes "amount"))
  else if field attributes "action" = "unstake" then
    .unstaked ⟨field attributes "to"⟩ (number (field attributes "amount"))
      (number (field attributes "reward"))
  else if field attributes "action" = "claim_rewards" then
    .claimed ⟨field attributes "to"⟩ (number (field attributes "reward"))
  else if field attributes "action" = "change_config" then
    .configured (number (field attributes "new_apr")) (number (field attributes "new_lockup_period"))
  else .other

/-- A notice with the time of its block, in nanoseconds. -/
structure Logged where
  time : Nat
  notice : Notice
  deriving DecidableEq

def logged (_ : Storage) (tx : Tx) (response : Response) : List Logged :=
  [⟨nanos tx, .ofAttributes response.attributes⟩]

/-- What a notice says was paid to an address. -/
def Notice.paidTo (user : Addr) : Notice → Nat
  | .unstaked staker _ reward => if staker = user then reward else 0
  | .claimed staker reward => if staker = user then reward else 0
  | _ => 0

/-- What a reader of the log keeps: for each address the amount of its entry and its time. -/
@[ext]
structure Books where
  entry : Addr → Option (Nat × Nat)
  total : Nat
  apr : Nat
  lockupPeriod : Nat

namespace Books

/-- A stake joins the entry that is there, whose time stays, or opens one. -/
def joined (amount time : Nat) : Option (Nat × Nat) → Option (Nat × Nat)
  | some (held, since) => some (held + amount, since)
  | none => some (amount, time)

/-- A payout restarts what it leaves of an entry; nothing is left of one that it empties. -/
def paidOut (amount time : Nat) : Option (Nat × Nat) → Option (Nat × Nat)
  | some (held, _) => if held = amount then none else some (held - amount, time)
  | none => none

def note (books : Books) (logged : Logged) : Books :=
  match logged.notice with
  | .staked staker amount =>
      { books with
        entry := Function.update books.entry staker (joined amount logged.time (books.entry staker)),
        total := books.total + amount }
  | .unstaked staker amount _ =>
      { books with
        entry := Function.update books.entry staker (paidOut amount logged.time (books.entry staker)),
        total := books.total - amount }
  | .claimed staker _ =>
      { books with
        entry := Function.update books.entry staker
          ((books.entry staker).map fun entry => (entry.1, logged.time)) }
  | .configured apr lockupPeriod => { books with apr := apr, lockupPeriod := lockupPeriod }
  | .other => books

end Books

def StakeInfo.numbers (entry : StakeInfo) : Nat × Nat := (entry.amount.toNat, entry.stakeTime.nanos.toNat)

def entriesOf (stakes : Map Addr StakeInfo) (user : Addr) : Option (Nat × Nat) :=
  (stakes.mayLoad user).map StakeInfo.numbers

/-- The books as the storage has them. -/
def booksOf (storage : Storage) : Books where
  entry := entriesOf storage.stakes
  total := storage.totalStaked.toNat
  apr := storage.config.apr.toNat
  lockupPeriod := storage.config.lockupPeriod.toNat

/-- What a message does, as the log should tell it. -/
def ExecuteMsg.notice (sender : Addr) (reward : Nat) : ExecuteMsg → Notice
  | .stake amount => .staked sender amount.toNat
  | .unstake amount => .unstaked sender amount.toNat reward
  | .claimRewards => .claimed sender reward
  | .changeConfig newApr newLockupPeriod => .configured newApr.toNat newLockupPeriod.toNat
  | .updateOwnership _ => .other

section Effects

variable {before next : Storage} {now : Timestamp} {contract sender : Addr} {msg : ExecuteMsg}
variable {messages : List CosmosMsg}

theorem entriesOf_save (stakes : Map Addr StakeInfo) (sender : Addr) (entry : StakeInfo) :
    entriesOf (stakes.save sender entry) = Function.update (entriesOf stakes) sender (some entry.numbers) := by
  funext user
  by_cases own : user = sender
  · subst own
    rw [entriesOf, Map.mayLoad_save_self, Function.update_self]
    rfl
  · rw [entriesOf, Map.mayLoad_save_of_ne _ _ own, Function.update_of_ne own]
    rfl

theorem entriesOf_remove (stakes : Map Addr StakeInfo) (sender : Addr) :
    entriesOf (stakes.remove sender) = Function.update (entriesOf stakes) sender none := by
  funext user
  by_cases own : user = sender
  · subst own
    rw [entriesOf, Map.mayLoad_remove_self, Function.update_self]
    rfl
  · rw [entriesOf, Map.mayLoad_remove_of_ne _ own, Function.update_of_ne own]
    rfl

theorem entriesOf_present {stakes : Map Addr StakeInfo} {entry : StakeInfo}
    (present : stakes.mayLoad sender = some entry) : entriesOf stakes sender = some entry.numbers := by
  rw [entriesOf, present]
  rfl

theorem entriesOf_absent {stakes : Map Addr StakeInfo} (absent : stakes.mayLoad sender = none) :
    entriesOf stakes sender = none := by
  rw [entriesOf, absent]
  rfl

/-- The books where an entry was written, beside the total that goes with it. -/
theorem booksOf_save (storage : Storage) (sender : Addr) (entry : StakeInfo) (total : Uint128) :
    booksOf { storage with stakes := storage.stakes.save sender entry, totalStaked := total } =
      { booksOf storage with
        entry := Function.update (entriesOf storage.stakes) sender (some entry.numbers),
        total := total.toNat } :=
  Books.ext (entriesOf_save storage.stakes sender entry) rfl rfl rfl

theorem booksOf_remove (storage : Storage) (sender : Addr) (total : Uint128) :
    booksOf { storage with stakes := storage.stakes.remove sender, totalStaked := total } =
      { booksOf storage with
        entry := Function.update (entriesOf storage.stakes) sender none,
        total := total.toNat } :=
  Books.ext (entriesOf_remove storage.stakes sender) rfl rfl rfl

/-- The books move as the notice of a message says. -/
theorem books_noted (effect : Effect before now contract sender msg next messages) (reward : Nat) :
    booksOf next = (booksOf before).note ⟨now.nanos.toNat, msg.notice sender reward⟩ := by
  cases effect with
  | opened amount total absent sum =>
    have opens : Books.joined amount.toNat now.nanos.toNat (entriesOf before.stakes sender) =
        some (amount.toNat, now.nanos.toNat) := by
      rw [entriesOf_absent absent]
      rfl
    rw [booksOf_save, sum]
    exact Books.ext (congrArg (Function.update (entriesOf before.stakes) sender) opens.symm) rfl rfl rfl
  | toppedUp amount held total entry present grown sum =>
    have joins : Books.joined amount.toNat now.nanos.toNat (entriesOf before.stakes sender) =
        some (held.toNat, entry.stakeTime.nanos.toNat) := by
      rw [entriesOf_present present, grown]
      rfl
    rw [booksOf_save, sum]
    exact Books.ext (congrArg (Function.update (entriesOf before.stakes) sender) joins.symm) rfl rfl rfl
  | reduced amount rest reward' total entry payout positive parts remains =>
    have left : ¬entry.amount.toNat = amount.toNat := by omega
    have difference : entry.amount.toNat - amount.toNat = rest.toNat := by omega
    have restarts : Books.paidOut amount.toNat now.nanos.toNat (entriesOf before.stakes sender) =
        some (rest.toNat, now.nanos.toNat) := by
      rw [entriesOf_present payout.present]
      exact (if_neg left).trans (by rw [difference])
    have released : total.toNat = before.totalStaked.toNat - amount.toNat := by omega
    rw [booksOf_save]
    exact Books.ext (congrArg (Function.update (entriesOf before.stakes) sender) restarts.symm) released rfl rfl
  | closed amount reward' total entry payout all remains =>
    have empties : Books.paidOut amount.toNat now.nanos.toNat (entriesOf before.stakes sender) = none := by
      rw [entriesOf_present payout.present]
      exact if_pos all.symm
    have released : total.toNat = before.totalStaked.toNat - amount.toNat := by omega
    rw [booksOf_remove]
    exact Books.ext (congrArg (Function.update (entriesOf before.stakes) sender) empties.symm) released rfl rfl
  | claimed reward' entry payout positive =>
    have restarts : (entriesOf before.stakes sender).map (fun entry => (entry.1, now.nanos.toNat)) =
        some (entry.amount.toNat, now.nanos.toNat) := by
      rw [entriesOf_present payout.present]
      rfl
    refine (booksOf_save before sender _ before.totalStaked).trans ?_
    exact Books.ext (congrArg (Function.update (entriesOf before.stakes) sender) restarts.symm) rfl rfl rfl
  | reconfigured | reowned => rfl

end Effects

section Message

variable {api : Api} {ownable : Package} {contract : Addr} {before next : Storage} {tx : Tx}
variable {response : Response}

theorem mintedTo_pay (storage : Storage) (user sender : Addr) (reward : Uint128) :
    mintedTo user (rewardMsgs storage sender reward) = if sender = user then reward.toNat else 0 := by
  by_cases own : sender = user
  · rw [if_pos own, ← own, mintedTo_rewardMsgs]
  · rw [if_neg own, mintedTo_rewardMsgs_of_ne _ _ own]

/-- What is written is what is read: the attributes of a committed message tell what it did and
what it mints. -/
theorem notice_logged (commits : (machine api ownable contract).exec before tx = .ok (next, response)) :
    ∃ reward, Notice.ofAttributes response.attributes = tx.msg.notice tx.sender reward ∧
      ∀ user, (tx.msg.notice tx.sender reward).paidTo user = mintedTo user response.messages := by
  have success := exec_execute commits
  obtain ⟨block, sender, msg, dispatched⟩ := tx
  cases msg with
  | stake amount =>
    obtain ⟨_, _, success⟩ := bind_eq_ok.mp success
    obtain ⟨_, _, success⟩ := bind_eq_ok.mp success
    cases success
    refine ⟨0, ?_, fun user => (mintedTo_depositMsg _ _ _ _ _).symm⟩
    change Notice.staked _ (number (toString amount.toNat)) = _
    rw [number_toString]
    rfl
  | unstake amount =>
    obtain ⟨_, _, success⟩ := bind_eq_ok.mp success
    obtain ⟨_, success⟩ := guard_eq_ok.mp success
    obtain ⟨_, _, success⟩ := bind_eq_ok.mp success
    obtain ⟨_, success⟩ := guard_eq_ok.mp success
    obtain ⟨reward, _, success⟩ := bind_eq_ok.mp success
    obtain ⟨_, _, success⟩ := bind_eq_ok.mp success
    obtain ⟨_, _, success⟩ := bind_eq_ok.mp success
    cases success
    refine ⟨reward.toNat, ?_, fun user => ?_⟩
    · change Notice.unstaked _ (number (toString amount.toNat)) (number (toString reward.toNat)) = _
      rw [number_toString, number_toString]
      rfl
    · change _ = mintedTo user (rewardMsgs before sender reward ++ [withdrawMsg before sender amount])
      rw [mintedTo_append, mintedTo_pay, mintedTo_withdrawMsg]
      rfl
  | claimRewards =>
    obtain ⟨_, _, success⟩ := bind_eq_ok.mp success
    obtain ⟨_, _, success⟩ := bind_eq_ok.mp success
    obtain ⟨_, success⟩ := guard_eq_ok.mp success
    obtain ⟨reward, _, success⟩ := bind_eq_ok.mp success
    obtain ⟨positive, success⟩ := guard_eq_ok.mp success
    cases success
    refine ⟨reward.toNat, ?_, fun user => ?_⟩
    · change Notice.claimed _ (number (toString reward.toNat)) = _
      rw [number_toString]
      rfl
    · rw [Word.isZero_eq_true] at positive
      change _ = mintedTo user [mintMsg before sender reward]
      rw [← rewardMsgs_of_positive before sender positive, mintedTo_pay]
      rfl
  | changeConfig newApr newLockupPeriod =>
    obtain ⟨_, _, success⟩ := bind_eq_ok.mp success
    cases success
    refine ⟨0, ?_, fun user => rfl⟩
    change Notice.configured (number (toString newApr.toNat)) (number (toString newLockupPeriod.toNat)) = _
    rw [number_toString, number_toString]
    rfl
  | updateOwnership action =>
    obtain ⟨_, _, success⟩ := bind_eq_ok.mp success
    cases success
    exact ⟨0, rfl, fun user => rfl⟩

end Message

/-- After any messages from anyone, a reader of the log that starts with the terms of the
instantiation has every entry with its time, the total, the rate and the lockup as the storage
has them, and the rewards it has read for an address are those that were minted to it. -/
theorem log_tells_stakes (api : Api) (ownable : Package) (contract : Addr) (msg : InstantiateMsg)
    (first : Storage) (response : Response) (made : instantiate api ownable msg = .ok (first, response))
    (txs : List Tx) :
    booksOf ((machine api ownable contract).run first txs) =
        ((machine api ownable contract).observe logged first txs).foldl Books.note
          { entry := fun _ => none,
            total := 0,
            apr := msg.rewardRate.toNat,
            lockupPeriod := msg.lockupPeriod.toNat } ∧
      ∀ user, (((machine api ownable contract).observe logged first txs).map
          fun entry => entry.notice.paidTo user).sum =
        (machine api ownable contract).tally (rewardedTo user) first txs := by
  constructor
  · have start : booksOf first =
        { entry := fun _ => none,
          total := 0,
          apr := msg.rewardRate.toNat,
          lockupPeriod := msg.lockupPeriod.toNat } := by
      obtain ⟨ownership, _, made⟩ := bind_eq_ok.mp made
      obtain ⟨token, _, made⟩ := bind_eq_ok.mp made
      cases made
      rfl
    rw [← start]
    apply Machine.fold_rule
    intro before tx next out commits
    obtain ⟨reward, told, _⟩ := notice_logged commits
    rw [logged, told]
    exact books_noted (commit_effect commits) reward
  · intro user
    apply Machine.sum_observe
    intro before tx next out commits
    obtain ⟨reward, told, paid⟩ := notice_logged commits
    rw [logged, told, List.map_singleton, List.sum_singleton, paid]
    rfl

theorem log_tells_stakes_testHistory :
    booksOf ((machine Api.accepting Package.documented ⟨"staking"⟩).run testPool testHistory) =
      ((machine Api.accepting Package.documented ⟨"staking"⟩).observe logged testPool testHistory).foldl
        Books.note { entry := fun _ => none, total := 0, apr := 1000, lockupPeriod := 2592000 } :=
  (log_tells_stakes Api.accepting Package.documented ⟨"staking"⟩ testMsg testPool testResponse rfl
    testHistory).1

end CosmwasmContracts.Staking
