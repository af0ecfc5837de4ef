import CosmwasmContracts.Staking.Bookkeeping
import CosmwasmContracts.Library.TimedHistory

/-! Payouts. A successful Unstake or ClaimRewards is paid for the window from the
entry's time to the block time, and every entry's clock restarts at that block. Any
other message mints nothing and leaves the running clocks where they are. -/

namespace CosmwasmContracts.Staking
open Library.CheckedWord Library.FiniteMap Library.TransactionMachine Library.TimedHistory
  CosmwasmStd CwOwnable

/-- The amount that a list of messages mints to an address. -/
def mintedTo (user : Addr) (messages : List CosmosMsg) : Nat :=
  (messages.map fun message =>
    match message.msg with
    | .mint recipient amount => if recipient = user.text then amount.toNat else 0
    | _ => 0).sum

def rewardedTo (user : Addr) (_ : Storage) (_ : Tx) (response : Response) : Nat :=
  mintedTo user response.messages

def ExecuteMsg.Pays : ExecuteMsg → Prop
  | .unstake _ => True
  | .claimRewards => True
  | _ => False

instance decidablePays : (msg : ExecuteMsg) → Decidable msg.Pays
  | .unstake _ => .isTrue trivial
  | .claimRewards => .isTrue trivial
  | .stake _ => .isFalse id
  | .changeConfig _ _ => .isFalse id
  | .updateOwnership _ => .isFalse id

theorem deposited_of_ne {user sender : Addr} (other : sender ≠ user) (msg : ExecuteMsg) :
    deposited user sender msg = 0 := by
  cases msg with
  | stake amount => exact if_neg other
  | unstake | claimRewards | changeConfig | updateOwnership => rfl

theorem deposited_of_pays {msg : ExecuteMsg} (pays : msg.Pays) (user sender : Addr) :
    deposited user sender msg = 0 := by
  cases msg with
  | stake => exact pays.elim
  | unstake | claimRewards | changeConfig | updateOwnership => rfl

theorem withdrawn_of_unpaid {user sender : Addr} {msg : ExecuteMsg} (unpaid : ¬(sender = user ∧ msg.Pays)) :
    withdrawn user sender msg = 0 := by
  cases msg with
  | unstake amount => exact if_neg fun own => unpaid ⟨own, trivial⟩
  | stake | claimRewards | changeConfig | updateOwnership => rfl

def ExecuteMsg.ChangesConfig : ExecuteMsg → Prop
  | .changeConfig _ _ => True
  | _ => False

instance decidableChangesConfig : (msg : ExecuteMsg) → Decidable msg.ChangesConfig
  | .changeConfig _ _ => .isTrue trivial
  | .stake _ => .isFalse id
  | .unstake _ => .isFalse id
  | .claimRewards => .isFalse id
  | .updateOwnership _ => .isFalse id

def seconds (tx : Tx) : Nat := tx.block.time.seconds.toNat

def nanos (tx : Tx) : Nat := tx.block.time.nanos.toNat

/-- The second from which an address's next payout would run: its entry's time, or
the present where it has none. -/
def resumes (storage : Storage) (now : Nat) (user : Addr) : Nat :=
  match storage.stakes.mayLoad user with
  | some entry => entry.stakeTime.seconds.toNat
  | none => now

theorem resumes_of_present {storage : Storage} {user : Addr} {entry : StakeInfo} (now : Nat)
    (present : storage.stakes.mayLoad user = some entry) :
    resumes storage now user = entry.stakeTime.seconds.toNat := by
  simp [resumes, present]

theorem resumes_of_absent {storage : Storage} {user : Addr} (now : Nat)
    (absent : storage.stakes.mayLoad user = none) : resumes storage now user = now := by
  simp [resumes, absent]

theorem resumes_restarted {storage : Storage} {user : Addr} {now : Timestamp}
    (restarted : ∀ kept, storage.stakes.mayLoad user = some kept → kept.stakeTime = now) :
    resumes storage now.seconds.toNat user = now.seconds.toNat := by
  cases stored : storage.stakes.mayLoad user with
  | none => exact resumes_of_absent _ stored
  | some kept => rw [resumes_of_present _ stored, restarted kept stored]

theorem text_ne {first second : Addr} (different : first ≠ second) : first.text ≠ second.text :=
  fun same => different (by cases first; cases second; exact congrArg Addr.mk same)

theorem mintedTo_append (user : Addr) (first second : List CosmosMsg) :
    mintedTo user (first ++ second) = mintedTo user first + mintedTo user second := by
  unfold mintedTo
  rw [List.map_append, List.sum_append]

theorem mintedTo_mintMsg (storage : Storage) (sender : Addr) (amount : Uint128) :
    mintedTo sender [mintMsg storage sender amount] = amount.toNat := by
  simp [mintedTo, mintMsg]

theorem mintedTo_mintMsg_of_ne (storage : Storage) {user sender : Addr} (amount : Uint128)
    (different : sender ≠ user) : mintedTo user [mintMsg storage sender amount] = 0 := by
  simp [mintedTo, mintMsg, text_ne different]

theorem mintedTo_rewardMsgs (storage : Storage) (sender : Addr) (reward : Uint128) :
    mintedTo sender (rewardMsgs storage sender reward) = reward.toNat := by
  unfold rewardMsgs
  split
  next zero =>
    rw [Word.isZero_eq_true] at zero
    exact zero.symm
  next => exact mintedTo_mintMsg storage sender reward

theorem mintedTo_rewardMsgs_of_ne (storage : Storage) {user sender : Addr} (reward : Uint128)
    (different : sender ≠ user) : mintedTo user (rewardMsgs storage sender reward) = 0 := by
  unfold rewardMsgs
  split
  next => rfl
  next => exact mintedTo_mintMsg_of_ne storage reward different

theorem mintedTo_withdrawMsg (storage : Storage) (user sender : Addr) (amount : Uint128) :
    mintedTo user [withdrawMsg storage sender amount] = 0 := rfl

theorem mintedTo_depositMsg (storage : Storage) (user contract sender : Addr) (amount : Uint128) :
    mintedTo user [depositMsg storage contract sender amount] = 0 := rfl

section Step

variable {before next : Storage} {now : Timestamp} {contract sender : Addr} {msg : ExecuteMsg}
variable {messages : List CosmosMsg}

theorem effect_config (effect : Effect before now contract sender msg next messages)
    (fixed : ¬msg.ChangesConfig) : next.config = before.config := by
  cases effect with
  | reconfigured => exact (fixed trivial).elim
  | opened | toppedUp | reduced | closed | claimed | reowned => rfl

/-- A payout mints its exact reward to the sender and restarts the sender's clock. -/
theorem effect_payment (effect : Effect before now contract sender msg next messages)
    (pays : msg.Pays) :
    ∃ entry reward, Payout before now sender entry reward ∧
      mintedTo sender messages = reward.toNat ∧
      ∀ kept, next.stakes.mayLoad sender = some kept → kept.stakeTime = now := by
  cases effect with
  | reduced amount rest reward total entry payout positive parts remains =>
    refine ⟨entry, reward, payout, ?_, ?_⟩
    · rw [mintedTo_append, mintedTo_rewardMsgs, mintedTo_withdrawMsg, Nat.add_zero]
    · intro kept present
      cases (Map.mayLoad_save_self _ _ _).symm.trans present
      rfl
  | closed amount reward total entry payout all remains =>
    refine ⟨entry, reward, payout, ?_, ?_⟩
    · rw [mintedTo_append, mintedTo_rewardMsgs, mintedTo_withdrawMsg, Nat.add_zero]
    · intro kept present
      cases (Map.mayLoad_remove_self _ _).symm.trans present
  | claimed reward entry payout positive =>
    refine ⟨entry, reward, payout, mintedTo_mintMsg before sender reward, ?_⟩
    intro kept present
    cases (Map.mayLoad_save_self _ _ _).symm.trans present
    rfl
  | opened | toppedUp | reconfigured | reowned => exact pays.elim

/-- Where an entry's time comes from when no payout of its address is made. -/
theorem effect_quiet (effect : Effect before now contract sender msg next messages) {user : Addr}
    (quiet : ¬(sender = user ∧ msg.Pays)) :
    mintedTo user messages = 0 ∧
      (next.stakes.mayLoad user = none → before.stakes.mayLoad user = none) ∧
      ∀ kept, next.stakes.mayLoad user = some kept →
        (∃ entry, before.stakes.mayLoad user = some entry ∧ kept.stakeTime = entry.stakeTime) ∨
        (before.stakes.mayLoad user = none ∧ kept.stakeTime = now) := by
  by_cases own : sender = user
  · subst own
    cases effect with
    | opened amount total absent sum =>
      refine ⟨mintedTo_depositMsg _ _ _ _ _, fun _ => absent, ?_⟩
      intro kept present
      cases (Map.mayLoad_save_self _ _ _).symm.trans present
      exact Or.inr ⟨absent, rfl⟩
    | toppedUp amount held total entry present grown sum =>
      refine ⟨mintedTo_depositMsg _ _ _ _ _, fun missing => ?_, ?_⟩
      · cases (Map.mayLoad_save_self _ _ _).symm.trans missing
      · intro kept stored
        cases (Map.mayLoad_save_self _ _ _).symm.trans stored
        exact Or.inl ⟨entry, present, rfl⟩
    | reconfigured | reowned =>
      exact ⟨rfl, fun absent => absent, fun kept present => Or.inl ⟨kept, present, rfl⟩⟩
    | reduced | closed | claimed => exact (quiet ⟨rfl, trivial⟩).elim
  · have frame := effect_frame effect (Ne.symm own)
    refine ⟨?_, fun absent => frame ▸ absent,
      fun kept present => Or.inl ⟨kept, frame ▸ present, rfl⟩⟩
    cases effect with
    | reduced amount rest reward total entry payout positive parts remains =>
      rw [mintedTo_append, mintedTo_rewardMsgs_of_ne _ _ own, mintedTo_withdrawMsg]
    | closed amount reward total entry payout all remains =>
      rw [mintedTo_append, mintedTo_rewardMsgs_of_ne _ _ own, mintedTo_withdrawMsg]
    | claimed reward entry payout positive => exact mintedTo_mintMsg_of_ne _ _ own
    | opened | toppedUp => exact mintedTo_depositMsg _ _ _ _ _
    | reconfigured | reowned => rfl

end Step

/-- No entry is timed later than the block that wrote it. -/
def TimesReached (storage : Storage) (now : Nat) : Prop :=
  ∀ user entry, storage.stakes.mayLoad user = some entry → entry.stakeTime.nanos.toNat ≤ now

theorem effect_times {before next : Storage} {now : Timestamp} {contract sender : Addr}
    {msg : ExecuteMsg} {messages : List CosmosMsg} {earlier : Nat}
    (effect : Effect before now contract sender msg next messages)
    (times : TimesReached before earlier) (ordered : earlier ≤ now.nanos.toNat) :
    TimesReached next now.nanos.toNat := by
  intro user kept present
  by_cases paid : sender = user ∧ msg.Pays
  · obtain ⟨rfl, pays⟩ := paid
    obtain ⟨_, _, _, _, restarted⟩ := effect_payment effect pays
    rw [restarted kept present]
  · rcases (effect_quiet effect paid).2.2 kept present with ⟨entry, old, same⟩ | ⟨_, same⟩
    · rw [same]
      exact (times user entry old).trans ordered
    · rw [same]

end CosmwasmContracts.Staking
