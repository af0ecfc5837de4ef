import CosmwasmContracts.Library.Projection
import CosmwasmContracts.Staking.Alike

/-! Stakers do not matter to one another. A group of stakers alone with the contract, under
the same configuration and the same owner, does with its messages what it did among all
the others: every one that went through goes through, at the same rewards. -/

namespace CosmwasmContracts.Staking
open Library.CheckedWord Library.FiniteMap Library.TransactionMachine Library.Lockstep Library.Projection
  CosmwasmStd CwOwnable

/-- The settings of a storage, and the entries of a group of addresses alone. -/
structure OwnEntries (Group : Addr → Prop) [DecidablePred Group] (storage part : Storage) : Prop where
  config : storage.config = part.config
  ownership : storage.ownership = part.ownership
  entries : ∀ user, part.stakes.mayLoad user = if Group user then storage.stakes.mayLoad user else none

/-- A storage as a group would have left it on their own. -/
structure OwnPart (Group : Addr → Prop) [DecidablePred Group] (storage part : Storage) : Prop
    extends OwnEntries Group storage part where
  counted : storage.totalStaked.toNat = stakesTotal storage.stakes
  partCounted : part.totalStaked.toNat = stakesTotal part.stakes

/-- The owner's messages, which everyone's payouts depend on. -/
def ExecuteMsg.Governs : ExecuteMsg → Prop
  | .changeConfig _ _ => True
  | .updateOwnership _ => True
  | _ => False

instance decidableGoverns : (msg : ExecuteMsg) → Decidable msg.Governs
  | .changeConfig _ _ => .isTrue trivial
  | .updateOwnership _ => .isTrue trivial
  | .stake _ => .isFalse id
  | .unstake _ => .isFalse id
  | .claimRewards => .isFalse id

theorem effect_settings {before next : Storage} {now : Timestamp} {contract sender : Addr} {msg : ExecuteMsg}
    {messages : List CosmosMsg} (effect : Effect before now contract sender msg next messages)
    (ordinary : ¬msg.Governs) : next.config = before.config ∧ next.ownership = before.ownership := by
  cases effect with
  | opened | toppedUp | reduced | closed | claimed => exact ⟨rfl, rfl⟩
  | reconfigured | reowned => exact absurd trivial ordinary

theorem effect_silent {before next : Storage} {now : Timestamp} {contract sender : Addr} {msg : ExecuteMsg}
    {messages : List CosmosMsg} (effect : Effect before now contract sender msg next messages)
    (governs : msg.Governs) : messages = [] := by
  cases effect with
  | opened | toppedUp | reduced | closed | claimed => exact governs.elim
  | reconfigured | reowned => rfl

section Parts

variable {Group : Addr → Prop} [DecidablePred Group] {storage part : Storage} {user : Addr}

theorem OwnEntries.entry (own : OwnEntries Group storage part) (among : Group user) :
    part.stakes.mayLoad user = storage.stakes.mayLoad user := by
  rw [own.entries, if_pos among]

theorem OwnEntries.save (own : OwnEntries Group storage part) (among : Group user) (entry : StakeInfo)
    (total total' : Uint128) :
    OwnEntries Group { storage with stakes := storage.stakes.save user entry, totalStaked := total }
      { part with stakes := part.stakes.save user entry, totalStaked := total' } where
  config := own.config
  ownership := own.ownership
  entries := by
    intro reader
    change (part.stakes.save user entry).mayLoad reader =
      if Group reader then (storage.stakes.save user entry).mayLoad reader else none
    rw [Map.mayLoad_save, Map.mayLoad_save]
    by_cases same : reader = user
    · subst same
      rw [if_pos rfl, if_pos rfl, if_pos among]
    · rw [if_neg same, if_neg same]
      exact own.entries reader

theorem OwnEntries.remove (own : OwnEntries Group storage part) (total total' : Uint128) :
    OwnEntries Group { storage with stakes := storage.stakes.remove user, totalStaked := total }
      { part with stakes := part.stakes.remove user, totalStaked := total' } where
  config := own.config
  ownership := own.ownership
  entries := by
    intro reader
    change (part.stakes.remove user).mayLoad reader =
      if Group reader then (storage.stakes.remove user).mayLoad reader else none
    rw [Map.mayLoad_remove, Map.mayLoad_remove]
    by_cases same : reader = user
    · rw [if_pos same, if_pos same, ite_self]
    · rw [if_neg same, if_neg same]
      exact own.entries reader

/-- The group's own total is part of the total. -/
theorem OwnPart.total_le (own : OwnPart Group storage part) :
    part.totalStaked.toNat ≤ storage.totalStaked.toNat := by
  rw [own.counted, own.partCounted]
  apply Map.total_mono
  intro user
  unfold Map.value
  rw [own.entries]
  by_cases among : Group user
  · rw [if_pos among]
  · rw [if_neg among]
    exact Nat.zero_le _

end Parts

section Steps

variable {Group : Addr → Prop} [DecidablePred Group] {storage part next : Storage} {env : Env}
variable {info : MessageInfo} {amount : Uint128} {response : Response}
variable (own : OwnPart Group storage part) (among : Group info.sender)
include own among

end Steps

/-- The messages that a group sent, and those that govern everyone. -/
def Concerns (Group : Addr → Prop) (tx : Tx) : Prop := Group tx.sender ∨ tx.msg.Governs

instance decidableConcerns (Group : Addr → Prop) [DecidablePred Group] (tx : Tx) : Decidable (Concerns Group tx) :=
  inferInstanceAs (Decidable (_ ∨ _))

section Histories

variable {Group : Addr → Prop} [DecidablePred Group] {api : Api} {ownable : Package} {contract : Addr}
variable {storage part next : Storage} {tx : Tx} {response : Response}
variable (own : OwnPart Group storage part)
include own

end Histories

end CosmwasmContracts.Staking
