import CosmwasmContracts.CosmwasmStd

/-! The interface of the `cw_ownable` package, whose code is not part of the
repository. Its public data types are written out; its operations are parameters. -/

namespace CosmwasmContracts.CwOwnable
open Library.CheckedWord CosmwasmStd

inductive Expiration where
  | atHeight (height : Word 64)
  | atTime (time : Timestamp)
  | never
  deriving DecidableEq

structure Ownership where
  owner : Option Addr
  pendingOwner : Option Addr
  pendingExpiry : Option Expiration
  deriving DecidableEq

inductive Action where
  | transferOwnership (newOwner : String) (expiry : Option Expiration)
  | acceptOwnership
  | renounceOwnership
  deriving DecidableEq

inductive OwnershipError where
  | std (reason : StdError)
  | noOwner
  | notOwner
  | notPendingOwner
  | transferNotFound
  | transferExpired
  deriving DecidableEq

/-- Each operation works on the ownership item alone, which it reads and may rewrite. -/
structure Package where
  initializeOwner : Api → String → Result StdError Ownership
  updateOwnership : Api → BlockInfo → Addr → Action → Ownership → Result OwnershipError Ownership
  assertOwner : Ownership → Addr → Result OwnershipError Unit

namespace Package

def isExpired (block : BlockInfo) : Option Expiration → Bool
  | some (.atHeight height) => decide (height.toNat ≤ block.height.toNat)
  | some (.atTime time) => decide (time.nanos.toNat ≤ block.time.nanos.toNat)
  | some .never => false
  | none => false

def checkOwner (ownership : Ownership) (sender : Addr) : Result OwnershipError Unit :=
  match ownership.owner with
  | none => .error (.error .noOwner)
  | some owner => if sender ≠ owner then .error (.error .notOwner) else .ok ()

/-- The package as it documents itself, for histories that are run in full. -/
def documented : Package where
  initializeOwner := fun api text => do
    let owner ← api.addrValidate text
    return { owner := some owner, pendingOwner := none, pendingExpiry := none }
  updateOwnership := fun api block sender action ownership =>
    match action with
    | .transferOwnership newOwner expiry => do
        checkOwner ownership sender
        let addr ← into .std (api.addrValidate newOwner)
        return { ownership with pendingOwner := some addr, pendingExpiry := expiry }
    | .acceptOwnership =>
        match ownership.pendingOwner with
        | none => .error (.error .transferNotFound)
        | some pending =>
            if sender ≠ pending then .error (.error .notPendingOwner)
            else if isExpired block ownership.pendingExpiry then .error (.error .transferExpired)
            else .ok { owner := some pending, pendingOwner := none, pendingExpiry := none }
    | .renounceOwnership => do
        checkOwner ownership sender
        return { owner := none, pendingOwner := none, pendingExpiry := none }
  assertOwner := checkOwner

/-- What the package promises of its operations. An owner is set once initialized, offers
a transfer to a validated address, hands over to the one it offered, or renounces; a
success of each leaves exactly this, and everyone but the owner fails the assertion. -/
structure Lawful (ownable : Package) : Prop where
  initialized : ∀ {api text ownership}, ownable.initializeOwner api text = .ok ownership →
    ∃ owner, api.addrValidate text = .ok owner ∧
      ownership = { owner := some owner, pendingOwner := none, pendingExpiry := none }
  owner_asserted : ∀ {ownership : Ownership} {sender}, ownership.owner = some sender →
    ownable.assertOwner ownership sender = .ok ()
  others_refused : ∀ {ownership : Ownership} {sender}, ownership.owner ≠ some sender →
    ∃ reason, ownable.assertOwner ownership sender = .error (.error reason)
  transferred : ∀ {api block sender newOwner expiry before next},
    ownable.updateOwnership api block sender (.transferOwnership newOwner expiry) before = .ok next →
      before.owner = some sender ∧ ∃ pending, api.addrValidate newOwner = .ok pending ∧
        next = { before with pendingOwner := some pending, pendingExpiry := expiry }
  accepted : ∀ {api block sender before next},
    ownable.updateOwnership api block sender .acceptOwnership before = .ok next →
      before.pendingOwner = some sender ∧
        next = { owner := some sender, pendingOwner := none, pendingExpiry := none }
  renounced : ∀ {api block sender before next},
    ownable.updateOwnership api block sender .renounceOwnership before = .ok next →
      before.owner = some sender ∧
        next = { owner := none, pendingOwner := none, pendingExpiry := none }

theorem checkOwner_eq_ok {ownership : Ownership} {sender : Addr} :
    checkOwner ownership sender = .ok () ↔ ownership.owner = some sender := by
  unfold checkOwner
  cases ownership.owner with
  | none => simp
  | some owner =>
    by_cases same : sender = owner
    · simp [same]
    · simp [same, Ne.symm same]

theorem documented_lawful : documented.Lawful where
  initialized := by
    intro api text ownership made
    obtain ⟨owner, valid, made⟩ := bind_eq_ok.mp made
    cases made
    exact ⟨owner, valid, rfl⟩
  owner_asserted := checkOwner_eq_ok.mpr
  others_refused := by
    intro ownership sender other
    change ∃ reason, checkOwner ownership sender = .error (.error reason)
    unfold checkOwner
    cases owned : ownership.owner with
    | none => exact ⟨_, rfl⟩
    | some owner =>
      have different : sender ≠ owner := fun same => other (same ▸ owned)
      exact ⟨.notOwner, if_pos different⟩
  transferred := by
    intro api block sender newOwner expiry before next success
    obtain ⟨_, owns, success⟩ := bind_eq_ok.mp success
    obtain ⟨pending, valid, success⟩ := bind_eq_ok.mp success
    rw [into_eq_ok] at valid
    cases success
    exact ⟨checkOwner_eq_ok.mp owns, pending, valid, rfl⟩
  accepted := by
    intro api block sender before next success
    obtain ⟨owner, offered, expiry⟩ := before
    cases offered with
    | none => cases success
    | some pending =>
      obtain ⟨own, success⟩ := guard_eq_ok.mp success
      obtain ⟨_, success⟩ := guard_eq_ok.mp success
      obtain rfl := not_not.mp own
      cases success
      exact ⟨rfl, rfl⟩
  renounced := by
    intro api block sender before next success
    obtain ⟨_, owns, success⟩ := bind_eq_ok.mp success
    cases success
    exact ⟨checkOwner_eq_ok.mp owns, rfl⟩

end Package

end CosmwasmContracts.CwOwnable
