import Mathlib.Algebra.Order.Ring.Nat
import Mathlib.Tactic.Common

/-! Unsigned machine words with overflow-checked arithmetic. A word carries the
proof that it fits its width, so a checked operation that succeeds is described
by one equation between natural numbers. -/

namespace CosmwasmContracts.Library.CheckedWord

@[ext]
structure Word (width : Nat) where
  toNat : Nat
  fits : toNat < 2 ^ width
  deriving DecidableEq

variable {width : Nat}

/-- The word holding a number, when the number fits. -/
def narrow (number : Nat) : Option (Word width) :=
  if fits : number < 2 ^ width then some ⟨number, fits⟩ else none

@[simp] theorem narrow_eq_some {number : Nat} {word : Word width} :
    narrow number = some word ↔ word.toNat = number := by
  unfold narrow
  by_cases fits : number < 2 ^ width
  · rw [dif_pos fits, Option.some.injEq, Word.ext_iff]
    exact eq_comm
  · rw [dif_neg fits]
    have bound := word.fits
    constructor
    · intro impossible
      cases impossible
    · intro same
      omega

/-- A literal; one that does not fit is reduced to the width. -/
def word (number : Nat) : Word width := ⟨number % 2 ^ width, Nat.mod_lt _ (Nat.two_pow_pos width)⟩

namespace Word

def zero : Word width := ⟨0, Nat.two_pow_pos width⟩

def isZero (word : Word width) : Bool := decide (word.toNat = 0)

def checkedAdd (first second : Word width) : Option (Word width) :=
  narrow (first.toNat + second.toNat)

def checkedSub (first second : Word width) : Option (Word width) :=
  if second.toNat ≤ first.toNat then
    some ⟨first.toNat - second.toNat, Nat.lt_of_le_of_lt (Nat.sub_le _ _) first.fits⟩
  else none

def checkedMul (first second : Word width) : Option (Word width) :=
  narrow (first.toNat * second.toNat)

def checkedDiv (first second : Word width) : Option (Word width) :=
  if second.toNat = 0 then none
  else some ⟨first.toNat / second.toNat, Nat.lt_of_le_of_lt (Nat.div_le_self _ _) first.fits⟩

@[simp] theorem zero_toNat : (zero : Word width).toNat = 0 := rfl

@[simp] theorem isZero_eq_true {word : Word width} : word.isZero = true ↔ word.toNat = 0 := by
  simp [isZero]

@[simp] theorem isZero_eq_false {word : Word width} : word.isZero = false ↔ word.toNat ≠ 0 := by
  simp [isZero]

@[simp] theorem checkedAdd_eq_some {first second sum : Word width} :
    first.checkedAdd second = some sum ↔ sum.toNat = first.toNat + second.toNat :=
  narrow_eq_some

/-- Stated additively, so that no truncated subtraction reaches a caller. -/
@[simp] theorem checkedSub_eq_some {first second difference : Word width} :
    first.checkedSub second = some difference ↔
      difference.toNat + second.toNat = first.toNat := by
  unfold checkedSub
  by_cases covered : second.toNat ≤ first.toNat
  · rw [if_pos covered, Option.some.injEq, Word.ext_iff]
    change first.toNat - second.toNat = difference.toNat ↔ _
    omega
  · rw [if_neg covered]
    constructor
    · intro impossible
      cases impossible
    · intro sum
      omega

@[simp] theorem checkedMul_eq_some {first second product : Word width} :
    first.checkedMul second = some product ↔ product.toNat = first.toNat * second.toNat :=
  narrow_eq_some

@[simp] theorem checkedDiv_eq_some {first second quotient : Word width} :
    first.checkedDiv second = some quotient ↔
      second.toNat ≠ 0 ∧ quotient.toNat = first.toNat / second.toNat := by
  unfold checkedDiv
  by_cases zero : second.toNat = 0
  · simp [zero]
  · rw [if_neg zero, Option.some.injEq, Word.ext_iff]
    simp only [ne_eq, zero, not_false_eq_true, true_and]
    exact eq_comm

theorem checkedAdd_of_lt {first second : Word width}
    (fits : first.toNat + second.toNat < 2 ^ width) :
    first.checkedAdd second = some ⟨first.toNat + second.toNat, fits⟩ :=
  checkedAdd_eq_some.mpr rfl

theorem checkedSub_of_le {first second : Word width} (covered : second.toNat ≤ first.toNat) :
    ∃ difference, first.checkedSub second = some difference :=
  ⟨⟨first.toNat - second.toNat, Nat.lt_of_le_of_lt (Nat.sub_le _ _) first.fits⟩,
    checkedSub_eq_some.mpr (Nat.sub_add_cancel covered)⟩

end Word

end CosmwasmContracts.Library.CheckedWord
