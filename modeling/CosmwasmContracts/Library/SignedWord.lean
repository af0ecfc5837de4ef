import Mathlib.Algebra.Order.Ring.Int
import Mathlib.Tactic.Common

/-! Signed machine integers with overflow-checked addition. -/

namespace CosmwasmContracts.Library.CheckedWord

@[ext]
structure SignedWord (width : Nat) where
  toInt : Int
  low : -2 ^ (width - 1) ≤ toInt
  high : toInt < 2 ^ (width - 1)
  deriving DecidableEq

namespace SignedWord

variable {width : Nat}

def checkedAdd (first second : SignedWord width) : Option (SignedWord width) :=
  if fits : -2 ^ (width - 1) ≤ first.toInt + second.toInt ∧ first.toInt + second.toInt < 2 ^ (width - 1) then
    some ⟨first.toInt + second.toInt, fits.1, fits.2⟩
  else none

@[simp] theorem checkedAdd_eq_some {first second sum : SignedWord width} :
    first.checkedAdd second = some sum ↔ sum.toInt = first.toInt + second.toInt := by
  unfold checkedAdd
  split
  next fits =>
    rw [Option.some.injEq, SignedWord.ext_iff]
    exact eq_comm
  next outside =>
    constructor
    · intro impossible
      cases impossible
    · intro same
      exact absurd ⟨same ▸ sum.low, same ▸ sum.high⟩ outside

theorem checkedAdd_of_le {first second : SignedWord width}
    (exceeds : 2 ^ (width - 1) ≤ first.toInt + second.toInt) : first.checkedAdd second = none :=
  dif_neg fun fits => exceeds.not_gt fits.2

theorem checkedAdd_of_lt {first second : SignedWord width} (positive : 0 ≤ second.toInt)
    (fits : first.toInt + second.toInt < 2 ^ (width - 1)) : ∃ sum, first.checkedAdd second = some sum :=
  ⟨⟨first.toInt + second.toInt, first.low.trans (Int.le_add_of_nonneg_right positive), fits⟩,
    checkedAdd_eq_some.mpr rfl⟩

end SignedWord

end CosmwasmContracts.Library.CheckedWord
