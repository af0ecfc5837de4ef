import Mathlib.Algebra.BigOperators.Group.Finset.Basic
import Mathlib.Algebra.Order.Ring.Nat
import Mathlib.Tactic.Common

/-! Shares of an exact amount, each rounded down to whole units. What so many shares add up
to never exceeds the whole rounded down once, and falls short of it by less than their number. -/

namespace CosmwasmContracts.Library.RoundedShares

/-- An exact amount of which `total` whole units were given out in `count` shares. -/
structure Rounded (unit exact total count : Nat) : Prop where
  below : unit * total ≤ exact
  above : exact + count ≤ unit * (total + count)

namespace Rounded

variable {unit exact total count exact' total' count' : Nat}

theorem nothing (unit : Nat) : Rounded unit 0 0 0 := ⟨Nat.zero_le _, Nat.zero_le _⟩

/-- A single share loses less than a unit. -/
theorem share (positive : 0 < unit) (exact : Nat) : Rounded unit exact (exact / unit) 1 := by
  refine ⟨Nat.mul_div_le exact unit, ?_⟩
  have next : exact < unit * (exact / unit + 1) := Nat.lt_mul_div_succ exact positive
  omega

theorem add (first : Rounded unit exact total count) (second : Rounded unit exact' total' count') :
    Rounded unit (exact + exact') (total + total') (count + count') := by
  constructor
  · calc
      unit * (total + total') = unit * total + unit * total' := Nat.mul_add _ _ _
      _ ≤ exact + exact' := Nat.add_le_add first.below second.below
  · calc
      exact + exact' + (count + count') = exact + count + (exact' + count') := by omega
      _ ≤ unit * (total + count) + unit * (total' + count') := Nat.add_le_add first.above second.above
      _ = unit * (total + total' + (count + count')) := by
        rw [← Nat.mul_add]
        congr 1
        omega

theorem sum {Index : Type} {indices : Finset Index} {exact total count : Index → Nat}
    (each : ∀ index ∈ indices, Rounded unit (exact index) (total index) (count index)) :
    Rounded unit (∑ index ∈ indices, exact index) (∑ index ∈ indices, total index)
      (∑ index ∈ indices, count index) := by
  classical
  induction indices using Finset.induction_on with
  | empty => exact nothing unit
  | insert index rest new ih =>
    rw [Finset.sum_insert new, Finset.sum_insert new, Finset.sum_insert new]
    exact (each index (Finset.mem_insert_self index rest)).add
      (ih fun other member => each other (Finset.mem_insert_of_mem member))

/-- Amounts that are each rounded down on their own. -/
theorem list (positive : 0 < unit) (amounts : List Nat) :
    Rounded unit amounts.sum (amounts.map (· / unit)).sum amounts.length := by
  induction amounts with
  | nil => exact nothing unit
  | cons first rest ih =>
    rw [List.sum_cons, List.map_cons, List.sum_cons, List.length_cons, Nat.add_comm rest.length]
    exact (share positive first).add ih

theorem total_le (rounded : Rounded unit exact total count) (positive : 0 < unit) : total ≤ exact / unit := by
  rw [Nat.le_div_iff_mul_le positive, Nat.mul_comm]
  exact rounded.below

theorem div_le (rounded : Rounded unit exact total count) (positive : 0 < unit) (some : 0 < count) :
    exact / unit ≤ total + (count - 1) := by
  have short : exact < unit * (total + count) := by
    have above := rounded.above
    omega
  have fewer : exact / unit < total + count := by
    rw [Nat.div_lt_iff_lt_mul positive, Nat.mul_comm]
    exact short
  omega

end Rounded

end CosmwasmContracts.Library.RoundedShares
