import Mathlib.Data.Finmap
import Mathlib.Data.Finsupp.Weight

/-! Finite maps read through a measure of their values, with absent keys read as
zero. The total over all keys follows every write by one additive equation. -/

namespace CosmwasmContracts.Library.FiniteMap

universe u v

abbrev Map (Key : Type u) (Value : Type v) := Finmap (fun _ : Key => Value)

namespace Map

variable {Key : Type u} {Value : Type v} [DecidableEq Key]

def mayLoad (map : Map Key Value) (key : Key) : Option Value := map.lookup key

def save (map : Map Key Value) (key : Key) (value : Value) : Map Key Value :=
  map.insert key value

def remove (map : Map Key Value) (key : Key) : Map Key Value := map.erase key

@[simp] theorem mayLoad_empty (key : Key) : mayLoad (∅ : Map Key Value) key = none :=
  Finmap.lookup_empty key

theorem mayLoad_save (map : Map Key Value) (key other : Key) (value : Value) :
    (map.save key value).mayLoad other = if other = key then some value else map.mayLoad other := by
  unfold save mayLoad
  by_cases same : other = key
  · subst other
    rw [if_pos rfl, Finmap.lookup_insert]
  · rw [if_neg same, Finmap.lookup_insert_of_ne _ same]

@[simp] theorem mayLoad_save_self (map : Map Key Value) (key : Key) (value : Value) :
    (map.save key value).mayLoad key = some value := by
  rw [mayLoad_save, if_pos rfl]

theorem mayLoad_save_of_ne (map : Map Key Value) {key other : Key} (value : Value)
    (different : other ≠ key) : (map.save key value).mayLoad other = map.mayLoad other := by
  rw [mayLoad_save, if_neg different]

theorem mayLoad_remove (map : Map Key Value) (key other : Key) :
    (map.remove key).mayLoad other = if other = key then none else map.mayLoad other := by
  unfold remove mayLoad
  by_cases same : other = key
  · subst other
    rw [if_pos rfl, Finmap.lookup_erase]
  · rw [if_neg same, Finmap.lookup_erase_ne same]

@[simp] theorem mayLoad_remove_self (map : Map Key Value) (key : Key) :
    (map.remove key).mayLoad key = none := by
  rw [mayLoad_remove, if_pos rfl]

theorem mayLoad_remove_of_ne (map : Map Key Value) {key other : Key}
    (different : other ≠ key) : (map.remove key).mayLoad other = map.mayLoad other := by
  rw [mayLoad_remove, if_neg different]

variable (measure : Value → Nat)

/-- The measure of the value at a key, zero where the key is absent. -/
def value (map : Map Key Value) (key : Key) : Nat := (map.mayLoad key).elim 0 measure

def total (map : Map Key Value) : Nat := ∑ key ∈ map.keys, value measure map key

theorem value_of_some {map : Map Key Value} {key : Key} {stored : Value}
    (present : map.mayLoad key = some stored) : value measure map key = measure stored := by
  simp [value, present]

theorem value_of_none {map : Map Key Value} {key : Key}
    (absent : map.mayLoad key = none) : value measure map key = 0 := by
  simp [value, absent]

@[simp] theorem value_empty (key : Key) : value measure (∅ : Map Key Value) key = 0 :=
  value_of_none measure (mayLoad_empty key)

theorem value_save (map : Map Key Value) (key other : Key) (stored : Value) :
    value measure (map.save key stored) other =
      if other = key then measure stored else value measure map other := by
  unfold value
  rw [mayLoad_save]
  split <;> rfl

theorem value_remove (map : Map Key Value) (key other : Key) :
    value measure (map.remove key) other =
      if other = key then 0 else value measure map other := by
  unfold value
  rw [mayLoad_remove]
  split <;> rfl

/-- Maps with the same keys and the same readings are the same, where the measure tells
values apart. -/
theorem ext_of_value {first second : Map Key Value} (injective : Function.Injective measure)
    (keys : ∀ key, key ∈ first ↔ key ∈ second)
    (values : ∀ key, value measure first key = value measure second key) : first = second := by
  apply Finmap.ext_lookup
  intro key
  have same := values key
  unfold value mayLoad at same
  cases found : first.lookup key with
  | none =>
    have absent : key ∉ second := fun member => Finmap.lookup_eq_none.mp found ((keys key).mpr member)
    exact (Finmap.lookup_eq_none.mpr absent).symm
  | some stored =>
    have member : key ∈ second := (keys key).mp (Finmap.mem_of_lookup_eq_some found)
    obtain ⟨other, present⟩ := Finmap.mem_iff.mp member
    rw [found, present] at same
    rw [present]
    exact congrArg some (injective same)

theorem mem_save (map : Map Key Value) (key other : Key) (stored : Value) :
    other ∈ map.save key stored ↔ other = key ∨ other ∈ map := Finmap.mem_insert

/-- The map as a finitely supported function, where Mathlib's sums apply. -/
noncomputable def weights (map : Map Key Value) : Key →₀ Nat :=
  Finsupp.onFinset map.keys (value measure map) (by
    intro key positive
    by_contra absent
    have missing : map.mayLoad key = none :=
      Finmap.lookup_eq_none.mpr (fun member => absent (Finmap.mem_keys.mpr member))
    exact positive (value_of_none measure missing))

@[simp] theorem weights_apply (map : Map Key Value) (key : Key) :
    weights measure map key = value measure map key := rfl

theorem weights_degree (map : Map Key Value) : (weights measure map).degree = total measure map := by
  unfold total
  rw [Finsupp.degree_apply]
  exact Finset.sum_subset Finsupp.support_onFinset_subset (fun key _ outside =>
    Finsupp.notMem_support_iff.mp outside)

theorem weights_empty : weights measure (∅ : Map Key Value) = 0 := by
  ext key
  simp

theorem weights_save (map : Map Key Value) (key : Key) (stored : Value) :
    weights measure (map.save key stored) =
      (weights measure map).erase key + Finsupp.single key (measure stored) := by
  ext other
  rw [weights_apply, value_save, Finsupp.add_apply, Finsupp.single_apply, Finsupp.erase_apply]
  by_cases same : other = key
  · simp [same]
  · simp [same, Ne.symm same]

theorem weights_remove (map : Map Key Value) (key : Key) :
    weights measure (map.remove key) = (weights measure map).erase key := by
  ext other
  rw [weights_apply, value_remove, Finsupp.erase_apply, weights_apply]

private theorem degree_erase (map : Map Key Value) (key : Key) :
    ((weights measure map).erase key).degree + value measure map key = total measure map := by
  have parts := congrArg Finsupp.degree (Finsupp.erase_add_single key (weights measure map))
  rw [map_add, Finsupp.degree_single, weights_degree, weights_apply] at parts
  exact parts

theorem total_empty : total measure (∅ : Map Key Value) = 0 := by
  rw [← weights_degree, weights_empty, map_zero]

theorem total_save (map : Map Key Value) (key : Key) (stored : Value) :
    total measure (map.save key stored) + value measure map key =
      total measure map + measure stored := by
  have rest := degree_erase measure map key
  rw [← weights_degree measure (map.save key stored), weights_save, map_add,
    Finsupp.degree_single]
  omega

theorem total_remove (map : Map Key Value) (key : Key) :
    total measure (map.remove key) + value measure map key = total measure map := by
  rw [← weights_degree measure (map.remove key), weights_remove]
  exact degree_erase measure map key

theorem value_le_total (map : Map Key Value) (key : Key) :
    value measure map key ≤ total measure map := by
  have rest := degree_erase measure map key
  omega

theorem total_mono {first second : Map Key Value}
    (smaller : ∀ key, value measure first key ≤ value measure second key) :
    total measure first ≤ total measure second := by
  have below : weights measure first ≤ weights measure second := smaller
  have parts := congrArg Finsupp.degree (add_tsub_cancel_of_le below)
  rw [map_add, weights_degree, weights_degree] at parts
  omega

end Map

end CosmwasmContracts.Library.FiniteMap
