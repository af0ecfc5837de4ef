import Mathlib.Data.List.Nodup
import Mathlib.Logic.Function.Basic

/-! Actions of separate owners on a state of which each holds a part and all share the
rest. An action reads and rewrites its owner's part alone and posts an entry to the
shared part, so that the actions of two owners commute as soon as postings do. -/

namespace CosmwasmContracts.Library.LocalAction

universe u v w x

structure State (Owner : Type u) (Own : Type v) (Shared : Type w) where
  own : Owner → Own
  shared : Shared

structure Action (Own : Type v) (Posting : Type x) where
  Ready : Own → Prop
  next : Own → Own
  posting : Own → Posting

variable {Owner : Type u} {Own : Type v} {Shared : Type w} {Posting : Type x}
variable [DecidableEq Owner] (post : Posting → Shared → Shared)

def perform (owner : Owner) (action : Action Own Posting) (state : State Owner Own Shared) :
    State Owner Own Shared where
  own := Function.update state.own owner (action.next (state.own owner))
  shared := post (action.posting (state.own owner)) state.shared

theorem perform_own_self (owner : Owner) (action : Action Own Posting) (state : State Owner Own Shared) :
    (perform post owner action state).own owner = action.next (state.own owner) :=
  Function.update_self _ _ _

theorem perform_own_of_ne {owner other : Owner} (action : Action Own Posting)
    (state : State Owner Own Shared) (different : other ≠ owner) :
    (perform post owner action state).own other = state.own other :=
  Function.update_of_ne different _ _

theorem perform_congr (owner : Owner) {action other : Action Own Posting} {state : State Owner Own Shared}
    (next : action.next (state.own owner) = other.next (state.own owner))
    (posted : action.posting (state.own owner) = other.posting (state.own owner)) :
    perform post owner action state = perform post owner other state := by
  rw [perform, perform, next, posted]

/-- Two owners may act in either order. -/
theorem perform_comm (commute : ∀ first second shared,
      post first (post second shared) = post second (post first shared))
    {owner other : Owner} (different : owner ≠ other) (action reaction : Action Own Posting)
    (state : State Owner Own Shared) :
    perform post other reaction (perform post owner action state) =
      perform post owner action (perform post other reaction state) := by
  rw [perform, perform_own_of_ne post action state different.symm, perform,
    perform, perform_own_of_ne post reaction state different, perform, commute,
    Function.update_comm different]

/-- What an owner does in two steps is done in one, where the one step does as much. -/
theorem perform_fuse (owner : Owner) {first second both : Action Own Posting}
    {state : State Owner Own Shared}
    (next : second.next (first.next (state.own owner)) = both.next (state.own owner))
    (posted : post (second.posting (first.next (state.own owner)))
        (post (first.posting (state.own owner)) state.shared) =
      post (both.posting (state.own owner)) state.shared) :
    perform post owner second (perform post owner first state) = perform post owner both state := by
  rw [perform, perform_own_self, perform, perform, Function.update_idem, next, posted]

/-- Actions of several owners, one after another. -/
def performAll (steps : List (Owner × Action Own Posting)) (state : State Owner Own Shared) :
    State Owner Own Shared :=
  steps.foldl (fun state step => perform post step.1 step.2 state) state

/-- Different owners may act in any order. -/
theorem performAll_perm (commute : ∀ first second shared,
      post first (post second shared) = post second (post first shared))
    {steps others : List (Owner × Action Own Posting)} (reordered : steps.Perm others)
    (distinct : (steps.map Prod.fst).Nodup) (state : State Owner Own Shared) :
    performAll post steps state = performAll post others state := by
  refine reordered.foldl_eq' (fun step member other otherMember state => ?_) state
  by_cases same : step.1 = other.1
  · rw [List.inj_on_of_nodup_map distinct member otherMember same]
  · exact perform_comm post commute same step.2 other.2 state

section All

variable {steps : List (Owner × Action Own Posting)} {state : State Owner Own Shared} {owner : Owner}

theorem performAll_own_of_not_mem (absent : owner ∉ steps.map Prod.fst) :
    (performAll post steps state).own owner = state.own owner := by
  induction steps generalizing state with
  | nil => rfl
  | cons step rest ih =>
    rw [List.map_cons, List.mem_cons, not_or] at absent
    change (performAll post rest (perform post step.1 step.2 state)).own owner = _
    rw [ih absent.2, perform_own_of_ne post step.2 state absent.1]

/-- Who acts once moves its own part once. -/
theorem performAll_own_of_mem {action : Action Own Posting} (distinct : (steps.map Prod.fst).Nodup)
    (member : (owner, action) ∈ steps) :
    (performAll post steps state).own owner = action.next (state.own owner) := by
  induction steps generalizing state with
  | nil => cases member
  | cons step rest ih =>
    rw [List.map_cons, List.nodup_cons] at distinct
    change (performAll post rest (perform post step.1 step.2 state)).own owner = _
    rcases List.mem_cons.mp member with rfl | later
    · rw [performAll_own_of_not_mem post distinct.1]
      exact perform_own_self post owner action state
    · have other : owner ≠ step.1 :=
        fun same => distinct.1 (same ▸ List.mem_map_of_mem (f := Prod.fst) later)
      rw [ih distinct.2 later, perform_own_of_ne post step.2 state other]

/-- Owners who each act once post what they would have posted at the start. -/
theorem performAll_shared (distinct : (steps.map Prod.fst).Nodup) :
    (performAll post steps state).shared =
      (steps.map fun step => step.2.posting (state.own step.1)).foldl (fun shared posting => post posting shared)
        state.shared := by
  induction steps generalizing state with
  | nil => rfl
  | cons step rest ih =>
    rw [List.map_cons, List.nodup_cons] at distinct
    change (performAll post rest (perform post step.1 step.2 state)).shared = _
    rw [ih distinct.2, List.map_cons, List.foldl_cons]
    have same : ∀ other ∈ rest, (perform post step.1 step.2 state).own other.1 = state.own other.1 := by
      intro other member
      have different : other.1 ≠ step.1 :=
        fun equal => distinct.1 (equal ▸ List.mem_map_of_mem (f := Prod.fst) member)
      exact perform_own_of_ne post step.2 state different
    rw [List.map_congr_left fun other member => by rw [same other member]]
    rfl

end All

end CosmwasmContracts.Library.LocalAction
