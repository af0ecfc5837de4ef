import CosmwasmContracts.Library.TransactionMachine

/-! Two computations in step. Results agree when both fail for the same reason or both
return, and then what they return is related. Machines whose steps agree from related
states come to the same, transaction by transaction, for as long as they run. -/

namespace CosmwasmContracts.Library.Lockstep
open TransactionMachine

universe u v w x

inductive Agree {E : Type w} {A B : Type u} (related : A → B → Prop) : Except E A → Except E B → Prop where
  | ok {value : A} {other : B} (holds : related value other) : Agree related (.ok value) (.ok other)
  | error (reason : E) : Agree related (.error reason) (.error reason)

namespace Agree

variable {E : Type w} {A A' B C C' : Type u} {related : A → A' → Prop} {after : C → C' → Prop}
variable {result : Except E A} {result' : Except E A'}

theorem mono {weaker : A → A' → Prop} (agree : Agree related result result')
    (weaken : ∀ value other, related value other → weaker value other) : Agree weaker result result' := by
  cases agree with
  | error reason => exact .error reason
  | ok holds => exact .ok (weaken _ _ holds)

/-- Results that agree on the very values are the same. -/
theorem eq_iff {other : Except E A} : Agree Eq result other ↔ result = other := by
  constructor
  · intro agree
    cases agree with
    | error reason => rfl
    | ok same => rw [same]
  · rintro rfl
    cases result with
    | error reason => exact .error reason
    | ok value => exact .ok rfl

theorem bind {next : A → Except E C} {next' : A' → Except E C'} (agree : Agree related result result')
    (continues : ∀ value other, related value other → Agree after (next value) (next' other)) :
    Agree after (result >>= next) (result' >>= next') := by
  cases agree with
  | error reason => exact .error reason
  | ok holds => exact continues _ _ holds

/-- Computations that begin alike agree where their continuations do. -/
theorem bind_self (first : Except E B) {next : B → Except E C} {next' : B → Except E C'}
    (continues : ∀ value, first = .ok value → Agree after (next value) (next' value)) :
    Agree after (first >>= next) (first >>= next') := by
  cases first with
  | error reason => exact .error reason
  | ok value => exact continues value rfl

theorem guard {condition : Prop} [Decidable condition] (reason : E)
    (passes : ¬condition → Agree related result result') :
    Agree related (if condition then .error reason else result)
      (if condition then .error reason else result') := by
  by_cases fails : condition
  · rw [if_pos fails, if_pos fails]
    exact .error reason
  · rw [if_neg fails, if_neg fails]
    exact passes fails

end Agree

section Runs

variable {State : Type u} {State' : Type u} {Tx Tx' : Type v} {Error : Type w} {Output : Type x}

/-- What each transaction of a history came to. -/
def outcomes (machine : Machine State Tx Error Output) : State → List Tx → List (Except Error Output)
  | _, [] => []
  | state, tx :: rest =>
      Except.map Prod.snd (machine.exec state tx) :: outcomes machine (machine.deliver state tx) rest

variable {machine : Machine State Tx Error Output} {target : Machine State' Tx' Error Output}
variable (Alike : State → State' → Prop) (Matches : Tx → Tx' → Prop)

/-- What two machines return: the same output, and states that are again alike. -/
def Returned (returned : State × Output) (returned' : State' × Output) : Prop :=
  Alike returned.1 returned'.1 ∧ returned.2 = returned'.2

/-- From related states, related transactions come to the same. -/
def InStep (machine : Machine State Tx Error Output) (target : Machine State' Tx' Error Output) : Prop :=
  ∀ state state' tx tx', Alike state state' → Matches tx tx' →
    Agree (Returned Alike) (machine.exec state tx) (target.exec state' tx')

variable {Alike Matches} (inStep : InStep Alike Matches machine target)
include inStep

theorem InStep.deliver {state : State} {state' : State'} {tx : Tx} {tx' : Tx'} (alike : Alike state state')
    (matched : Matches tx tx') : Alike (machine.deliver state tx) (target.deliver state' tx') := by
  have agree := inStep state state' tx tx' alike matched
  unfold Machine.deliver
  generalize machine.exec state tx = result at agree ⊢
  generalize target.exec state' tx' = result' at agree ⊢
  cases agree with
  | error reason => exact alike
  | ok returned => exact returned.1

theorem InStep.outcome {state : State} {state' : State'} {tx : Tx} {tx' : Tx'} (alike : Alike state state')
    (matched : Matches tx tx') :
    Except.map Prod.snd (machine.exec state tx) = Except.map Prod.snd (target.exec state' tx') := by
  have agree := inStep state state' tx tx' alike matched
  generalize machine.exec state tx = result at agree ⊢
  generalize target.exec state' tx' = result' at agree ⊢
  cases agree with
  | error reason => rfl
  | ok returned => exact congrArg Except.ok returned.2

/-- The rule of lockstep: whole histories come to the same and end alike. -/
theorem InStep.run {state : State} {state' : State'} {txs : List Tx} {txs' : List Tx'}
    (alike : Alike state state') (matched : List.Forall₂ Matches txs txs') :
    outcomes machine state txs = outcomes target state' txs' ∧
      Alike (machine.run state txs) (target.run state' txs') := by
  induction matched generalizing state state' with
  | nil => exact ⟨rfl, alike⟩
  | cons first rest ih =>
    obtain ⟨same, last⟩ := ih (inStep.deliver alike first)
    rw [outcomes, outcomes, inStep.outcome alike first, same]
    exact ⟨rfl, last⟩

end Runs

section Decisions

variable {State : Type u} {State' : Type u} {Tx : Type v} {Error : Type w} {Output : Type x}
variable {Error' : Type w} {Output' : Type x}

/-- Which transactions of a history commit. -/
def decisions (machine : Machine State Tx Error Output) (start : State) (txs : List Tx) : List Bool :=
  (outcomes machine start txs).map Except.isOk

variable (machine : Machine State Tx Error Output) (target : Machine State' Tx Error' Output')

/-- The rule of bisimulation: where related states let the same allowed transactions through,
and these lead to related states again, whole histories of them are decided alike. -/
theorem allowed_decisions_rule {Related : State → State' → Prop} (allowed : Tx → Prop)
    (decided : ∀ state state' tx, Related state state' → allowed tx →
      (machine.Commits state tx ↔ target.Commits state' tx))
    (kept : ∀ state state' tx next output next' output', Related state state' → allowed tx →
      machine.exec state tx = .ok (next, output) → target.exec state' tx = .ok (next', output') →
        Related next next')
    {start : State} {start' : State'} (initial : Related start start') {txs : List Tx}
    (all : ∀ tx ∈ txs, allowed tx) :
    decisions machine start txs = decisions target start' txs ∧
      Related (machine.run start txs) (target.run start' txs) := by
  induction txs generalizing start start' with
  | nil => exact ⟨rfl, initial⟩
  | cons tx rest ih =>
    obtain ⟨permitted, others⟩ := List.forall_mem_cons.mp all
    have agree := decided start start' tx initial permitted
    cases result : machine.exec start tx with
    | ok value =>
      obtain ⟨next', output', result'⟩ := agree.mp ⟨value.1, value.2, result⟩
      have related := kept start start' tx value.1 value.2 next' output' initial permitted result result'
      obtain ⟨same, last⟩ := ih related others
      rw [Machine.run_cons, Machine.run_cons, machine.deliver_ok result, target.deliver_ok result']
      refine ⟨?_, last⟩
      simp only [decisions, outcomes, result, result', machine.deliver_ok result, target.deliver_ok result']
      exact congrArg (true :: ·) same
    | error reason =>
      cases result' : target.exec start' tx with
      | ok value =>
        obtain ⟨next, output, impossible⟩ := agree.mpr ⟨value.1, value.2, result'⟩
        cases result.symm.trans impossible
      | error reason' =>
        obtain ⟨same, last⟩ := ih initial others
        rw [Machine.run_cons, Machine.run_cons, machine.deliver_error result, target.deliver_error result']
        refine ⟨?_, last⟩
        simp only [decisions, outcomes, result, result', machine.deliver_error result,
          target.deliver_error result']
        exact congrArg (false :: ·) same

/-- The rule for machines that may be sent anything. -/
theorem decisions_rule {Related : State → State' → Prop}
    (decided : ∀ state state' tx, Related state state' → (machine.Commits state tx ↔ target.Commits state' tx))
    (kept : ∀ state state' tx next output next' output', Related state state' →
      machine.exec state tx = .ok (next, output) → target.exec state' tx = .ok (next', output') →
        Related next next')
    {start : State} {start' : State'} (initial : Related start start') (txs : List Tx) :
    decisions machine start txs = decisions target start' txs ∧
      Related (machine.run start txs) (target.run start' txs) :=
  allowed_decisions_rule machine target (fun _ => True) (fun state state' tx related _ => decided state state' tx related)
    (fun state state' tx next output next' output' related _ => kept state state' tx next output next' output' related)
    initial fun _ _ => trivial

end Decisions

end CosmwasmContracts.Library.Lockstep
