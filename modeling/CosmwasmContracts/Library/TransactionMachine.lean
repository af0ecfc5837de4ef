import Mathlib.Algebra.BigOperators.Group.List.Basic
import Mathlib.Algebra.Order.Ring.Nat
import Mathlib.Data.List.Induction
import Mathlib.Order.Lattice
import Mathlib.Tactic.Common

/-! Deterministic transaction machines. A transaction either commits, giving the
next state and an output, or fails and leaves the state as it was. Histories are
observed through what their committed transactions did. -/

namespace CosmwasmContracts.Library.TransactionMachine

universe u v w x y

structure Machine (State : Type u) (Tx : Type v) (Error : Type w) (Output : Type x) where
  exec : State → Tx → Except Error (State × Output)

namespace Machine

variable {State : Type u} {Tx : Type v} {Error : Type w} {Output : Type x} {Seen : Type y}
variable (machine : Machine State Tx Error Output)

/-- A failing transaction reverts. -/
def deliver (state : State) (tx : Tx) : State :=
  match machine.exec state tx with
  | .ok (next, _) => next
  | .error _ => state

def Commits (state : State) (tx : Tx) : Prop :=
  ∃ next output, machine.exec state tx = .ok (next, output)

instance decidableCommits (state : State) (tx : Tx) : Decidable (machine.Commits state tx) :=
  match result : machine.exec state tx with
  | .ok (next, output) => .isTrue ⟨next, output, result⟩
  | .error reason => .isFalse (by
      rintro ⟨next, output, commits⟩
      rw [result] at commits
      cases commits)

def run (state : State) (txs : List Tx) : State := txs.foldl machine.deliver state

/-- A list of transactions that all commit, one after another, or a failure of one. -/
def execAll : State → List Tx → Except Error State
  | state, [] => .ok state
  | state, tx :: rest =>
      match machine.exec state tx with
      | .ok (next, _) => execAll next rest
      | .error reason => .error reason

/-- What the committed transactions of a history show, in order. -/
def observe (see : State → Tx → Output → List Seen) : State → List Tx → List Seen
  | _, [] => []
  | state, tx :: rest =>
      (match machine.exec state tx with
        | .ok (_, output) => see state tx output
        | .error _ => []) ++ observe see (machine.deliver state tx) rest

/-- What another machine is sent for a history: an answer to each transaction as it comes
in, whether it commits or fails. -/
def respond {Tx' : Type y} (answer : State → Tx → List Tx') : State → List Tx → List Tx'
  | _, [] => []
  | state, tx :: rest => answer state tx ++ respond answer (machine.deliver state tx) rest

/-- The total a history's committed transactions add up to. -/
def tally (weigh : State → Tx → Output → Nat) (state : State) (txs : List Tx) : Nat :=
  (machine.observe (fun state tx output => [weigh state tx output]) state txs).sum

/-- The largest reading over every state of a history, first and last included. -/
def peak (read : State → Nat) : State → List Tx → Nat
  | state, [] => read state
  | state, tx :: rest => max (read state) (peak read (machine.deliver state tx) rest)

theorem deliver_ok {state next : State} {tx : Tx} {output : Output}
    (commits : machine.exec state tx = .ok (next, output)) :
    machine.deliver state tx = next := by
  unfold deliver
  rw [commits]

theorem deliver_error {state : State} {tx : Tx} {reason : Error}
    (fails : machine.exec state tx = .error reason) : machine.deliver state tx = state := by
  unfold deliver
  rw [fails]

@[simp] theorem run_nil (state : State) : machine.run state [] = state := rfl

@[simp] theorem run_cons (state : State) (tx : Tx) (rest : List Tx) :
    machine.run state (tx :: rest) = machine.run (machine.deliver state tx) rest := rfl

theorem run_append (state : State) (first second : List Tx) :
    machine.run state (first ++ second) = machine.run (machine.run state first) second :=
  List.foldl_append

theorem run_snoc (state : State) (txs : List Tx) (tx : Tx) :
    machine.run state (txs ++ [tx]) = machine.deliver (machine.run state txs) tx := by
  rw [run_append, run_cons, run_nil]

theorem execAll_cons {state last : State} {tx : Tx} {rest : List Tx} :
    machine.execAll state (tx :: rest) = .ok last ↔
      ∃ next output, machine.exec state tx = .ok (next, output) ∧ machine.execAll next rest = .ok last := by
  rw [execAll]
  cases result : machine.exec state tx with
  | error reason =>
    constructor
    · intro impossible
      cases impossible
    · rintro ⟨next, output, impossible, _⟩
      cases impossible
  | ok value =>
    constructor
    · exact fun others => ⟨value.1, value.2, rfl, others⟩
    · rintro ⟨next, output, same, others⟩
      cases same
      exact others

theorem execAll_single {state last : State} {tx : Tx} :
    machine.execAll state [tx] = .ok last ↔ ∃ output, machine.exec state tx = .ok (last, output) := by
  rw [execAll_cons]
  constructor
  · rintro ⟨next, output, commits, same⟩
    cases same
    exact ⟨output, commits⟩
  · rintro ⟨output, commits⟩
    exact ⟨last, output, commits, rfl⟩

section Observation

variable (see : State → Tx → Output → List Seen) (weigh : State → Tx → Output → Nat)

@[simp] theorem observe_nil (state : State) : machine.observe see state [] = [] := rfl

theorem observe_append (state : State) (first second : List Tx) :
    machine.observe see state (first ++ second) =
      machine.observe see state first ++ machine.observe see (machine.run state first) second := by
  induction first generalizing state with
  | nil => rfl
  | cons tx rest ih =>
    simp only [List.cons_append, observe, run_cons, ih, List.append_assoc]

theorem observe_single_ok {state next : State} {tx : Tx} {output : Output}
    (commits : machine.exec state tx = .ok (next, output)) :
    machine.observe see state [tx] = see state tx output := by
  simp only [observe, commits, List.append_nil]

theorem observe_single_error {state : State} {tx : Tx} {reason : Error}
    (fails : machine.exec state tx = .error reason) :
    machine.observe see state [tx] = [] := by
  simp only [observe, fails, List.append_nil]

theorem observe_snoc_ok {state next : State} {txs : List Tx} {tx : Tx} {output : Output}
    (commits : machine.exec (machine.run state txs) tx = .ok (next, output)) :
    machine.observe see state (txs ++ [tx]) =
      machine.observe see state txs ++ see (machine.run state txs) tx output := by
  rw [observe_append, observe_single_ok machine see commits]

theorem observe_snoc_error {state : State} {txs : List Tx} {tx : Tx} {reason : Error}
    (fails : machine.exec (machine.run state txs) tx = .error reason) :
    machine.observe see state (txs ++ [tx]) = machine.observe see state txs := by
  rw [observe_append, observe_single_error machine see fails, List.append_nil]

/-- What is seen of any transaction that can commit is seen of the whole history. -/
theorem forall_mem_observe {holds : Seen → Prop} {state : State} {txs : List Tx}
    (each : ∀ tx ∈ txs, ∀ before next output, machine.exec before tx = .ok (next, output) →
      ∀ seen ∈ see before tx output, holds seen) :
    ∀ seen ∈ machine.observe see state txs, holds seen := by
  induction txs generalizing state with
  | nil =>
    intro seen member
    cases member
  | cons tx rest ih =>
    intro seen member
    rw [observe, List.mem_append] at member
    rcases member with now | later
    · cases result : machine.exec state tx with
      | error reason =>
        rw [result] at now
        cases now
      | ok value =>
        rw [result] at now
        exact each tx List.mem_cons_self state value.1 value.2 result seen now
    · exact ih (fun other among => each other (List.mem_cons_of_mem tx among)) seen later

/-- Where a history shows nothing, none of its committed transactions does. -/
theorem see_eq_nil_of_prefix {state next : State} {txs earlier : List Tx} {tx : Tx} {output : Output}
    (silent : machine.observe see state txs = []) (within : earlier ++ [tx] <+: txs)
    (commits : machine.exec (machine.run state earlier) tx = .ok (next, output)) :
    see (machine.run state earlier) tx output = [] := by
  obtain ⟨rest, rfl⟩ := within
  rw [observe_append, observe_snoc_ok machine see commits, List.append_eq_nil_iff,
    List.append_eq_nil_iff] at silent
  exact silent.1.2

@[simp] theorem tally_nil (state : State) : machine.tally weigh state [] = 0 := rfl

theorem tally_append (state : State) (first second : List Tx) :
    machine.tally weigh state (first ++ second) =
      machine.tally weigh state first + machine.tally weigh (machine.run state first) second := by
  unfold tally
  rw [observe_append, List.sum_append]

theorem tally_single_ok {state next : State} {tx : Tx} {output : Output}
    (commits : machine.exec state tx = .ok (next, output)) :
    machine.tally weigh state [tx] = weigh state tx output := by
  unfold tally
  rw [observe_single_ok machine _ commits, List.sum_singleton]

theorem tally_single_error {state : State} {tx : Tx} {reason : Error}
    (fails : machine.exec state tx = .error reason) : machine.tally weigh state [tx] = 0 := by
  unfold tally
  rw [observe_single_error machine _ fails, List.sum_nil]

theorem tally_snoc_ok {state next : State} {txs : List Tx} {tx : Tx} {output : Output}
    (commits : machine.exec (machine.run state txs) tx = .ok (next, output)) :
    machine.tally weigh state (txs ++ [tx]) =
      machine.tally weigh state txs + weigh (machine.run state txs) tx output := by
  rw [tally_append, tally_single_ok machine weigh commits]

theorem tally_snoc_error {state : State} {txs : List Tx} {tx : Tx} {reason : Error}
    (fails : machine.exec (machine.run state txs) tx = .error reason) :
    machine.tally weigh state (txs ++ [tx]) = machine.tally weigh state txs := by
  rw [tally_append, tally_single_error machine weigh fails, Nat.add_zero]

theorem tally_eq_zero {state : State} {txs : List Tx}
    (silent : ∀ tx ∈ txs, ∀ before output, weigh before tx output = 0) :
    machine.tally weigh state txs = 0 := by
  induction txs using List.reverseRecOn with
  | nil => rfl
  | append_singleton txs tx ih =>
    have earlier := ih (fun other member => silent other (List.mem_append_left _ member))
    cases result : machine.exec (machine.run state txs) tx with
    | error reason => rw [tally_snoc_error machine weigh result, earlier]
    | ok value =>
      rw [tally_snoc_ok machine weigh result, earlier, silent tx (by simp)]

/-- A tally is the worth of what was seen, added up. -/
theorem sum_map_observe (worth : Seen → Nat)
    (agree : ∀ state tx output, ((see state tx output).map worth).sum = weigh state tx output)
    (state : State) (txs : List Tx) :
    ((machine.observe see state txs).map worth).sum = machine.tally weigh state txs := by
  induction txs using List.reverseRecOn with
  | nil => rfl
  | append_singleton txs tx ih =>
    cases result : machine.exec (machine.run state txs) tx with
    | error reason =>
      rw [observe_snoc_error machine see result, tally_snoc_error machine weigh result, ih]
    | ok value =>
      rw [observe_snoc_ok machine see result, tally_snoc_ok machine weigh result, List.map_append,
        List.sum_append, ih, agree]

/-- A tally is what was seen added up, where every committed transaction shows its weight. -/
theorem sum_observe (worth : Seen → Nat)
    (shown : ∀ state tx next output, machine.exec state tx = .ok (next, output) →
      ((see state tx output).map worth).sum = weigh state tx output) (state : State) (txs : List Tx) :
    ((machine.observe see state txs).map worth).sum = machine.tally weigh state txs := by
  induction txs using List.reverseRecOn with
  | nil => rfl
  | append_singleton txs tx ih =>
    cases result : machine.exec (machine.run state txs) tx with
    | error reason => rw [observe_snoc_error machine see result, tally_snoc_error machine weigh result, ih]
    | ok value =>
      rw [observe_snoc_ok machine see result, tally_snoc_ok machine weigh result, List.map_append,
        List.sum_append, ih, shown _ tx value.1 value.2 result]

/-- The rule of replay: where each committed transaction moves a reading of the state as what
is seen of it says, the reading follows from all that is seen. -/
theorem fold_rule {Reading : Type u} (read : State → Reading) (note : Reading → Seen → Reading)
    (noted : ∀ state tx next output, machine.exec state tx = .ok (next, output) →
      read next = (see state tx output).foldl note (read state)) (start : State) (txs : List Tx) :
    read (machine.run start txs) = (machine.observe see start txs).foldl note (read start) := by
  induction txs using List.reverseRecOn with
  | nil => rfl
  | append_singleton txs tx ih =>
    rw [run_snoc]
    cases result : machine.exec (machine.run start txs) tx with
    | error reason => rw [deliver_error machine result, observe_snoc_error machine see result, ih]
    | ok value =>
      rw [deliver_ok machine result, observe_snoc_ok machine see result, List.foldl_append, ← ih]
      exact noted _ tx value.1 value.2 result

end Observation

section Peak

variable (read : State → Nat)

theorem peak_append (state : State) (first second : List Tx) :
    machine.peak read state (first ++ second) =
      max (machine.peak read state first) (machine.peak read (machine.run state first) second) := by
  induction first generalizing state with
  | nil =>
    rw [List.nil_append, peak, run_nil]
    cases second with
    | nil => simp [peak]
    | cons tx rest => exact (max_eq_right (le_max_left _ _)).symm
  | cons tx rest ih => rw [List.cons_append, peak, peak, ih, run_cons, max_assoc]

theorem peak_le_append (state : State) (first second : List Tx) :
    machine.peak read state first ≤ machine.peak read state (first ++ second) := by
  rw [peak_append]
  exact le_max_left _ _

theorem read_le_peak (state : State) (txs : List Tx) :
    read (machine.run state txs) ≤ machine.peak read state txs := by
  induction txs generalizing state with
  | nil => exact le_rfl
  | cons tx rest ih => exact (ih _).trans (le_max_right _ _)

end Peak

/-- A property of histories holds of all of them when it holds of the empty one
and survives one more transaction, committed or reverted. -/
theorem history_rule {motive : List Tx → State → Prop} (start : State)
    (empty : motive [] start)
    (commit : ∀ txs tx next output, motive txs (machine.run start txs) →
      machine.exec (machine.run start txs) tx = .ok (next, output) → motive (txs ++ [tx]) next)
    (revert : ∀ txs tx reason, motive txs (machine.run start txs) →
      machine.exec (machine.run start txs) tx = .error reason →
        motive (txs ++ [tx]) (machine.run start txs))
    (txs : List Tx) : motive txs (machine.run start txs) := by
  induction txs using List.reverseRecOn with
  | nil => exact empty
  | append_singleton txs tx ih =>
    rw [run_snoc]
    cases result : machine.exec (machine.run start txs) tx with
    | error reason =>
      rw [deliver_error machine result]
      exact revert txs tx reason ih result
    | ok value =>
      rw [deliver_ok machine result]
      exact commit txs tx value.1 value.2 ih result

/-- The rule for histories whose transactions are all of an allowed kind. -/
theorem allowed_rule {motive : List Tx → State → Prop} (allowed : Tx → Prop) (start : State)
    (empty : motive [] start)
    (commit : ∀ txs tx next output, (∀ other ∈ txs, allowed other) → allowed tx →
      motive txs (machine.run start txs) →
        machine.exec (machine.run start txs) tx = .ok (next, output) → motive (txs ++ [tx]) next)
    (revert : ∀ txs tx reason, motive txs (machine.run start txs) →
      machine.exec (machine.run start txs) tx = .error reason →
        motive (txs ++ [tx]) (machine.run start txs))
    {txs : List Tx} (all : ∀ tx ∈ txs, allowed tx) : motive txs (machine.run start txs) := by
  revert all
  apply machine.history_rule (motive := fun txs state => (∀ tx ∈ txs, allowed tx) → motive txs state)
  · exact fun _ => empty
  · intro txs tx next output ih commits all
    have past : ∀ other ∈ txs, allowed other :=
      fun other member => all other (List.mem_append_left _ member)
    exact commit txs tx next output past (all tx (by simp)) (ih past) commits
  · intro txs tx reason ih fails all
    exact revert txs tx reason (ih fun other member => all other (List.mem_append_left _ member)) fails

/-- An invariant of the committed transactions that a history may contain. -/
theorem run_invariant {motive : State → Prop} (allowed : Tx → Prop)
    (preserved : ∀ state tx next output, motive state → allowed tx →
      machine.exec state tx = .ok (next, output) → motive next)
    {start : State} (initial : motive start) {txs : List Tx} (all : ∀ tx ∈ txs, allowed tx) :
    motive (machine.run start txs) := by
  apply machine.allowed_rule (motive := fun _ state => motive state) allowed start initial ?_ ?_ all
  · intro txs tx next output _ permitted holds commits
    exact preserved _ tx next output holds permitted commits
  · exact fun _ _ _ holds _ => holds

/-- An invariant of the committed transactions that show nothing, at any point of a history in
which nothing is seen. -/
theorem silent_rule {see : State → Tx → Output → List Seen} {motive : State → Prop} (allowed : Tx → Prop)
    (preserved : ∀ state tx next output, motive state → allowed tx → see state tx output = [] →
      machine.exec state tx = .ok (next, output) → motive next)
    {start : State} (initial : motive start) {txs earlier : List Tx} (within : earlier <+: txs)
    (all : ∀ tx ∈ txs, allowed tx) (silent : machine.observe see start txs = []) :
    motive (machine.run start earlier) := by
  obtain ⟨rest, rfl⟩ := within
  have permitted : ∀ tx ∈ earlier, allowed tx := fun tx member => all tx (List.mem_append_left _ member)
  rw [observe_append, List.append_eq_nil_iff] at silent
  refine machine.allowed_rule (motive := fun txs state => machine.observe see start txs = [] → motive state)
    allowed start (fun _ => initial) ?_ ?_ permitted silent.1
  · intro txs tx next output _ permits holds commits quiet
    rw [observe_snoc_ok machine see commits, List.append_eq_nil_iff] at quiet
    exact preserved _ tx next output (holds quiet.1) permits quiet.2 commits
  · intro txs tx reason holds fails quiet
    rw [observe_snoc_error machine see fails] at quiet
    exact holds quiet

end Machine

section Response

variable {State : Type u} {Tx : Type v} {Error : Type w} {Output : Type x}
variable {State' : Type u} {Tx' : Type y} {Error' : Type w} {Output' : Type x}
variable (machine : Machine State Tx Error Output) (target : Machine State' Tx' Error' Output')
variable (answer : State → Tx → List Tx')

theorem Machine.respond_snoc (state : State) (txs : List Tx) (tx : Tx) :
    machine.respond answer state (txs ++ [tx]) =
      machine.respond answer state txs ++ answer (machine.run state txs) tx := by
  induction txs generalizing state with
  | nil => exact List.append_nil _
  | cons first rest ih =>
    change answer state first ++ machine.respond answer _ (rest ++ [tx]) =
      answer state first ++ machine.respond answer _ rest ++ _
    rw [ih, List.append_assoc]
    rfl

/-- The rule of imitation: if the answer to each transaction keeps two states related, the
answers to a history do. -/
theorem Machine.respond_rule {Related : State → State' → Prop}
    (keeps : ∀ state state' tx, Related state state' →
      Related (machine.deliver state tx) (target.run state' (answer state tx)))
    {start : State} {start' : State'} (initial : Related start start') (txs : List Tx) :
    Related (machine.run start txs) (target.run start' (machine.respond answer start txs)) := by
  induction txs using List.reverseRecOn with
  | nil => exact initial
  | append_singleton txs tx ih =>
    rw [machine.run_snoc, respond_snoc, target.run_append]
    exact keeps _ _ tx ih

/-- A tally of the answers is a tally of what they answer, where every answer weighs the same. -/
theorem Machine.tally_respond {Related : State → State' → Prop} {weigh : State → Tx → Output → Nat}
    {weigh' : State' → Tx' → Output' → Nat}
    (keeps : ∀ state state' tx, Related state state' →
      Related (machine.deliver state tx) (target.run state' (answer state tx)))
    (weighs : ∀ state state' tx, Related state state' →
      target.tally weigh' state' (answer state tx) = machine.tally weigh state [tx])
    {start : State} {start' : State'} (initial : Related start start') (txs : List Tx) :
    target.tally weigh' start' (machine.respond answer start txs) = machine.tally weigh start txs := by
  induction txs using List.reverseRecOn with
  | nil => rfl
  | append_singleton txs tx ih =>
    have related := machine.respond_rule target answer keeps initial txs
    rw [respond_snoc, tally_append, tally_append, ih, weighs _ _ tx related]

end Response

/-- One machine carried by another: each committed transaction of `machine` shows
as a sequence of transactions of `target` between the viewed states. -/
structure Simulation {State : Type u} {Tx : Type v} {Error : Type w} {Output : Type x}
    {State' : Type u} {Tx' : Type v} {Error' : Type w} {Output' : Type x}
    (machine : Machine State Tx Error Output) (target : Machine State' Tx' Error' Output') where
  view : State → State'
  replay : State → Tx → Output → List Tx'
  commits : ∀ state tx next output, machine.exec state tx = .ok (next, output) →
    target.run (view state) (replay state tx output) = view next

namespace Simulation

variable {State : Type u} {Tx : Type v} {Error : Type w} {Output : Type x}
variable {State' : Type u} {Tx' : Type v} {Error' : Type w} {Output' : Type x}
variable {Seen : Type y} {machine : Machine State Tx Error Output} {target : Machine State' Tx' Error' Output'}
variable (simulation : Simulation machine target)

/-- The target's history behind a history of the simulated machine. -/
def history (state : State) (txs : List Tx) : List Tx' :=
  machine.observe simulation.replay state txs

theorem history_cons (state : State) (tx : Tx) (rest : List Tx) :
    simulation.history state (tx :: rest) =
      simulation.history state [tx] ++ simulation.history (machine.deliver state tx) rest :=
  machine.observe_append simulation.replay state [tx] rest

theorem history_append (state : State) (first second : List Tx) :
    simulation.history state (first ++ second) =
      simulation.history state first ++ simulation.history (machine.run state first) second :=
  machine.observe_append simulation.replay state first second

theorem history_single_ok {state next : State} {tx : Tx} {output : Output}
    (commits : machine.exec state tx = .ok (next, output)) :
    simulation.history state [tx] = simulation.replay state tx output :=
  machine.observe_single_ok simulation.replay commits

theorem history_single_error {state : State} {tx : Tx} {reason : Error}
    (fails : machine.exec state tx = .error reason) : simulation.history state [tx] = [] :=
  machine.observe_single_error simulation.replay fails

theorem run_single (state : State) (tx : Tx) :
    target.run (simulation.view state) (simulation.history state [tx]) =
      simulation.view (machine.deliver state tx) := by
  cases result : machine.exec state tx with
  | error reason =>
    rw [history_single_error simulation result, Machine.deliver_error machine result,
      Machine.run_nil]
  | ok value =>
    rw [history_single_ok simulation result, Machine.deliver_ok machine result]
    exact simulation.commits state tx value.1 value.2 result

/-- Every history of the simulated machine ends where its replay ends. -/
theorem run_history (state : State) (txs : List Tx) :
    target.run (simulation.view state) (simulation.history state txs) =
      simulation.view (machine.run state txs) := by
  induction txs generalizing state with
  | nil => rfl
  | cons tx rest ih => rw [history_cons, Machine.run_append, run_single, ih, Machine.run_cons]

/-- Observations of the target carry over when they agree on each transaction of the history. -/
theorem observe_history {see : State → Tx → Output → List Seen}
    {see' : State' → Tx' → Output' → List Seen} (state : State) (txs : List Tx)
    (agree : ∀ earlier tx next output, earlier ++ [tx] <+: txs →
      machine.exec (machine.run state earlier) tx = .ok (next, output) →
        target.observe see' (simulation.view (machine.run state earlier))
            (simulation.replay (machine.run state earlier) tx output) =
          see (machine.run state earlier) tx output) :
    target.observe see' (simulation.view state) (simulation.history state txs) =
      machine.observe see state txs := by
  induction txs using List.reverseRecOn with
  | nil => rfl
  | append_singleton txs tx ih =>
    have earlier := ih (fun before one next output within =>
      agree before one next output (within.trans (List.prefix_append txs [tx])))
    rw [history_append, Machine.observe_append, Machine.observe_append, run_history, earlier]
    congr 1
    cases result : machine.exec (machine.run state txs) tx with
    | error reason =>
      rw [history_single_error simulation result, Machine.observe_single_error machine see result,
        Machine.observe_nil]
    | ok value =>
      rw [history_single_ok simulation result, Machine.observe_single_ok machine see result]
      exact agree txs tx value.1 value.2 (List.prefix_refl _) result

theorem tally_history {weigh : State → Tx → Output → Nat} {weigh' : State' → Tx' → Output' → Nat}
    (agree : ∀ state tx next output, machine.exec state tx = .ok (next, output) →
      target.tally weigh' (simulation.view state) (simulation.replay state tx output) =
        weigh state tx output)
    (state : State) (txs : List Tx) :
    target.tally weigh' (simulation.view state) (simulation.history state txs) =
      machine.tally weigh state txs := by
  induction txs using List.reverseRecOn with
  | nil => rfl
  | append_singleton txs tx ih =>
    rw [history_append, Machine.tally_append, run_history, ih]
    cases result : machine.exec (machine.run state txs) tx with
    | error reason =>
      rw [history_single_error simulation result, Machine.tally_snoc_error machine weigh result,
        Machine.tally_nil, Nat.add_zero]
    | ok value =>
      rw [history_single_ok simulation result, Machine.tally_snoc_ok machine weigh result,
        agree _ tx value.1 value.2 result]

end Simulation

end CosmwasmContracts.Library.TransactionMachine
