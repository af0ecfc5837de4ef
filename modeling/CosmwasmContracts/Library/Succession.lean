import CosmwasmContracts.Library.TransactionMachine

/-! A right that one party holds at a time. It passes on in two steps: the holder offers it,
and whoever was offered it last accepts. The holder may also give it up, and then nobody
holds it again. Whoever holds the right came by it through a chain of such consents. -/

namespace CosmwasmContracts.Library.Succession
open TransactionMachine

universe u

@[ext]
structure Authority (Party : Type u) where
  holder : Option Party
  offered : Option Party

inductive Event (Party : Type u) where
  | offer (sender target : Party)
  | accept (sender : Party)
  | renounce (sender : Party)

def Event.sender {Party : Type u} : Event Party → Party
  | .offer sender _ => sender
  | .accept sender => sender
  | .renounce sender => sender

variable {Party : Type u}

def machine [DecidableEq Party] : Machine (Authority Party) (Event Party) Unit Unit where
  exec authority event :=
    match event with
    | .offer sender target =>
        if authority.holder = some sender then .ok ({ authority with offered := some target }, ()) else .error ()
    | .accept sender =>
        if authority.offered = some sender then .ok ({ holder := some sender, offered := none }, ()) else .error ()
    | .renounce sender =>
        if authority.holder = some sender then .ok ({ holder := none, offered := none }, ()) else .error ()

/-- What each event needs and does. -/
inductive Step (authority : Authority Party) : Event Party → Authority Party → Prop where
  | offered (sender target : Party) (holds : authority.holder = some sender) :
      Step authority (.offer sender target) { authority with offered := some target }
  | accepted (sender : Party) (invited : authority.offered = some sender) :
      Step authority (.accept sender) { holder := some sender, offered := none }
  | renounced (sender : Party) (holds : authority.holder = some sender) :
      Step authority (.renounce sender) { holder := none, offered := none }

theorem exec_eq_ok [DecidableEq Party] {authority next : Authority Party} {event : Event Party} {output : Unit} :
    machine.exec authority event = .ok (next, output) ↔ Step authority event next := by
  constructor
  · intro success
    cases event with
    | offer sender target =>
      by_cases holds : authority.holder = some sender
      · simp only [machine, if_pos holds] at success
        cases success
        exact .offered sender target holds
      · simp only [machine, if_neg holds] at success
        cases success
    | accept sender =>
      by_cases invited : authority.offered = some sender
      · simp only [machine, if_pos invited] at success
        cases success
        exact .accepted sender invited
      · simp only [machine, if_neg invited] at success
        cases success
    | renounce sender =>
      by_cases holds : authority.holder = some sender
      · simp only [machine, if_pos holds] at success
        cases success
        exact .renounced sender holds
      · simp only [machine, if_neg holds] at success
        cases success
  · intro step
    cases step with
    | offered sender target holds => simp only [machine, if_pos holds]
    | accepted sender invited => simp only [machine, if_pos invited]
    | renounced sender holds => simp only [machine, if_pos holds]

theorem exec_of_step [DecidableEq Party] {authority next : Authority Party} {event : Event Party}
    (step : Step authority event next) : machine.exec authority event = .ok (next, ()) := exec_eq_ok.mpr step

/-- An event by neither the holder nor the one it was offered to fails. -/
theorem stranger_refused {authority next : Authority Party} {event : Event Party}
    (step : Step authority event next) :
    authority.holder = some event.sender ∨ authority.offered = some event.sender := by
  cases step with
  | offered sender target holds => exact Or.inl holds
  | accepted sender invited => exact Or.inr invited
  | renounced sender holds => exact Or.inl holds

section Succession

/-- The offers made, each with its sender. -/
def offers (_ : Authority Party) (event : Event Party) (_ : Unit) : List (Party × Party) :=
  match event with
  | .offer sender target => [(sender, target)]
  | _ => []

/-- The right passing from one holder to the next. -/
def handovers (authority : Authority Party) (event : Event Party) (_ : Unit) : List (Party × Party) :=
  match event, authority.holder with
  | .accept sender, some holder => [(holder, sender)]
  | _, _ => []

/-- Handovers that begin with a party, each from the one the last went to. -/
def Chain : Party → List (Party × Party) → Prop
  | _, [] => True
  | holder, handover :: rest => handover.1 = holder ∧ Chain handover.2 rest

/-- What the last of a list of records sets, or what was set first where there is none. -/
def latest {Sender Value : Type u} (first : Value) (records : List (Sender × Value)) : Value :=
  records.foldl (fun _ record => record.2) first

theorem latest_snoc {Sender Value : Type u} (first : Value) (records : List (Sender × Value))
    (record : Sender × Value) : latest first (records ++ [record]) = record.2 := List.foldl_append

theorem chain_snoc {first : Party} {passed : List (Party × Party)} (chain : Chain first passed) (next : Party) :
    Chain first (passed ++ [(latest first passed, next)]) := by
  induction passed generalizing first with
  | nil => exact ⟨rfl, trivial⟩
  | cons handover rest ih =>
    exact ⟨chain.1, ih chain.2⟩

/-- How a history of a right that began with one holder stands: a standing offer is the last
one made and was made by the present holder; every handover was offered; the handovers form
a chain that ends with the holder, unless the right was given up. -/
structure Succeeded (first : Party) (offered passed : List (Party × Party)) (authority : Authority Party) :
    Prop where
  standing : ∀ target, authority.offered = some target →
    ∃ holder, authority.holder = some holder ∧ offered.getLast? = some (holder, target)
  consented : ∀ handover ∈ passed, handover ∈ offered
  chain : Chain first passed
  titled : ∀ holder, authority.holder = some holder → holder = latest first passed

variable {first : Party} {offered passed : List (Party × Party)} {authority next : Authority Party}

theorem Succeeded.start (first : Party) : Succeeded first [] [] { holder := some first, offered := none } := by
  refine ⟨?_, ?_, trivial, ?_⟩
  · intro target impossible
    cases impossible
  · intro handover member
    cases member
  · intro holder same
    exact (Option.some.inj same).symm

/-- A right that nobody holds is offered to nobody. -/
theorem Succeeded.unheld (succeeded : Succeeded first offered passed authority)
    (given : authority.holder = none) : authority.offered = none := by
  cases standing : authority.offered with
  | none => rfl
  | some target =>
    obtain ⟨holder, holds, _⟩ := succeeded.standing target standing
    cases given.symm.trans holds

theorem Succeeded.step {event : Event Party} (succeeded : Succeeded first offered passed authority)
    (step : Step authority event next) :
    Succeeded first (offered ++ offers authority event ()) (passed ++ handovers authority event ()) next := by
  cases step with
  | offered sender target holds =>
    have quiet : handovers authority (.offer sender target) () = [] := rfl
    rw [quiet, List.append_nil]
    refine ⟨?_, fun handover member => List.mem_append_left _ (succeeded.consented handover member),
      succeeded.chain, succeeded.titled⟩
    intro other same
    obtain rfl := Option.some.inj same
    refine ⟨sender, holds, ?_⟩
    rw [offers, List.getLast?_concat]
  | accepted sender invited =>
    obtain ⟨holder, holds, last⟩ := succeeded.standing sender invited
    have passes : handovers authority (.accept sender) () = [(holder, sender)] := by
      simp only [handovers, holds]
    have none : offers authority (.accept sender) () = [] := rfl
    rw [passes, none, List.append_nil]
    refine ⟨?_, ?_, ?_, ?_⟩
    · intro target impossible
      cases impossible
    · intro handover member
      rcases List.mem_append.mp member with old | latest
      · exact succeeded.consented handover old
      · rw [List.mem_singleton.mp latest]
        exact List.mem_of_getLast? last
    · rw [succeeded.titled holder holds]
      exact chain_snoc succeeded.chain sender
    · intro other same
      rw [latest_snoc]
      exact (Option.some.inj same).symm
  | renounced sender holds =>
    have quiet : handovers authority (.renounce sender) () = [] := rfl
    have none : offers authority (.renounce sender) () = [] := rfl
    rw [quiet, none, List.append_nil, List.append_nil]
    refine ⟨?_, succeeded.consented, succeeded.chain, ?_⟩
    · intro target impossible
      cases impossible
    · intro holder impossible
      cases impossible

/-- Every history of a right is a succession by consent. -/
theorem run_succeeded [DecidableEq Party] (first : Party) (events : List (Event Party)) :
    Succeeded first (machine.observe offers { holder := some first, offered := none } events)
      (machine.observe handovers { holder := some first, offered := none } events)
      (machine.run { holder := some first, offered := none } events) := by
  apply machine.history_rule (motive := fun events authority =>
    Succeeded first (machine.observe offers { holder := some first, offered := none } events)
      (machine.observe handovers { holder := some first, offered := none } events) authority)
  · exact Succeeded.start first
  · intro events event next output succeeded success
    rw [Machine.observe_snoc_ok _ _ success, Machine.observe_snoc_ok _ _ success]
    exact succeeded.step (exec_eq_ok.mp success)
  · intro events event reason succeeded fails
    rw [Machine.observe_snoc_error _ _ fails, Machine.observe_snoc_error _ _ fails]
    exact succeeded

end Succession

end CosmwasmContracts.Library.Succession
