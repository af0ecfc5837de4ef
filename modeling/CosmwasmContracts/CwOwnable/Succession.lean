import CosmwasmContracts.CwOwnable
import CosmwasmContracts.Library.Succession

/-! The ownership item of `cw_ownable` as a right that passes on by consent. A contract is
governed when its ownership item moves by the package's operations and by nothing else;
the history of its owners is then a succession. -/

namespace CosmwasmContracts.CwOwnable
open Library.TransactionMachine Library.Succession CosmwasmStd

def Ownership.authority (ownership : Ownership) : Authority Addr where
  holder := ownership.owner
  offered := ownership.pendingOwner

def Action.event (sender : Addr) : Action → Event Addr
  | .transferOwnership newOwner _ => .offer sender ⟨newOwner⟩
  | .acceptOwnership => .accept sender
  | .renounceOwnership => .renounce sender

theorem Action.event_sender (sender : Addr) (action : Action) : (action.event sender).sender = sender := by
  cases action <;> rfl

/-- Where nobody owns a contract with such a history, nobody can ask anything of its ownership. -/
theorem Ownership.nobody_involved {ownership : Ownership} {first : Addr} {offered passed : List (Addr × Addr)}
    (succeeded : Succeeded first offered passed ownership.authority) (unowned : ownership.owner = none)
    (sender : Addr) : ownership.owner ≠ some sender ∧ ownership.pendingOwner ≠ some sender := by
  have uninvited : ownership.pendingOwner = none := succeeded.unheld unowned
  simp [unowned, uninvited]

namespace Package

variable {ownable : Package} {api : Api} {block : BlockInfo} {sender : Addr} {action : Action}
variable {before next : Ownership}

theorem Lawful.step (lawful : ownable.Lawful)
    (updated : ownable.updateOwnership api block sender action before = .ok next) :
    Step before.authority (action.event sender) next.authority := by
  cases action with
  | transferOwnership newOwner expiry =>
    obtain ⟨owns, pending, valid, rfl⟩ := lawful.transferred updated
    obtain rfl := api.given newOwner pending valid
    exact .offered sender ⟨newOwner⟩ owns
  | acceptOwnership =>
    obtain ⟨invited, rfl⟩ := lawful.accepted updated
    exact .accepted sender invited
  | renounceOwnership =>
    obtain ⟨owns, rfl⟩ := lawful.renounced updated
    exact .renounced sender owns

/-- Only the owner passes the assertion. -/
theorem Lawful.owns (lawful : ownable.Lawful) (asserted : ownable.assertOwner before sender = .ok ()) :
    before.owner = some sender := by
  by_contra other
  obtain ⟨reason, refused⟩ := lawful.others_refused other
  rw [refused] at asserted
  cases asserted

end Package

section Governed

variable {State Tx Error Output : Type} (machine : Machine State Tx Error Output)
variable (ownership : State → Ownership) (request : Tx → Option (Addr × Action))

/-- The ownership item of a contract moves by its owners' requests alone. -/
structure Governed : Prop where
  requested : ∀ state tx next output sender action, machine.exec state tx = .ok (next, output) →
    request tx = some (sender, action) →
      Step (ownership state).authority (action.event sender) (ownership next).authority
  untouched : ∀ state tx next output, machine.exec state tx = .ok (next, output) →
    request tx = none → ownership next = ownership state

/-- What a contract's right to its ownership sees of the contract. -/
def ownerSide (governed : Governed machine ownership request) :
    Simulation machine (Library.Succession.machine : Machine (Authority Addr) (Event Addr) Unit Unit) where
  view := fun state => (ownership state).authority
  replay := fun _ tx _ =>
    match request tx with
    | some (sender, action) => [action.event sender]
    | none => []
  commits := by
    intro state tx next output success
    cases asked : request tx with
    | none =>
      rw [governed.untouched state tx next output success asked]
      rfl
    | some requested =>
      have step := governed.requested state tx next output requested.1 requested.2 success asked
      exact Machine.deliver_ok _ (exec_of_step step)

/-- The transfers of ownership offered, each with its sender. -/
def offersMade (_ : State) (tx : Tx) (_ : Output) : List (Addr × Addr) :=
  match request tx with
  | some (sender, .transferOwnership newOwner _) => [(sender, ⟨newOwner⟩)]
  | _ => []

/-- The ownership passing from one owner to the next. -/
def handoversMade (state : State) (tx : Tx) (_ : Output) : List (Addr × Addr) :=
  match request tx, (ownership state).owner with
  | some (sender, .acceptOwnership), some owner => [(owner, sender)]
  | _, _ => []

variable {machine ownership request} (governed : Governed machine ownership request)
include governed

/-- What a contract's history shows of its ownership is what the replayed history shows. -/
theorem Governed.observe_history {Seen : Type} {see : State → Tx → Output → List Seen}
    {see' : Authority Addr → Event Addr → Unit → List Seen}
    (asked : ∀ state tx output sender action, request tx = some (sender, action) →
      see' (ownership state).authority (action.event sender) () = see state tx output)
    (quiet : ∀ state tx output, request tx = none → see state tx output = []) (start : State) (txs : List Tx) :
    Library.Succession.machine.observe see' (ownership start).authority
        ((ownerSide machine ownership request governed).history start txs) =
      machine.observe see start txs := by
  refine (ownerSide machine ownership request governed).observe_history start txs ?_
  intro earlier tx next output _ success
  change Library.Succession.machine.observe see' (ownership (machine.run start earlier)).authority
    (match request tx with
      | some (sender, action) => [action.event sender]
      | none => []) = _
  cases requested : request tx with
  | none => exact (quiet _ tx output requested).symm
  | some made =>
    have step := governed.requested _ tx next output made.1 made.2 success requested
    calc Library.Succession.machine.observe see' (ownership (machine.run start earlier)).authority
          [made.2.event made.1]
        = see' (ownership (machine.run start earlier)).authority (made.2.event made.1) () :=
          Machine.observe_single_ok _ _ (exec_of_step step)
      _ = see (machine.run start earlier) tx output := asked _ tx output made.1 made.2 requested

/-- The owners of a contract, from its first one on, are a succession by consent. -/
theorem Governed.run_succeeded {start : State} {first : Addr}
    (owned : (ownership start).authority = { holder := some first, offered := none }) (txs : List Tx) :
    Succeeded first (machine.observe (offersMade request) start txs)
      (machine.observe (handoversMade ownership request) start txs)
      (ownership (machine.run start txs)).authority := by
  have history := Library.Succession.run_succeeded first
    ((ownerSide machine ownership request governed).history start txs)
  have arrived : Library.Succession.machine.run (ownership start).authority
      ((ownerSide machine ownership request governed).history start txs) =
        (ownership (machine.run start txs)).authority :=
    (ownerSide machine ownership request governed).run_history start txs
  have offered : Library.Succession.machine.observe offers (ownership start).authority
      ((ownerSide machine ownership request governed).history start txs) =
        machine.observe (offersMade request) start txs := by
    apply governed.observe_history
    · intro state tx output sender action asked
      cases action <;> simp only [offersMade, asked, Action.event, offers]
    · intro state tx output nothing
      simp only [offersMade, nothing]
  have passed : Library.Succession.machine.observe handovers (ownership start).authority
      ((ownerSide machine ownership request governed).history start txs) =
        machine.observe (handoversMade ownership request) start txs := by
    apply governed.observe_history
    · intro state tx output sender action asked
      cases action <;> cases holder : (ownership state).owner <;>
        simp only [handoversMade, asked, Action.event, handovers, Ownership.authority, holder]
    · intro state tx output nothing
      simp only [handoversMade, nothing]
  rw [← owned, arrived, offered, passed] at history
  exact history

/-- A request by neither the owner nor the one it was offered to is refused. -/
theorem Governed.exec_silent {before next : State} {tx : Tx} {output : Output}
    (silent : ∀ sender action, request tx = some (sender, action) →
      (ownership before).owner ≠ some sender ∧ (ownership before).pendingOwner ≠ some sender)
    (commits : machine.exec before tx = .ok (next, output)) : ownership next = ownership before := by
  cases asked : request tx with
  | none => exact governed.untouched before tx next output commits asked
  | some requested =>
    have step := governed.requested before tx next output requested.1 requested.2 commits asked
    have involved := stranger_refused step
    rw [Action.event_sender] at involved
    obtain ⟨notOwner, notOffered⟩ := silent requested.1 requested.2 asked
    rcases involved with owns | invited
    · exact absurd owns notOwner
    · exact absurd invited notOffered

end Governed

end CosmwasmContracts.CwOwnable
