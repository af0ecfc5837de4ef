import CosmwasmContracts.Library.TransactionMachine

/-! Histories on a clock: transactions at non-decreasing times, the time a history
has reached, and the integral of a reading over the time between transactions. -/

namespace CosmwasmContracts.Library.TimedHistory
open TransactionMachine

universe u v w x

section Clock

variable {Tx : Type v} (clock : Tx → Nat)

/-- No transaction is earlier than the one before it, nor than the start. -/
def Ordered : Nat → List Tx → Prop
  | _, [] => True
  | start, tx :: rest => start ≤ clock tx ∧ Ordered (clock tx) rest

def reached : Nat → List Tx → Nat
  | start, [] => start
  | _, tx :: rest => reached (clock tx) rest

instance decidableOrdered : (start : Nat) → (txs : List Tx) → Decidable (Ordered clock start txs)
  | _, [] => .isTrue trivial
  | start, tx :: rest =>
      @instDecidableAnd (start ≤ clock tx) (Ordered clock (clock tx) rest) _
        (decidableOrdered (clock tx) rest)

theorem reached_snoc (start : Nat) (txs : List Tx) (tx : Tx) :
    reached clock start (txs ++ [tx]) = clock tx := by
  induction txs generalizing start with
  | nil => rfl
  | cons first rest ih => exact ih (clock first)

theorem ordered_snoc (start : Nat) (txs : List Tx) (tx : Tx) :
    Ordered clock start (txs ++ [tx]) ↔
      Ordered clock start txs ∧ reached clock start txs ≤ clock tx := by
  induction txs generalizing start with
  | nil => simp [Ordered, reached]
  | cons first rest ih =>
    change (start ≤ clock first ∧ Ordered clock (clock first) (rest ++ [tx])) ↔
      (start ≤ clock first ∧ Ordered clock (clock first) rest) ∧
        reached clock (clock first) rest ≤ clock tx
    rw [ih (clock first), and_assoc]

/-- A coarser clock reads the time that has been reached as the coarser time. -/
theorem reached_map (measure : Nat → Nat) (start : Nat) (txs : List Tx) :
    reached (fun tx => measure (clock tx)) (measure start) txs = measure (reached clock start txs) := by
  induction txs generalizing start with
  | nil => rfl
  | cons first rest ih => exact ih (clock first)

/-- No transaction of an ordered history is earlier than its start. -/
theorem ordered_from {start : Nat} {txs : List Tx} (ordered : Ordered clock start txs) :
    ∀ tx ∈ txs, start ≤ clock tx := by
  induction txs generalizing start with
  | nil =>
    intro tx member
    cases member
  | cons first rest ih =>
    intro tx member
    rcases List.mem_cons.mp member with rfl | later
    · exact ordered.1
    · exact ordered.1.trans (ih ordered.2 tx later)

theorem ordered_earlier {start : Nat} {earlier txs : List Tx} (ordered : Ordered clock start txs)
    (part : earlier <+: txs) : Ordered clock start earlier := by
  obtain ⟨rest, rfl⟩ := part
  induction rest using List.reverseRecOn with
  | nil => rwa [List.append_nil] at ordered
  | append_singleton rest last ih =>
    rw [← List.append_assoc] at ordered
    exact ih ((ordered_snoc clock start _ last).mp ordered).1

end Clock

section Rule

variable {State : Type u} {Tx : Type v} {Error : Type w} {Output : Type x}
variable (machine : Machine State Tx Error Output) (clock : Tx → Nat)

/-- The rule for histories at ordered times: each transaction finds the time reached
before it no later than its own. -/
theorem ordered_rule {motive : List Tx → State → Prop} (start : Nat) (state : State)
    (empty : motive [] state)
    (commit : ∀ txs tx next output, reached clock start txs ≤ clock tx →
      motive txs (machine.run state txs) →
        machine.exec (machine.run state txs) tx = .ok (next, output) → motive (txs ++ [tx]) next)
    (revert : ∀ txs tx reason, reached clock start txs ≤ clock tx →
      motive txs (machine.run state txs) →
        machine.exec (machine.run state txs) tx = .error reason →
          motive (txs ++ [tx]) (machine.run state txs))
    {txs : List Tx} (ordered : Ordered clock start txs) : motive txs (machine.run state txs) := by
  revert ordered
  apply machine.history_rule
    (motive := fun txs reachedState => Ordered clock start txs → motive txs reachedState)
  · exact fun _ => empty
  · intro txs tx next output ih commits ordered
    obtain ⟨past, later⟩ := (ordered_snoc clock start txs tx).mp ordered
    exact commit txs tx next output later (ih past) commits
  · intro txs tx reason ih fails ordered
    obtain ⟨past, later⟩ := (ordered_snoc clock start txs tx).mp ordered
    exact revert txs tx reason later (ih past) fails

end Rule

section Integral

variable {State : Type u} {Tx : Type v} {Error : Type w} {Output : Type x}
variable (machine : Machine State Tx Error Output) (clock : Tx → Nat) (read : State → Nat)

/-- The sum over the intervals between transactions of the reading during the
interval times the interval's length. -/
def integral : Nat → State → List Tx → Nat
  | _, _, [] => 0
  | start, state, tx :: rest =>
      read state * (clock tx - start) + integral (clock tx) (machine.deliver state tx) rest

theorem integral_snoc (start : Nat) (state : State) (txs : List Tx) (tx : Tx) :
    integral machine clock read start state (txs ++ [tx]) =
      integral machine clock read start state txs +
        read (machine.run state txs) * (clock tx - reached clock start txs) := by
  induction txs generalizing start state with
  | nil => simp [integral, reached]
  | cons first rest ih =>
    rw [List.cons_append, integral, integral, ih, Machine.run_cons, Nat.add_assoc]
    rfl

/-- The potential argument against an integral. What is owed grows with time no faster
than the integral does, and no transaction hands out more than it takes off what is
owed: then all that is handed out stays under the integral. -/
theorem tally_le_integral (unit rate : Nat) (weigh : State → Tx → Output → Nat)
    (owed : State → Nat → Nat) (start : Nat) (state : State) (txs : List Tx)
    (nothing : owed state start = 0)
    (elapse : ∀ between now later,
      owed between later ≤ owed between now + rate * (read between * (later - now)))
    (pays : ∀ earlier tx next output, earlier ++ [tx] <+: txs →
      machine.exec (machine.run state earlier) tx = .ok (next, output) →
        unit * weigh (machine.run state earlier) tx output + owed next (clock tx) ≤
          owed (machine.run state earlier) (clock tx)) :
    unit * machine.tally weigh state txs + owed (machine.run state txs) (reached clock start txs) ≤
      rate * integral machine clock read start state txs := by
  induction txs using List.reverseRecOn with
  | nil =>
    change unit * 0 + owed state start ≤ rate * 0
    rw [nothing]
    omega
  | append_singleton txs tx ih =>
    have earlier := ih (fun before one next output within =>
      pays before one next output (within.trans (List.prefix_append txs [tx])))
    have growth := elapse (machine.run state txs) (reached clock start txs) (clock tx)
    rw [integral_snoc, Nat.mul_add, reached_snoc, Machine.run_snoc]
    cases result : machine.exec (machine.run state txs) tx with
    | error reason =>
      rw [Machine.deliver_error _ result, Machine.tally_snoc_error _ _ result]
      omega
    | ok value =>
      have step := pays txs tx value.1 value.2 (List.prefix_refl _) result
      rw [Machine.deliver_ok _ result, Machine.tally_snoc_ok _ _ result, Nat.mul_add]
      omega

/-- Accounts kept over time balance. When what is due grows with time exactly as the integral
does, and every transaction takes off it what it pays and adds what it puts in, nothing
else is ever due. -/
theorem accounts_balance (pays puts : State → Tx → Output → Nat) (due : State → Nat → Nat) (start : Nat)
    (state : State) (txs : List Tx) (nothing : due state start = 0)
    (elapse : ∀ earlier tx, earlier ++ [tx] <+: txs →
      due (machine.run state earlier) (clock tx) =
        due (machine.run state earlier) (reached clock start earlier) +
          read (machine.run state earlier) * (clock tx - reached clock start earlier))
    (moves : ∀ earlier tx next output, earlier ++ [tx] <+: txs →
      machine.exec (machine.run state earlier) tx = .ok (next, output) →
        pays (machine.run state earlier) tx output + due next (clock tx) =
          due (machine.run state earlier) (clock tx) + puts (machine.run state earlier) tx output) :
    machine.tally pays state txs + due (machine.run state txs) (reached clock start txs) =
      integral machine clock read start state txs + machine.tally puts state txs := by
  induction txs using List.reverseRecOn with
  | nil =>
    change 0 + due state start = 0 + 0
    rw [nothing]
  | append_singleton txs tx ih =>
    have earlier := ih (fun before one within => elapse before one (within.trans (List.prefix_append txs [tx])))
      (fun before one next output within =>
        moves before one next output (within.trans (List.prefix_append txs [tx])))
    have growth := elapse txs tx (List.prefix_refl _)
    rw [integral_snoc, reached_snoc, Machine.run_snoc]
    cases result : machine.exec (machine.run state txs) tx with
    | error reason =>
      rw [Machine.deliver_error _ result, Machine.tally_snoc_error _ _ result,
        Machine.tally_snoc_error _ _ result]
      omega
    | ok value =>
      have step := moves txs tx value.1 value.2 (List.prefix_refl _) result
      rw [Machine.deliver_ok _ result, Machine.tally_snoc_ok _ _ result, Machine.tally_snoc_ok _ _ result]
      omega

end Integral

end CosmwasmContracts.Library.TimedHistory
