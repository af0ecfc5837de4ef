import CosmwasmContracts.Library.TransactionMachine
import Mathlib.Data.Finsupp.Weight
import Mathlib.Data.Finsupp.Order

/-! A fungible-token ledger in the abstract: balances of finite support, allowances,
the recorded supply and the account allowed to mint. Amounts are unbounded here;
a machine's word sizes enter only where an implementation refines this ledger. -/

namespace CosmwasmContracts.Library.TokenLedger
open TransactionMachine

universe u

structure Ledger (Account : Type u) where
  balance : Account →₀ Nat
  allowance : Account → Account → Nat
  supply : Nat
  minter : Option Account

inductive Event (Account : Type u) where
  | transfer (sender recipient : Account) (amount : Nat)
  | burn (sender : Account) (amount : Nat)
  | mint (sender recipient : Account) (amount : Nat)
  | approve (owner spender : Account) (amount : Nat)
  | transferFrom (spender owner recipient : Account) (amount : Nat)
  | setMinter (sender : Account) (next : Option Account)

namespace Event

variable {Account : Type u}

def DrawsFrom (account : Account) : Event Account → Prop
  | .transfer sender _ _ => sender = account
  | .burn sender _ => sender = account
  | .transferFrom _ owner _ _ => owner = account
  | _ => False

/-- The account that asks for an event. -/
def actor : Event Account → Account
  | .transfer sender _ _ => sender
  | .burn sender _ => sender
  | .mint sender _ _ => sender
  | .approve owner _ _ => owner
  | .transferFrom spender _ _ _ => spender
  | .setMinter sender _ => sender

def received [DecidableEq Account] (account : Account) : Event Account → Nat
  | .transfer _ recipient amount => if recipient = account then amount else 0
  | .mint _ recipient amount => if recipient = account then amount else 0
  | .transferFrom _ _ recipient amount => if recipient = account then amount else 0
  | _ => 0

/-- What an event takes out of an account before it reaches its recipient. -/
def drawn [DecidableEq Account] (account : Account) : Event Account → Nat
  | .transfer sender _ amount => if sender = account then amount else 0
  | .burn sender amount => if sender = account then amount else 0
  | .transferFrom _ owner _ amount => if owner = account then amount else 0
  | _ => 0

def Approves (owner spender : Account) : Event Account → Prop
  | .approve source target _ => source = owner ∧ target = spender
  | _ => False

end Event

section Move

variable {Account : Type u}

/-- Tokens leave the source before they reach the recipient, who may be the source. -/
noncomputable def move (balance : Account →₀ Nat) (source recipient : Account) (amount : Nat) :
    Account →₀ Nat :=
  balance - Finsupp.single source amount + Finsupp.single recipient amount

theorem debit_degree (balance : Account →₀ Nat) (source : Account) (amount : Nat)
    (covered : amount ≤ balance source) :
    (balance - Finsupp.single source amount).degree + amount = balance.degree := by
  have parts := congrArg Finsupp.degree
    (tsub_add_cancel_of_le (Finsupp.single_le_iff.mpr covered))
  rw [map_add, Finsupp.degree_single] at parts
  exact parts

theorem move_degree (balance : Account →₀ Nat) (source recipient : Account) (amount : Nat)
    (covered : amount ≤ balance source) :
    (move balance source recipient amount).degree = balance.degree := by
  have parts := debit_degree balance source amount covered
  rw [move, map_add, Finsupp.degree_single]
  exact parts

variable [DecidableEq Account]

theorem debit_apply (balance : Account →₀ Nat) (source account : Account) (amount : Nat) :
    (balance - Finsupp.single source amount) account =
      balance account - if account = source then amount else 0 := by
  rw [Finsupp.tsub_apply, Finsupp.single_apply]
  simp only [eq_comm]

theorem credit_apply (balance : Account →₀ Nat) (recipient account : Account) (amount : Nat) :
    (balance + Finsupp.single recipient amount) account =
      balance account + if account = recipient then amount else 0 := by
  rw [Finsupp.add_apply, Finsupp.single_apply]
  simp only [eq_comm]

theorem move_apply (balance : Account →₀ Nat) (source recipient account : Account) (amount : Nat) :
    (move balance source recipient amount) account =
      balance account - (if account = source then amount else 0) +
        if account = recipient then amount else 0 := by
  rw [move, credit_apply, debit_apply]

end Move

namespace Ledger

variable {Account : Type u} [DecidableEq Account]

/-- The guard of each event, from authority and cover alone. -/
def Permits (ledger : Ledger Account) : Event Account → Prop
  | .transfer sender _ amount => amount ≤ ledger.balance sender
  | .burn sender amount => amount ≤ ledger.balance sender
  | .mint sender _ _ => ledger.minter = some sender
  | .approve _ _ _ => True
  | .transferFrom spender owner _ amount =>
      amount ≤ ledger.allowance owner spender ∧ amount ≤ ledger.balance owner
  | .setMinter sender _ => ledger.minter = some sender

def setAllowance (ledger : Ledger Account) (owner spender : Account) (amount : Nat) :
    Account → Account → Nat :=
  fun first second => if first = owner ∧ second = spender then amount
    else ledger.allowance first second

noncomputable def apply (ledger : Ledger Account) : Event Account → Ledger Account
  | .transfer sender recipient amount =>
      { ledger with balance := move ledger.balance sender recipient amount }
  | .burn sender amount =>
      { ledger with
        balance := ledger.balance - Finsupp.single sender amount
        supply := ledger.supply - amount }
  | .mint _ recipient amount =>
      { ledger with
        balance := ledger.balance + Finsupp.single recipient amount
        supply := ledger.supply + amount }
  | .approve owner spender amount =>
      { ledger with allowance := ledger.setAllowance owner spender amount }
  | .transferFrom spender owner recipient amount =>
      { ledger with
        balance := move ledger.balance owner recipient amount
        allowance := ledger.setAllowance owner spender (ledger.allowance owner spender - amount) }
  | .setMinter _ next => { ledger with minter := next }

open Classical in
noncomputable def machine : Machine (Ledger Account) (Event Account) Unit Unit where
  exec ledger event := if ledger.Permits event then .ok (ledger.apply event, ()) else .error ()

theorem exec_eq_ok {ledger next : Ledger Account} {event : Event Account} {output : Unit} :
    machine.exec ledger event = .ok (next, output) ↔
      ledger.Permits event ∧ next = ledger.apply event := by
  unfold machine
  by_cases permitted : ledger.Permits event
  · simp [permitted, eq_comm]
  · simp [permitted]

theorem exec_permitted {ledger : Ledger Account} {event : Event Account}
    (permitted : ledger.Permits event) :
    machine.exec ledger event = .ok (ledger.apply event, ()) :=
  exec_eq_ok.mpr ⟨permitted, rfl⟩

/-- The books balance: the recorded supply is what all accounts hold together. -/
def Conserved (ledger : Ledger Account) : Prop := ledger.balance.degree = ledger.supply

theorem apply_conserved {ledger : Ledger Account} (conserved : ledger.Conserved)
    {event : Event Account} (permitted : ledger.Permits event) :
    (ledger.apply event).Conserved := by
  unfold Conserved at conserved ⊢
  cases event with
  | transfer sender recipient amount =>
    exact (move_degree _ sender recipient amount permitted).trans conserved
  | burn sender amount =>
    have parts := debit_degree ledger.balance sender amount permitted
    change (ledger.balance - Finsupp.single sender amount).degree = ledger.supply - amount
    omega
  | mint sender recipient amount =>
    change (ledger.balance + Finsupp.single recipient amount).degree = ledger.supply + amount
    rw [map_add, Finsupp.degree_single, conserved]
  | approve owner spender amount => exact conserved
  | transferFrom spender owner recipient amount =>
    exact (move_degree _ owner recipient amount permitted.2).trans conserved
  | setMinter sender next => exact conserved

theorem run_conserved {ledger : Ledger Account} (conserved : ledger.Conserved)
    (events : List (Event Account)) : (machine.run ledger events).Conserved := by
  refine machine.run_invariant (fun _ => True) ?_ conserved (fun _ _ => trivial)
  intro state event next output holds _ commits
  obtain ⟨permitted, rfl⟩ := exec_eq_ok.mp commits
  exact apply_conserved holds permitted

section Issuance

def minted (_ : Ledger Account) (event : Event Account) (_ : Unit) : Nat :=
  match event with
  | .mint _ _ amount => amount
  | _ => 0

def burned (_ : Ledger Account) (event : Event Account) (_ : Unit) : Nat :=
  match event with
  | .burn _ amount => amount
  | _ => 0

theorem apply_supply {ledger : Ledger Account} (conserved : ledger.Conserved)
    {event : Event Account} (permitted : ledger.Permits event) (output : Unit) :
    (ledger.apply event).supply + burned ledger event output =
      ledger.supply + minted ledger event output := by
  cases event with
  | burn sender amount =>
    have within : amount ≤ ledger.supply := by
      unfold Conserved at conserved
      exact conserved ▸ permitted.trans (Finsupp.le_degree sender ledger.balance)
    exact Nat.sub_add_cancel within
  | mint sender recipient amount => rfl
  | transfer | approve | transferFrom | setMinter => rfl

theorem run_supply {ledger : Ledger Account} (conserved : ledger.Conserved)
    (events : List (Event Account)) :
    (machine.run ledger events).supply + machine.tally burned ledger events =
      ledger.supply + machine.tally minted ledger events := by
  apply machine.history_rule (motive := fun events state =>
    state.supply + machine.tally burned ledger events =
      ledger.supply + machine.tally minted ledger events)
  · rfl
  · intro events event next output ih commits
    rw [Machine.tally_snoc_ok _ _ commits, Machine.tally_snoc_ok _ _ commits]
    obtain ⟨permitted, rfl⟩ := exec_eq_ok.mp commits
    have step := apply_supply (run_conserved conserved events) permitted output
    omega
  · intro events event reason ih fails
    rw [Machine.tally_snoc_error _ _ fails, Machine.tally_snoc_error _ _ fails]
    exact ih

/-- A ledger whose minter is gone never has one again, and mints nothing more. -/
theorem run_renounced {ledger : Ledger Account} (renounced : ledger.minter = none)
    (events : List (Event Account)) :
    (machine.run ledger events).minter = none ∧ machine.tally minted ledger events = 0 := by
  apply machine.history_rule
    (motive := fun events state => state.minter = none ∧ machine.tally minted ledger events = 0)
  · exact ⟨renounced, rfl⟩
  · intro events event next output ih commits
    rw [Machine.tally_snoc_ok _ _ commits]
    obtain ⟨permitted, rfl⟩ := exec_eq_ok.mp commits
    cases event with
    | mint sender recipient amount =>
      have authority : some sender = none := permitted.symm.trans ih.1
      cases authority
    | setMinter sender next =>
      have authority : some sender = none := permitted.symm.trans ih.1
      cases authority
    | transfer | burn | approve | transferFrom => exact ih
  · intro events event reason ih fails
    rw [Machine.tally_snoc_error _ _ fails]
    exact ih

end Issuance

section Outflow

/-- What a spender moved out of an owner's account under allowances. -/
def spent (owner spender : Account) (_ : Ledger Account) (event : Event Account) (_ : Unit) : Nat :=
  match event with
  | .transferFrom sender source _ amount => if source = owner ∧ sender = spender then amount else 0
  | _ => 0

def approved (owner spender : Account) (_ : Ledger Account) (event : Event Account) (_ : Unit) : Nat :=
  match event with
  | .approve source target amount => if source = owner ∧ target = spender then amount else 0
  | _ => 0

/-- An event that does not draw from an account leaves it what it had and received. -/
theorem apply_balance (ledger : Ledger Account) {event : Event Account} {account : Account}
    (outside : ¬ event.DrawsFrom account) :
    (ledger.apply event).balance account = ledger.balance account + event.received account := by
  cases event with
  | transfer sender recipient amount =>
    have different : account ≠ sender := fun same => outside same.symm
    change (move ledger.balance sender recipient amount) account =
      _ + if recipient = account then amount else 0
    rw [move_apply, if_neg different, Nat.sub_zero]
    simp only [eq_comm]
  | burn sender amount =>
    have different : account ≠ sender := fun same => outside same.symm
    change (ledger.balance - Finsupp.single sender amount) account = _
    rw [debit_apply, if_neg different]
    rfl
  | mint sender recipient amount =>
    change (ledger.balance + Finsupp.single recipient amount) account =
      _ + if recipient = account then amount else 0
    rw [credit_apply]
    simp only [eq_comm]
  | transferFrom spender owner recipient amount =>
    have different : account ≠ owner := fun same => outside same.symm
    change (move ledger.balance owner recipient amount) account =
      _ + if recipient = account then amount else 0
    rw [move_apply, if_neg different, Nat.sub_zero]
    simp only [eq_comm]
  | approve | setMinter => rfl

theorem move_balance {balance : Account →₀ Nat} {source : Account} {amount : Nat}
    (covered : amount ≤ balance source) (recipient account : Account) :
    (move balance source recipient amount) account + (if source = account then amount else 0) =
      balance account + if recipient = account then amount else 0 := by
  rw [move_apply]
  simp only [eq_comm (a := account)]
  by_cases own : source = account
  · subst own
    rw [if_pos rfl]
    omega
  · rw [if_neg own, Nat.sub_zero, Nat.add_zero]

/-- The statement of an account: what it had and received is what it has and gave. -/
theorem apply_balance_statement {ledger : Ledger Account} {event : Event Account}
    (permitted : ledger.Permits event) (account : Account) :
    (ledger.apply event).balance account + event.drawn account =
      ledger.balance account + event.received account := by
  cases event with
  | transfer sender recipient amount => exact move_balance permitted recipient account
  | transferFrom spender owner recipient amount => exact move_balance permitted.2 recipient account
  | burn sender amount =>
    change (ledger.balance - Finsupp.single sender amount) account + (if sender = account then amount else 0) = _
    rw [debit_apply]
    simp only [eq_comm (a := account)]
    by_cases own : sender = account
    · subst own
      rw [if_pos rfl]
      exact Nat.sub_add_cancel permitted
    · rw [if_neg own]
      rfl
  | mint sender recipient amount =>
    have outside : ¬Event.DrawsFrom account (.mint sender recipient amount) := not_false
    exact apply_balance ledger outside
  | approve | setMinter => rfl

/-- An account that approves nobody only receives from what others do. -/
theorem apply_balance_passive {ledger : Ledger Account} {event : Event Account} {account : Account}
    (permitted : ledger.Permits event) (outside : event.actor ≠ account)
    (unspendable : ∀ spender, ledger.allowance account spender = 0) :
    (ledger.apply event).balance account = ledger.balance account + event.received account := by
  by_cases draws : event.DrawsFrom account
  · cases event with
    | transferFrom spender owner recipient amount =>
      obtain rfl : owner = account := draws
      have nothing : amount = 0 := Nat.le_zero.mp (permitted.1.trans (unspendable spender).le)
      subst nothing
      change (move ledger.balance owner recipient 0) owner = _ + if recipient = owner then 0 else 0
      rw [move_apply]
      simp only [ite_self, Nat.sub_zero]
    | transfer | burn => exact (outside draws).elim
    | mint | approve | setMinter => exact draws.elim
  · exact apply_balance ledger draws

/-- A balance falls only through an event that draws from its own account. -/
theorem apply_balance_ge (ledger : Ledger Account) {event : Event Account} {account : Account}
    (outside : ¬ event.DrawsFrom account) :
    ledger.balance account ≤ (ledger.apply event).balance account := by
  rw [apply_balance ledger outside]
  exact Nat.le_add_right _ _

theorem apply_allowance_le (ledger : Ledger Account) {event : Event Account} {owner spender : Account}
    (outside : ¬ event.Approves owner spender) :
    (ledger.apply event).allowance owner spender ≤ ledger.allowance owner spender := by
  cases event with
  | approve source target amount =>
    have different : ¬(owner = source ∧ spender = target) :=
      fun same => outside ⟨same.1.symm, same.2.symm⟩
    change ledger.setAllowance source target amount owner spender ≤ _
    rw [setAllowance, if_neg different]
  | transferFrom sender source recipient amount =>
    change ledger.setAllowance source sender _ owner spender ≤ _
    unfold setAllowance
    split
    next same =>
      rw [same.1, same.2]
      exact Nat.sub_le _ _
    next different => exact le_rfl
  | transfer | burn | mint | setMinter => exact le_rfl

/-- Spending and the allowance left grow together by no more than is approved. -/
theorem apply_allowance {ledger : Ledger Account} {event : Event Account}
    (permitted : ledger.Permits event) (owner spender : Account) (output : Unit) :
    spent owner spender ledger event output + (ledger.apply event).allowance owner spender ≤
      ledger.allowance owner spender + approved owner spender ledger event output := by
  cases event with
  | approve source target amount =>
    change 0 + ledger.setAllowance source target amount owner spender ≤
      _ + if source = owner ∧ target = spender then amount else 0
    unfold setAllowance
    by_cases same : source = owner ∧ target = spender
    · rw [if_pos same, if_pos ⟨same.1.symm, same.2.symm⟩]
      omega
    · rw [if_neg same, if_neg (fun other => same ⟨other.1.symm, other.2.symm⟩)]
      omega
  | transferFrom sender source recipient amount =>
    change (if source = owner ∧ sender = spender then amount else 0) +
      ledger.setAllowance source sender (ledger.allowance source sender - amount) owner spender ≤ _ + 0
    unfold setAllowance
    by_cases same : source = owner ∧ sender = spender
    · have covered := permitted.1
      rw [if_pos same, if_pos ⟨same.1.symm, same.2.symm⟩]
      rw [same.1, same.2] at covered ⊢
      omega
    · rw [if_neg same, if_neg (fun other => same ⟨other.1.symm, other.2.symm⟩)]
      omega
  | transfer | burn | mint | setMinter => exact (Nat.zero_add _).le

theorem run_allowance (ledger : Ledger Account) (owner spender : Account)
    (events : List (Event Account)) :
    machine.tally (spent owner spender) ledger events +
        (machine.run ledger events).allowance owner spender ≤
      ledger.allowance owner spender + machine.tally (approved owner spender) ledger events := by
  apply machine.history_rule (motive := fun events state =>
    machine.tally (spent owner spender) ledger events + state.allowance owner spender ≤
      ledger.allowance owner spender + machine.tally (approved owner spender) ledger events)
  · exact (Nat.zero_add _).le
  · intro events event next output ih commits
    rw [Machine.tally_snoc_ok _ _ commits, Machine.tally_snoc_ok _ _ commits]
    obtain ⟨permitted, rfl⟩ := exec_eq_ok.mp commits
    have step := apply_allowance permitted owner spender output
    omega
  · intro events event reason ih fails
    rw [Machine.tally_snoc_error _ _ fails, Machine.tally_snoc_error _ _ fails]
    exact ih

end Outflow

end Ledger

end CosmwasmContracts.Library.TokenLedger
