import CosmwasmContracts.Cw20Token.Exactness
import Mathlib.Data.Finsupp.Single

/-! The states that the token reaches, no more and no fewer. Balances that add up to a supply
of 128 bits, at known addresses, any allowances to known spenders and any known minter or
none: every such ledger is where some history ends, so that nothing else ties its parts. -/

namespace CosmwasmContracts.Cw20Token
open Library.CheckedWord Library.FiniteMap Library.TransactionMachine Library.TokenLedger CosmwasmStd

structure Attainable (api : Api) (ledger : Ledger Addr) : Prop where
  conserved : ledger.Conserved
  supply : ledger.supply < 2 ^ 128
  allowances : ∀ owner spender, ledger.allowance owner spender < 2 ^ 128
  finite : {pair : Addr × Addr | ledger.allowance pair.1 pair.2 ≠ 0}.Finite
  holders : ∀ account, ledger.balance account ≠ 0 → api.Accepts account
  spenders : ∀ owner spender, ledger.allowance owner spender ≠ 0 → api.Accepts spender
  minters : ∀ minter, ledger.minter = some minter → api.Accepts minter

variable {api : Api} {ledger last : Ledger Addr} {tx : Tx} {output : Unit}

section Kept

variable (attainable : Attainable api ledger)
include attainable

/-- Balances change hands among known addresses only. -/
theorem Attainable.holders_move {source recipient : Addr} {amount : Nat} (valid : api.Accepts recipient)
    {account : Addr} (holds : (move ledger.balance source recipient amount) account ≠ 0) :
    api.Accepts account := by
  by_cases own : account = recipient
  · rw [own]
    exact valid
  · rw [move_apply, if_neg own, Nat.add_zero] at holds
    exact attainable.holders account fun nothing => holds (by omega)

/-- A known spender's allowance within a word may be written. -/
theorem Attainable.setAllowance (owner spender : Addr) {amount : Nat} (small : amount < 2 ^ 128)
    (valid : amount ≠ 0 → api.Accepts spender) :
    (∀ first second, ledger.setAllowance owner spender amount first second < 2 ^ 128) ∧
      {pair : Addr × Addr | ledger.setAllowance owner spender amount pair.1 pair.2 ≠ 0}.Finite ∧
      ∀ first second, ledger.setAllowance owner spender amount first second ≠ 0 → api.Accepts second := by
  unfold Ledger.setAllowance
  refine ⟨?_, (attainable.finite.insert (owner, spender)).subset ?_, ?_⟩
  · intro first second
    split
    next => exact small
    next => exact attainable.allowances first second
  · rintro ⟨first, second⟩ nonzero
    by_cases same : first = owner ∧ second = spender
    · exact Or.inl (Prod.ext same.1 same.2)
    · change (if first = owner ∧ second = spender then amount else ledger.allowance first second) ≠ 0 at nonzero
      rw [if_neg same] at nonzero
      exact Or.inr nonzero
  · intro first second nonzero
    by_cases same : first = owner ∧ second = spender
    · rw [if_pos same] at nonzero
      rw [same.2]
      exact valid nonzero
    · rw [if_neg same] at nonzero
      exact attainable.spenders first second nonzero

theorem Attainable.step (decided : (ledgerMachine api).exec ledger tx = .ok (last, output)) :
    Attainable api last := by
  obtain ⟨⟨addressed, fits, permitted⟩, rfl⟩ := ledgerMachine_eq_ok.mp decided
  have conserved := Ledger.apply_conserved attainable.conserved permitted
  obtain ⟨sender, msg⟩ := tx
  cases msg with
  | transfer recipient amount =>
    exact ⟨conserved, attainable.supply, attainable.allowances, attainable.finite,
      fun _ holds => attainable.holders_move addressed holds, attainable.spenders, attainable.minters⟩
  | burn amount =>
    refine ⟨conserved, (Nat.sub_le _ _).trans_lt attainable.supply, attainable.allowances, attainable.finite,
      ?_, attainable.spenders, attainable.minters⟩
    intro account holds
    change (ledger.balance - Finsupp.single sender amount.toNat) account ≠ 0 at holds
    rw [debit_apply] at holds
    exact attainable.holders account fun nothing => holds (by omega)
  | mint recipient amount =>
    refine ⟨conserved, fits, attainable.allowances, attainable.finite, ?_, attainable.spenders,
      attainable.minters⟩
    intro account holds
    change (ledger.balance + Finsupp.single (Addr.mk recipient) amount.toNat) account ≠ 0 at holds
    by_cases own : account = ⟨recipient⟩
    · rw [own]
      exact addressed
    · rw [credit_apply, if_neg own, Nat.add_zero] at holds
      exact attainable.holders account holds
  | approve spender amount =>
    obtain ⟨small, finite, valid⟩ := attainable.setAllowance sender ⟨spender⟩ amount.fits fun _ => addressed
    exact ⟨conserved, attainable.supply, small, finite, attainable.holders, valid, attainable.minters⟩
  | transferFrom owner recipient amount =>
    have bounded : ledger.allowance ⟨owner⟩ sender - amount.toNat < 2 ^ 128 :=
      (Nat.sub_le _ _).trans_lt (attainable.allowances ⟨owner⟩ sender)
    obtain ⟨small, finite, valid⟩ := attainable.setAllowance ⟨owner⟩ sender bounded
      fun left => attainable.spenders ⟨owner⟩ sender fun nothing => left (by omega)
    exact ⟨conserved, attainable.supply, small, finite,
      fun _ holds => attainable.holders_move addressed.2 holds, valid, attainable.minters⟩
  | updateMinter newMinter =>
    refine ⟨conserved, attainable.supply, attainable.allowances, attainable.finite, attainable.holders,
      attainable.spenders, ?_⟩
    intro minter named
    obtain ⟨text, asked, rfl⟩ := Option.map_eq_some_iff.mp named
    exact addressed text asked

theorem Attainable.run (txs : List Tx) : Attainable api ((ledgerMachine api).run ledger txs) := by
  refine Machine.run_invariant _ (motive := Attainable api) (fun _ => True) ?_ attainable fun _ _ => trivial
  exact fun before tx after output holds _ decided => holds.step decided

end Kept

/-- A permitted message that passes the host's checks, as the last of a run. -/
theorem ledgerMachine_run_snoc {start : Ledger Addr} {txs : List Tx} (tx : Tx)
    (arrived : (ledgerMachine api).run start txs = ledger) (addressed : tx.msg.Addressed api)
    (fits : tx.msg.Fits ledger.supply) (permitted : ledger.Permits (toEvent tx)) :
    (ledgerMachine api).run start (txs ++ [tx]) = ledger.apply (toEvent tx) := by
  have decided : (ledgerMachine api).exec ledger tx = .ok (ledger.apply (toEvent tx), ()) :=
    ledgerMachine_eq_ok.mpr ⟨⟨addressed, fits, permitted⟩, rfl⟩
  rw [Machine.run_snoc, arrived, Machine.deliver_ok _ decided]

section Histories

/-- A ledger nobody holds anything in. -/
def blank (minter : Option Addr) : Ledger Addr where
  balance := 0
  allowance := fun _ _ => 0
  supply := 0
  minter := minter

/-- A ledger in which only the minter has acted. -/
noncomputable def funded (owner : Addr) (balance : Addr →₀ Nat) : Ledger Addr where
  balance := balance
  allowance := fun _ _ => 0
  supply := balance.degree
  minter := some owner

/-- The minter gives everybody what they are to have, one mint each. -/
theorem mints_reach (owner : Addr) (balance : Addr →₀ Nat) (bounded : balance.degree < 2 ^ 128)
    (holders : ∀ account, balance account ≠ 0 → api.Accepts account) :
    ∃ txs, (ledgerMachine api).run (blank (some owner)) txs = funded owner balance := by
  induction balance using Finsupp.induction with
  | zero =>
    refine ⟨[], ?_⟩
    rw [funded, map_zero]
    rfl
  | single_add account amount rest absent positive ih =>
    rw [map_add, Finsupp.degree_single] at bounded
    have fits : amount < 2 ^ 128 := by omega
    have unheld : rest account = 0 := Finsupp.notMem_support_iff.mp absent
    have valid : api.Accepts account := by
      refine holders account ?_
      rw [Finsupp.add_apply, Finsupp.single_eq_same, unheld]
      exact positive
    obtain ⟨txs, arrived⟩ := ih (by omega) fun other holds => by
      refine holders other ?_
      rw [Finsupp.add_apply]
      omega
    have room : rest.degree + amount < 2 ^ 128 := by omega
    have minted := ledgerMachine_run_snoc ⟨owner, .mint account.text ⟨amount, fits⟩⟩ arrived valid room rfl
    refine ⟨_, minted.trans ?_⟩
    have supply : (Finsupp.single account amount + rest).degree = rest.degree + amount := by
      rw [map_add, Finsupp.degree_single, add_comm]
    change Ledger.mk (rest + Finsupp.single account amount) _ (rest.degree + amount) _ =
      Ledger.mk (Finsupp.single account amount + rest) _ (Finsupp.single account amount + rest).degree _
    rw [supply, add_comm rest]
    rfl

/-- Every owner approves what is to be approved, one message for each pair. -/
theorem approvals_reach (start : Ledger Addr) (wanted : Addr → Addr → Nat) (pairs : Finset (Addr × Addr))
    (bounded : ∀ owner spender, wanted owner spender < 2 ^ 128)
    (spenders : ∀ pair ∈ pairs, api.Accepts pair.2) :
    ∃ txs, (ledgerMachine api).run start txs =
      { start with
        allowance := fun owner spender =>
          if (owner, spender) ∈ pairs then wanted owner spender else start.allowance owner spender } := by
  classical
  induction pairs using Finset.induction_on with
  | empty => exact ⟨[], by simp⟩
  | insert pair rest new ih =>
    obtain ⟨txs, arrived⟩ := ih fun other member => spenders other (Finset.mem_insert_of_mem member)
    have approved := ledgerMachine_run_snoc
      ⟨pair.1, .approve pair.2.text ⟨wanted pair.1 pair.2, bounded pair.1 pair.2⟩⟩ arrived
      (spenders pair (Finset.mem_insert_self pair rest)) trivial trivial
    refine ⟨_, approved.trans ?_⟩
    refine congrArg (fun allowance => { start with allowance := allowance }) ?_
    funext first second
    change (if first = pair.1 ∧ second = pair.2 then wanted pair.1 pair.2
      else if (first, second) ∈ rest then wanted first second else start.allowance first second) = _
    by_cases same : (first, second) = pair
    · subst same
      rw [if_pos ⟨rfl, rfl⟩, if_pos (Finset.mem_insert_self _ rest)]
    · have other : ¬(first = pair.1 ∧ second = pair.2) := fun equal => same (Prod.ext equal.1 equal.2)
      rw [if_neg other]
      simp only [Finset.mem_insert, same, false_or]

/-- All that was approved, as one run. -/
theorem Attainable.approvals (attainable : Attainable api ledger) (start : Ledger Addr)
    (none : ∀ owner spender, start.allowance owner spender = 0) :
    ∃ txs, (ledgerMachine api).run start txs = { start with allowance := ledger.allowance } := by
  have wanted : ∀ pair ∈ attainable.finite.toFinset, api.Accepts pair.2 := by
    intro pair member
    exact attainable.spenders pair.1 pair.2 (attainable.finite.mem_toFinset.mp member)
  obtain ⟨txs, arrived⟩ := approvals_reach start ledger.allowance attainable.finite.toFinset
    attainable.allowances wanted
  refine ⟨txs, arrived.trans (congrArg (fun allowance => { start with allowance := allowance }) ?_)⟩
  funext first second
  by_cases given : ledger.allowance first second = 0
  · rw [none, given, ite_self]
  · exact if_pos (attainable.finite.mem_toFinset.mpr given)

theorem blank_attainable {minter : Option Addr} (known : ∀ addr, minter = some addr → api.Accepts addr) :
    Attainable api (blank minter) where
  conserved := map_zero _
  supply := Nat.two_pow_pos 128
  allowances := fun _ _ => Nat.two_pow_pos 128
  finite := Set.finite_empty.subset fun _ nonzero => nonzero rfl
  holders := fun _ nonzero => (nonzero rfl).elim
  spenders := fun _ _ nonzero => (nonzero rfl).elim
  minters := known

/-- From the blank ledger of a minter, any ledger that is attainable. -/
theorem Attainable.reached (attainable : Attainable api ledger) (owner : Addr) :
    ∃ txs, (ledgerMachine api).run (blank (some owner)) txs = ledger := by
  have conserved : ledger.balance.degree = ledger.supply := attainable.conserved
  obtain ⟨mints, minted⟩ := mints_reach owner ledger.balance (conserved ▸ attainable.supply) attainable.holders
  obtain ⟨approvals, approved⟩ := attainable.approvals (funded owner ledger.balance) fun _ _ => rfl
  have both : (ledgerMachine api).run (blank (some owner)) (mints ++ approvals) =
      { funded owner ledger.balance with allowance := ledger.allowance } := by
    rw [Machine.run_append, minted, approved]
  have known : ∀ text, ledger.minter.map Addr.text = some text → api.Accepts ⟨text⟩ := by
    intro text named
    obtain ⟨minter, same, rfl⟩ := Option.map_eq_some_iff.mp named
    exact attainable.minters minter same
  have passed := ledgerMachine_run_snoc ⟨owner, .updateMinter (ledger.minter.map Addr.text)⟩ both known
    trivial rfl
  refine ⟨_, passed.trans ?_⟩
  have minter : (ledger.minter.map Addr.text).map Addr.mk = ledger.minter := by
    rw [Option.map_map]
    exact congrFun Option.map_id _
  change Ledger.mk ledger.balance ledger.allowance ledger.balance.degree ((ledger.minter.map Addr.text).map Addr.mk) = _
  rw [minter, conserved]

/-- Without a minter, any allowances over balances of nothing. -/
theorem Attainable.reached_unminted (attainable : Attainable api ledger) (minter : ledger.minter = none)
    (supply : ledger.supply = 0) : ∃ txs, (ledgerMachine api).run (blank none) txs = ledger := by
  obtain ⟨approvals, approved⟩ := attainable.approvals (blank none) fun _ _ => rfl
  have nothing : ledger.balance = 0 := by
    have conserved : ledger.balance.degree = ledger.supply := attainable.conserved
    rw [supply] at conserved
    exact Finsupp.degree_eq_zero_iff _ |>.mp conserved
  refine ⟨approvals, approved.trans ?_⟩
  cases ledger
  cases minter
  cases supply
  cases nothing
  rfl

end Histories

theorem instantiate_minter {msg : InstantiateMsg} {first : Storage} {response : Response}
    (made : instantiate api msg = .ok (first, response)) :
    ∀ addr, msg.minter.map Addr.mk = some addr → api.Accepts addr := by
  obtain ⟨minter, valid, _⟩ := bind_eq_ok.mp made
  intro addr named
  obtain ⟨text, asked, rfl⟩ := Option.map_eq_some_iff.mp named
  exact validateMinter_known (into_eq_ok.mp valid) text asked

/-- The token reaches exactly the attainable ledgers. Whatever the balances, provided they add
up to a supply of 128 bits and are held at known addresses, whatever the allowances to known
spenders and whoever is minter, some history from the instantiation ends there, and every
history ends so. A token made without a minter has no supply ever, and never a minter. -/
theorem reachable_exactly (api : Api) (msg : InstantiateMsg) (first : Storage) (response : Response)
    (made : instantiate api msg = .ok (first, response)) (ledger : Ledger Addr) :
    (∃ txs, view ((machine api).run first txs) = ledger) ↔
      Attainable api ledger ∧ (msg.minter = none → ledger.minter = none ∧ ledger.supply = 0) := by
  have genesis : view first = blank (msg.minter.map Addr.mk) := instantiate_view made
  have simulated : ∀ txs, view ((machine api).run first txs) =
      (ledgerMachine api).run (blank (msg.minter.map Addr.mk)) txs := by
    intro txs
    rw [← genesis]
    exact (run_decides api (instantiate_conserved made) txs).2.symm
  constructor
  · rintro ⟨txs, rfl⟩
    constructor
    · rw [simulated]
      exact (blank_attainable (instantiate_minter made)).run txs
    · intro unminted
      have nobody : first.tokenInfo.minter = none := by
        have minter := congrArg Ledger.minter genesis
        rw [unminted] at minter
        exact minter
      obtain ⟨gone, unissued⟩ := run_renounced api nobody txs
      have supply := run_supply api (instantiate_conserved made) txs
      have nothing : first.tokenInfo.totalSupply.toNat = 0 := congrArg Ledger.supply genesis
      have none : ((machine api).run first txs).tokenInfo.totalSupply.toNat = 0 := by omega
      exact ⟨gone, none⟩
  · rintro ⟨attainable, unminted⟩
    simp only [simulated]
    cases named : msg.minter with
    | none =>
      obtain ⟨minter, supply⟩ := unminted named
      exact attainable.reached_unminted minter supply
    | some text => exact attainable.reached ⟨text⟩

/-- The whole of the largest supply in one account, an allowance of somebody who holds nothing,
and no minter. -/
noncomputable def lopsided : Ledger Addr where
  balance := Finsupp.single ⟨"user1"⟩ (2 ^ 128 - 1)
  allowance := fun owner spender => if owner = ⟨"user2"⟩ ∧ spender = ⟨"user1"⟩ then 7 else 0
  supply := 2 ^ 128 - 1
  minter := none

theorem reachable_exactly_lopsided : ∃ txs, view ((machine Api.accepting).run testToken txs) = lopsided := by
  refine (reachable_exactly Api.accepting testMsg testToken (Response.new.addAttribute "action" "instatiate")
    rfl lopsided).mpr ⟨?_, fun unminted => by cases unminted⟩
  refine ⟨Finsupp.degree_single _ _, by decide, ?_, ?_, fun _ _ => rfl, fun _ _ _ => rfl, fun _ _ => rfl⟩
  · intro owner spender
    change (if owner = ⟨"user2"⟩ ∧ spender = ⟨"user1"⟩ then 7 else 0) < 2 ^ 128
    split
    next => decide
    next => decide
  · refine (Set.finite_singleton (⟨"user2"⟩, ⟨"user1"⟩)).subset ?_
    rintro ⟨owner, spender⟩ nonzero
    by_contra other
    exact nonzero (if_neg fun same => other (Prod.ext same.1 same.2))

end CosmwasmContracts.Cw20Token
