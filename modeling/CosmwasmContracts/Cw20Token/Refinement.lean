import CosmwasmContracts.Cw20Token.Contract
import CosmwasmContracts.Library.TokenLedger

/-! The `cw20-token` contract refines the abstract token ledger: every message that
succeeds is one permitted ledger event, and where the books balance the word sizes
refuse nothing but a mint. -/

namespace CosmwasmContracts.Cw20Token
open Library.CheckedWord Library.FiniteMap Library.TransactionMachine Library.TokenLedger CosmwasmStd

noncomputable def funds (balances : Map Addr Uint128) : Addr →₀ Nat :=
  Map.weights Word.toNat balances

/-- What a storage says as a ledger; entries never written read as zero. -/
noncomputable def view (storage : Storage) : Ledger Addr where
  balance := funds storage.balances
  allowance := fun owner spender => Map.value Word.toNat storage.allowances (owner, spender)
  supply := storage.tokenInfo.totalSupply.toNat
  minter := storage.tokenInfo.minter

/-- The event a message stands for, its addresses taken as given. -/
def toEvent (tx : Tx) : Event Addr :=
  match tx.msg with
  | .transfer recipient amount => .transfer tx.sender ⟨recipient⟩ amount.toNat
  | .burn amount => .burn tx.sender amount.toNat
  | .mint recipient amount => .mint tx.sender ⟨recipient⟩ amount.toNat
  | .approve spender amount => .approve tx.sender ⟨spender⟩ amount.toNat
  | .transferFrom owner recipient amount =>
      .transferFrom tx.sender ⟨owner⟩ ⟨recipient⟩ amount.toNat
  | .updateMinter newMinter => .setMinter tx.sender (newMinter.map Addr.mk)

section Balances

theorem debit_ok {balances next : Map Addr Uint128} {source : Addr} {amount : Uint128}
    (success : update balances source (debit amount) = .ok next) :
    amount.toNat ≤ funds balances source ∧
      funds next = funds balances - Finsupp.single source amount.toNat := by
  obtain ⟨value, taken, rfl⟩ := update_eq_ok.mp success
  rw [debit, okOr_eq_ok, Word.checkedSub_eq_some, unwrapOrDefault_toNat] at taken
  refine ⟨?_, ?_⟩
  · change amount.toNat ≤ Map.value Word.toNat balances source
    omega
  · ext account
    rw [debit_apply]
    change Map.value Word.toNat (balances.save source value) account =
      Map.value Word.toNat balances account - _
    rw [Map.value_save]
    by_cases same : account = source
    · subst account
      rw [if_pos rfl, if_pos rfl]
      omega
    · rw [if_neg same, if_neg same, Nat.sub_zero]

theorem debit_succeeds {balances : Map Addr Uint128} {source : Addr} {amount : Uint128}
    (covered : amount.toNat ≤ funds balances source) :
    ∃ next, update balances source (debit amount) = .ok next := by
  change amount.toNat ≤ Map.value Word.toNat balances source at covered
  rw [← unwrapOrDefault_toNat] at covered
  obtain ⟨value, taken⟩ := Word.checkedSub_of_le covered
  exact ⟨_, update_eq_ok.mpr ⟨value, okOr_eq_ok.mpr taken, rfl⟩⟩

theorem credit_ok {balances next : Map Addr Uint128} {recipient : Addr} {amount : Uint128}
    (success : update balances recipient (credit amount) = .ok next) :
    funds next = funds balances + Finsupp.single recipient amount.toNat := by
  obtain ⟨value, given, rfl⟩ := update_eq_ok.mp success
  rw [credit, unwrap_eq_ok, Word.checkedAdd_eq_some, unwrapOrDefault_toNat] at given
  ext account
  rw [credit_apply]
  change Map.value Word.toNat (balances.save recipient value) account =
    Map.value Word.toNat balances account + _
  rw [Map.value_save]
  by_cases same : account = recipient
  · subst account
    rw [if_pos rfl, if_pos rfl]
    exact given
  · rw [if_neg same, if_neg same, Nat.add_zero]

theorem credit_succeeds {balances : Map Addr Uint128} {recipient : Addr} {amount : Uint128}
    (fits : funds balances recipient + amount.toNat < 2 ^ 128) :
    ∃ next, update balances recipient (credit amount) = .ok next := by
  change Map.value Word.toNat balances recipient + amount.toNat < 2 ^ 128 at fits
  rw [← unwrapOrDefault_toNat] at fits
  exact ⟨_, update_eq_ok.mpr ⟨_, unwrap_eq_ok.mpr (Word.checkedAdd_of_lt fits), rfl⟩⟩

/-- A debit followed by a credit, as `Transfer` and `TransferFrom` make them. -/
theorem move_succeeds {balances : Map Addr Uint128} {source : Addr} (recipient : Addr)
    {amount : Uint128} (covered : amount.toNat ≤ funds balances source)
    (bounded : (funds balances).degree < 2 ^ 128) :
    ∃ debited credited, update balances source (debit amount) = .ok debited ∧
      update debited recipient (credit amount) = .ok credited := by
  obtain ⟨debited, taken⟩ := debit_succeeds covered
  have left := (debit_ok taken).2
  have room : funds debited recipient + amount.toNat < 2 ^ 128 := by
    have parts := debit_degree (funds balances) source amount.toNat covered
    have part := Finsupp.le_degree recipient (funds debited)
    rw [← left] at parts
    omega
  obtain ⟨credited, given⟩ := credit_succeeds room
  exact ⟨debited, credited, taken, given⟩

end Balances

/-- What every message leaves alone: it asks nothing of other contracts, and the token's
name, symbol and decimals are for ever. -/
structure Quiet (storage next : Storage) (response : Response) : Prop where
  messages : response.messages = []
  details : next.tokenInfo =
    { storage.tokenInfo with
      totalSupply := next.tokenInfo.totalSupply,
      minter := next.tokenInfo.minter }

section Messages

variable {api : Api} {storage next : Storage} {info : MessageInfo} {response : Response}

theorem allowance_save (owner spender : Addr) (amount : Uint128) :
    (fun first second => Map.value Word.toNat
      (storage.allowances.save (owner, spender) amount) (first, second)) =
      (view storage).setAllowance owner spender amount.toNat := by
  funext first second
  rw [Map.value_save, Ledger.setAllowance]
  by_cases same : first = owner ∧ second = spender
  · rw [if_pos same, if_pos (Prod.ext same.1 same.2)]
  · rw [if_neg same, if_neg (fun equal => same (Prod.mk.inj equal))]
    rfl

theorem executeTranfer_ok {recipient : String} {amount : Uint128}
    (success : executeTranfer api storage info recipient amount = .ok (next, response)) :
    api.addrValidate recipient = .ok ⟨recipient⟩ ∧
      amount.toNat ≤ (view storage).balance info.sender ∧
      view next = (view storage).apply (.transfer info.sender ⟨recipient⟩ amount.toNat) ∧
      Quiet storage next response := by
  unfold executeTranfer at success
  obtain ⟨rcpt, valid, success⟩ := bind_eq_ok.mp success
  obtain ⟨debited, taken, success⟩ := bind_eq_ok.mp success
  obtain ⟨credited, given, success⟩ := bind_eq_ok.mp success
  rw [into_eq_ok] at valid taken given
  cases success
  obtain rfl := api.given _ _ valid
  obtain ⟨covered, left⟩ := debit_ok taken
  refine ⟨valid, covered, ?_, rfl, rfl⟩
  change Ledger.mk (funds credited) _ _ _ = Ledger.mk (move _ _ _ _) _ _ _
  rw [credit_ok given, left]
  rfl

theorem executeBurn_ok {amount : Uint128}
    (success : executeBurn storage info amount = .ok (next, response)) :
    amount.toNat ≤ (view storage).balance info.sender ∧
      view next = (view storage).apply (.burn info.sender amount.toNat) ∧
      Quiet storage next response := by
  unfold executeBurn at success
  obtain ⟨debited, taken, success⟩ := bind_eq_ok.mp success
  obtain ⟨supply, remains, success⟩ := bind_eq_ok.mp success
  rw [into_eq_ok] at taken remains
  rw [okOr_eq_ok, Word.checkedSub_eq_some] at remains
  cases success
  obtain ⟨covered, left⟩ := debit_ok taken
  refine ⟨covered, ?_, rfl, rfl⟩
  have supplyLeft : supply.toNat = storage.tokenInfo.totalSupply.toNat - amount.toNat := by omega
  change Ledger.mk (funds debited) _ supply.toNat _ = Ledger.mk _ _ _ _
  rw [left, supplyLeft]
  rfl

theorem executeMint_ok {recipient : String} {amount : Uint128}
    (success : executeMint api storage info recipient amount = .ok (next, response)) :
    api.addrValidate recipient = .ok ⟨recipient⟩ ∧
      (view storage).minter = some info.sender ∧
      view next = (view storage).apply (.mint info.sender ⟨recipient⟩ amount.toNat) ∧
      Quiet storage next response := by
  unfold executeMint at success
  rw [guard_eq_ok] at success
  obtain ⟨authority, success⟩ := success
  obtain ⟨rcpt, valid, success⟩ := bind_eq_ok.mp success
  obtain ⟨credited, given, success⟩ := bind_eq_ok.mp success
  obtain ⟨supply, grown, success⟩ := bind_eq_ok.mp success
  rw [into_eq_ok] at valid given
  rw [unwrap_eq_ok, Word.checkedAdd_eq_some] at grown
  cases success
  obtain rfl := api.given _ _ valid
  refine ⟨valid, not_not.mp authority, ?_, rfl, rfl⟩
  change Ledger.mk (funds credited) _ supply.toNat _ = Ledger.mk _ _ _ _
  rw [credit_ok given, grown]
  rfl

theorem executeApprove_ok {spender : String} {amount : Uint128}
    (success : executeApprove api storage info spender amount = .ok (next, response)) :
    api.addrValidate spender = .ok ⟨spender⟩ ∧
      view next = (view storage).apply (.approve info.sender ⟨spender⟩ amount.toNat) ∧
      Quiet storage next response := by
  unfold executeApprove at success
  obtain ⟨addr, valid, success⟩ := bind_eq_ok.mp success
  rw [into_eq_ok] at valid
  cases success
  obtain rfl := api.given _ _ valid
  refine ⟨valid, ?_, rfl, rfl⟩
  change Ledger.mk _ (fun first second => Map.value Word.toNat _ (first, second)) _ _ =
    Ledger.mk _ _ _ _
  rw [allowance_save]
  rfl

theorem executeTranferFrom_ok {owner recipient : String} {amount : Uint128}
    (success : executeTranferFrom api storage info owner recipient amount = .ok (next, response)) :
    api.addrValidate owner = .ok ⟨owner⟩ ∧
      api.addrValidate recipient = .ok ⟨recipient⟩ ∧
      amount.toNat ≤ (view storage).allowance ⟨owner⟩ info.sender ∧
      amount.toNat ≤ (view storage).balance ⟨owner⟩ ∧
      view next = (view storage).apply
        (.transferFrom info.sender ⟨owner⟩ ⟨recipient⟩ amount.toNat) ∧
      Quiet storage next response := by
  unfold executeTranferFrom at success
  obtain ⟨ownerAddr, ownerValid, success⟩ := bind_eq_ok.mp success
  obtain ⟨rcptAddr, rcptValid, success⟩ := bind_eq_ok.mp success
  rw [into_eq_ok] at ownerValid rcptValid
  obtain rfl := api.given _ _ ownerValid
  obtain rfl := api.given _ _ rcptValid
  rw [guard_eq_ok, unwrapOrDefault_toNat] at success
  obtain ⟨allowed, success⟩ := success
  obtain ⟨remaining, spent, success⟩ := bind_eq_ok.mp success
  obtain ⟨debited, taken, success⟩ := bind_eq_ok.mp success
  obtain ⟨credited, given, success⟩ := bind_eq_ok.mp success
  rw [unwrap_eq_ok, Word.checkedSub_eq_some, unwrapOrDefault_toNat] at spent
  rw [into_eq_ok] at taken given
  cases success
  obtain ⟨covered, left⟩ := debit_ok taken
  refine ⟨ownerValid, rcptValid, Nat.not_lt.mp allowed, covered, ?_, rfl, rfl⟩
  have rest : remaining.toNat =
      (view storage).allowance ⟨owner⟩ info.sender - amount.toNat :=
    Nat.eq_sub_of_add_eq spent
  change Ledger.mk (funds credited)
    (fun first second => Map.value Word.toNat _ (first, second)) _ _ = Ledger.mk (move _ _ _ _) _ _ _
  rw [credit_ok given, left, allowance_save, rest]
  rfl

theorem validateMinter_ok {newMinter : Option String} {minter : Option Addr}
    (success : validateMinter api newMinter = .ok minter) : minter = newMinter.map Addr.mk := by
  cases newMinter with
  | none =>
    cases success
    rfl
  | some text =>
    obtain ⟨addr, valid, success⟩ := bind_eq_ok.mp success
    cases success
    rw [api.given _ _ valid]
    rfl

theorem executeUpdateMinter_ok {newMinter : Option String}
    (success : executeUpdateMinter api storage info newMinter = .ok (next, response)) :
    (view storage).minter = some info.sender ∧
      view next = (view storage).apply (.setMinter info.sender (newMinter.map Addr.mk)) ∧
      Quiet storage next response := by
  unfold executeUpdateMinter at success
  rw [guard_eq_ok] at success
  obtain ⟨authority, success⟩ := success
  obtain ⟨minter, valid, success⟩ := bind_eq_ok.mp success
  rw [into_eq_ok] at valid
  cases success
  refine ⟨not_not.mp authority, ?_, rfl, rfl⟩
  rw [← validateMinter_ok valid]
  rfl

end Messages

variable {api : Api}

/-- One successful message is one permitted event of the ledger it shows. -/
theorem execute_refines {storage next : Storage} {tx : Tx} {response : Response}
    (success : (machine api).exec storage tx = .ok (next, response)) :
    (view storage).Permits (toEvent tx) ∧ view next = (view storage).apply (toEvent tx) := by
  obtain ⟨sender, msg⟩ := tx
  cases msg with
  | transfer recipient amount =>
    obtain ⟨_, covered, effect, _⟩ := executeTranfer_ok success
    exact ⟨covered, effect⟩
  | burn amount =>
    obtain ⟨covered, effect, _⟩ := executeBurn_ok success
    exact ⟨covered, effect⟩
  | mint recipient amount =>
    obtain ⟨_, authority, effect, _⟩ := executeMint_ok success
    exact ⟨authority, effect⟩
  | approve spender amount =>
    obtain ⟨_, effect, _⟩ := executeApprove_ok success
    exact ⟨trivial, effect⟩
  | transferFrom owner recipient amount =>
    obtain ⟨_, _, allowed, covered, effect, _⟩ := executeTranferFrom_ok success
    exact ⟨⟨allowed, covered⟩, effect⟩
  | updateMinter newMinter =>
    obtain ⟨authority, effect, _⟩ := executeUpdateMinter_ok success
    exact ⟨authority, effect⟩

theorem execute_quiet {storage next : Storage} {tx : Tx} {response : Response}
    (success : (machine api).exec storage tx = .ok (next, response)) : Quiet storage next response := by
  obtain ⟨sender, msg⟩ := tx
  cases msg with
  | transfer recipient amount => exact (executeTranfer_ok success).2.2.2
  | burn amount => exact (executeBurn_ok success).2.2
  | mint recipient amount => exact (executeMint_ok success).2.2.2
  | approve spender amount => exact (executeApprove_ok success).2.2
  | transferFrom owner recipient amount => exact (executeTranferFrom_ok success).2.2.2.2.2
  | updateMinter newMinter => exact (executeUpdateMinter_ok success).2.2

/-- The token machine carried by the ledger machine, message by message. -/
noncomputable def refinement (api : Api) :
    Simulation (machine api) (Ledger.machine : Machine (Ledger Addr) (Event Addr) Unit Unit) where
  view := view
  replay := fun _ tx _ => [toEvent tx]
  commits := by
    intro storage tx next response success
    obtain ⟨permitted, effect⟩ := execute_refines success
    rw [Machine.run_cons, Machine.run_nil, effect]
    exact Machine.deliver_ok _ (Ledger.exec_permitted permitted)

/-- Where the books balance, no account holds more than the supply's word. -/
theorem degree_bounded {storage : Storage} (conserved : (view storage).Conserved) :
    (funds storage.balances).degree < 2 ^ 128 := by
  change (funds storage.balances).degree = storage.tokenInfo.totalSupply.toNat at conserved
  rw [conserved]
  exact storage.tokenInfo.totalSupply.fits

section Success

variable {storage : Storage} {info : MessageInfo} {recipient : String} {amount : Uint128}

theorem executeTranfer_succeeds (conserved : (view storage).Conserved)
    (valid : api.addrValidate recipient = .ok ⟨recipient⟩)
    (covered : amount.toNat ≤ (view storage).balance info.sender) :
    ∃ next response, executeTranfer api storage info recipient amount = .ok (next, response) := by
  obtain ⟨debited, credited, taken, given⟩ :=
    move_succeeds (⟨recipient⟩ : Addr) covered (degree_bounded conserved)
  unfold executeTranfer
  simp only [valid, taken, given, into, bind, Except.bind, pure, Except.pure]
  exact ⟨_, _, rfl⟩

theorem executeMint_succeeds (conserved : (view storage).Conserved)
    (valid : api.addrValidate recipient = .ok ⟨recipient⟩)
    (authority : (view storage).minter = some info.sender)
    (room : (view storage).supply + amount.toNat < 2 ^ 128) :
    ∃ next response, executeMint api storage info recipient amount = .ok (next, response) := by
  have part : funds storage.balances ⟨recipient⟩ ≤ (view storage).supply :=
    (Finsupp.le_degree _ _).trans conserved.le
  have space : funds storage.balances ⟨recipient⟩ + amount.toNat < 2 ^ 128 := by omega
  obtain ⟨credited, given⟩ := credit_succeeds space
  have grown := Word.checkedAdd_of_lt room
  change storage.tokenInfo.minter = some info.sender at authority
  unfold executeMint
  rw [if_neg (not_not.mpr authority)]
  simp only [valid, given, grown, into, unwrap, bind, Except.bind, pure, Except.pure]
  exact ⟨_, _, rfl⟩

theorem executeTranferFrom_succeeds {owner : String} (conserved : (view storage).Conserved)
    (ownerValid : api.addrValidate owner = .ok ⟨owner⟩)
    (rcptValid : api.addrValidate recipient = .ok ⟨recipient⟩)
    (allowed : amount.toNat ≤ (view storage).allowance ⟨owner⟩ info.sender)
    (covered : amount.toNat ≤ (view storage).balance ⟨owner⟩) :
    ∃ next response,
      executeTranferFrom api storage info owner recipient amount = .ok (next, response) := by
  obtain ⟨debited, credited, taken, given⟩ :=
    move_succeeds (⟨recipient⟩ : Addr) covered (degree_bounded conserved)
  change amount.toNat ≤ Map.value Word.toNat storage.allowances (⟨owner⟩, info.sender) at allowed
  rw [← unwrapOrDefault_toNat] at allowed
  obtain ⟨remaining, spent⟩ := Word.checkedSub_of_le allowed
  unfold executeTranferFrom
  simp only [ownerValid, rcptValid, into, bind, Except.bind, if_neg (Nat.not_lt.mpr allowed),
    spent, unwrap, taken, given, pure, Except.pure]
  exact ⟨_, _, rfl⟩

end Success

/-- A weight on events is a weight on the messages that stand for them. -/
theorem tally_refines {weigh : Storage → Tx → Response → Nat}
    {weigh' : Ledger Addr → Event Addr → Unit → Nat}
    (same : ∀ storage tx response, weigh' (view storage) (toEvent tx) () = weigh storage tx response)
    (storage : Storage) (txs : List Tx) :
    Ledger.machine.tally weigh' (view storage) ((refinement api).history storage txs) =
      (machine api).tally weigh storage txs := by
  apply (refinement api).tally_history
  intro before tx next response success
  obtain ⟨permitted, _⟩ := execute_refines success
  change Ledger.machine.tally weigh' (view before) [toEvent tx] = _
  rw [Machine.tally_single_ok _ _ (Ledger.exec_permitted permitted)]
  exact same before tx response

end CosmwasmContracts.Cw20Token
