import CosmwasmContracts.Cw20Token.Outcomes
import CosmwasmContracts.Library.Lockstep

/-! The token beside the ledger it stands for, in both directions. What the host adds to the
ledger's own guards is that it knows the addresses and keeps the supply in a word; with
these two checks the ledger decides every message as the contract does. -/

namespace CosmwasmContracts.Cw20Token
open Library.CheckedWord Library.FiniteMap Library.TransactionMachine Library.TokenLedger Library.Lockstep
open CosmwasmStd

/-- Every address that a message names is known to the host. -/
def ExecuteMsg.Addressed (api : Api) : ExecuteMsg → Prop
  | .transfer recipient _ => api.Accepts ⟨recipient⟩
  | .burn _ => True
  | .mint recipient _ => api.Accepts ⟨recipient⟩
  | .approve spender _ => api.Accepts ⟨spender⟩
  | .transferFrom owner recipient _ => api.Accepts ⟨owner⟩ ∧ api.Accepts ⟨recipient⟩
  | .updateMinter newMinter => ∀ text, newMinter = some text → api.Accepts ⟨text⟩

/-- A mint leaves the supply within 128 bits. -/
def ExecuteMsg.Fits (supply : Nat) : ExecuteMsg → Prop
  | .mint _ amount => supply + amount.toNat < 2 ^ 128
  | _ => True

open Classical in
/-- The ledger with the host's two checks. Its balances are numbers without a bound, and it
knows nothing of words, of stored entries or of the order of reads and writes. -/
noncomputable def ledgerMachine (api : Api) : Machine (Ledger Addr) Tx Unit Unit where
  exec ledger tx :=
    if tx.msg.Addressed api ∧ tx.msg.Fits ledger.supply ∧ ledger.Permits (toEvent tx) then
      .ok (ledger.apply (toEvent tx), ())
    else .error ()

section Message

variable {api : Api} {storage next : Storage} {tx : Tx} {response : Response}

theorem ledgerMachine_eq_ok {ledger last : Ledger Addr} {output : Unit} :
    (ledgerMachine api).exec ledger tx = .ok (last, output) ↔
      (tx.msg.Addressed api ∧ tx.msg.Fits ledger.supply ∧ ledger.Permits (toEvent tx)) ∧
        last = ledger.apply (toEvent tx) := by
  constructor
  · intro decided
    by_cases permitted : tx.msg.Addressed api ∧ tx.msg.Fits ledger.supply ∧ ledger.Permits (toEvent tx)
    · simp only [ledgerMachine, if_pos permitted] at decided
      cases decided
      exact ⟨permitted, rfl⟩
    · simp only [ledgerMachine, if_neg permitted] at decided
      cases decided
  · rintro ⟨permitted, rfl⟩
    simp only [ledgerMachine, if_pos permitted]

theorem validateMinter_succeeds {newMinter : Option String}
    (known : ∀ text, newMinter = some text → api.Accepts ⟨text⟩) :
    validateMinter api newMinter = .ok (newMinter.map Addr.mk) := by
  cases newMinter with
  | none => rfl
  | some text => exact bind_eq_ok.mpr ⟨⟨text⟩, known text rfl, rfl⟩

theorem validateMinter_known {newMinter : Option String} {minter : Option Addr}
    (valid : validateMinter api newMinter = .ok minter) :
    ∀ text, newMinter = some text → api.Accepts ⟨text⟩ := by
  rintro text rfl
  obtain ⟨addr, known, _⟩ := bind_eq_ok.mp valid
  obtain rfl := api.given _ _ known
  exact known

/-- A message that goes through passes both of the host's checks. -/
theorem execute_checked (success : (machine api).exec storage tx = .ok (next, response)) :
    tx.msg.Addressed api ∧ tx.msg.Fits storage.tokenInfo.totalSupply.toNat := by
  obtain ⟨sender, msg⟩ := tx
  cases msg with
  | transfer recipient amount => exact ⟨(executeTranfer_ok success).1, trivial⟩
  | burn amount => exact ⟨trivial, trivial⟩
  | mint recipient amount =>
    obtain ⟨valid, _, effect, _⟩ := executeMint_ok success
    have grown : next.tokenInfo.totalSupply.toNat =
        storage.tokenInfo.totalSupply.toNat + amount.toNat := congrArg Ledger.supply effect
    refine ⟨valid, ?_⟩
    change storage.tokenInfo.totalSupply.toNat + amount.toNat < 2 ^ 128
    rw [← grown]
    exact next.tokenInfo.totalSupply.fits
  | approve spender amount => exact ⟨(executeApprove_ok success).1, trivial⟩
  | transferFrom owner recipient amount =>
    obtain ⟨ownerValid, rcptValid, _⟩ := executeTranferFrom_ok success
    exact ⟨⟨ownerValid, rcptValid⟩, trivial⟩
  | updateMinter newMinter =>
    obtain ⟨_, success⟩ := guard_eq_ok.mp success
    obtain ⟨minter, valid, _⟩ := bind_eq_ok.mp success
    exact ⟨validateMinter_known (into_eq_ok.mp valid), trivial⟩

/-- Where the books balance, a permitted message that passes both checks goes through. -/
theorem execute_succeeds (conserved : (view storage).Conserved) (addressed : tx.msg.Addressed api)
    (fits : tx.msg.Fits storage.tokenInfo.totalSupply.toNat)
    (permitted : (view storage).Permits (toEvent tx)) : (machine api).Commits storage tx := by
  obtain ⟨sender, msg⟩ := tx
  cases msg with
  | transfer recipient amount => exact executeTranfer_succeeds conserved addressed permitted
  | burn amount => exact executeBurn_succeeds conserved permitted
  | mint recipient amount => exact executeMint_succeeds conserved addressed permitted fits
  | approve spender amount =>
    exact ⟨_, _, bind_eq_ok.mpr ⟨⟨spender⟩, into_eq_ok.mpr addressed, rfl⟩⟩
  | transferFrom owner recipient amount =>
    exact executeTranferFrom_succeeds conserved addressed.1 addressed.2 permitted.1 permitted.2
  | updateMinter newMinter =>
    have valid : into ContractError.std (validateMinter api newMinter) = .ok (newMinter.map Addr.mk) :=
      into_eq_ok.mpr (validateMinter_succeeds addressed)
    exact ⟨_, _, guard_eq_ok.mpr ⟨not_not.mpr permitted, bind_eq_ok.mpr ⟨_, valid, rfl⟩⟩⟩

/-- Where the books balance, contract and ledger decide a message alike. -/
theorem commits_iff_ledger (conserved : (view storage).Conserved) :
    (machine api).Commits storage tx ↔ (ledgerMachine api).Commits (view storage) tx := by
  constructor
  · rintro ⟨next, response, success⟩
    obtain ⟨addressed, fits⟩ := execute_checked success
    exact ⟨_, (), ledgerMachine_eq_ok.mpr ⟨⟨addressed, fits, (execute_refines success).1⟩, rfl⟩⟩
  · rintro ⟨last, output, decided⟩
    obtain ⟨⟨addressed, fits, permitted⟩, _⟩ := ledgerMachine_eq_ok.mp decided
    exact execute_succeeds conserved addressed fits permitted

end Message

/-- A storage with balanced books, read as a ledger. -/
structure ReadsAs (storage : Storage) (ledger : Ledger Addr) : Prop where
  same : ledger = view storage
  conserved : (view storage).Conserved

/-- A run of the token is a run of the ledger, the same messages let through. -/
theorem run_decides (api : Api) {start : Storage} (conserved : (view start).Conserved) (txs : List Tx) :
    decisions (machine api) start txs = decisions (ledgerMachine api) (view start) txs ∧
      (ledgerMachine api).run (view start) txs = view ((machine api).run start txs) := by
  have decided : ∀ storage ledger tx, ReadsAs storage ledger →
      ((machine api).Commits storage tx ↔ (ledgerMachine api).Commits ledger tx) := by
    rintro storage ledger tx ⟨rfl, balanced⟩
    exact commits_iff_ledger balanced
  have kept : ∀ storage ledger tx next response last output, ReadsAs storage ledger →
      (machine api).exec storage tx = .ok (next, response) →
        (ledgerMachine api).exec ledger tx = .ok (last, output) → ReadsAs next last := by
    rintro storage ledger tx next response last output ⟨rfl, balanced⟩ success decided
    obtain ⟨permitted, effect⟩ := execute_refines success
    obtain ⟨_, rfl⟩ := ledgerMachine_eq_ok.mp decided
    exact ⟨effect.symm, effect ▸ Ledger.apply_conserved balanced permitted⟩
  obtain ⟨same, last⟩ := decisions_rule (machine api) (ledgerMachine api) decided kept ⟨rfl, conserved⟩ txs
  exact ⟨same, last.same⟩

/-- The token is its ledger. From instantiation on, over any messages from anyone, the messages
that go through are those that the ledger lets through, and the storage reads as the ledger
does: an account's balance, an allowance, the supply and the minter are plain numbers and
names, whatever words and entries they are kept in. -/
theorem token_is_its_ledger (api : Api) (msg : InstantiateMsg) (first : Storage) (response : Response)
    (made : instantiate api msg = .ok (first, response)) (txs : List Tx) (genesis : Ledger Addr)
    (empty : genesis =
      { balance := 0, allowance := fun _ _ => 0, supply := 0, minter := msg.minter.map Addr.mk }) :
    decisions (machine api) first txs = decisions (ledgerMachine api) genesis txs ∧
      (ledgerMachine api).run genesis txs = view ((machine api).run first txs) := by
  rw [empty, ← instantiate_view made]
  exact run_decides api (instantiate_conserved made) txs

/-- A supply at its word's limit, a mint too many, and an overdraft. -/
def fullSupply : List Tx :=
  [⟨⟨"owner"⟩, .mint "user1" (word (2 ^ 128 - 1))⟩,
    ⟨⟨"owner"⟩, .mint "user2" (word 1)⟩,
    ⟨⟨"user1"⟩, .transfer "user2" (word 40)⟩,
    ⟨⟨"user2"⟩, .transfer "user1" (word 41)⟩,
    ⟨⟨"user2"⟩, .burn (word 40)⟩,
    ⟨⟨"owner"⟩, .mint "user2" (word 1)⟩]

theorem token_is_its_ledger_fullSupply :
    [true, false, true, false, true, true] = decisions (ledgerMachine Api.accepting)
      { balance := 0, allowance := fun _ _ => 0, supply := 0, minter := some ⟨"owner"⟩ } fullSupply :=
  (token_is_its_ledger Api.accepting testMsg testToken (Response.new.addAttribute "action" "instatiate") rfl
    fullSupply _ rfl).1

end CosmwasmContracts.Cw20Token
