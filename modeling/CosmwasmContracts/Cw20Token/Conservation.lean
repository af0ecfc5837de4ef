import CosmwasmContracts.Cw20Token.Refinement

/-! Conservation and issuance of the token: the balances add up to the recorded
supply, and the supply moves only by what the minter mints and holders burn. -/

namespace CosmwasmContracts.Cw20Token
open Library.CheckedWord Library.FiniteMap Library.TransactionMachine Library.TokenLedger CosmwasmStd

variable {api : Api} {msg : InstantiateMsg} {storage : Storage} {response : Response}

theorem instantiate_view (made : instantiate api msg = .ok (storage, response)) :
    view storage =
      { balance := 0, allowance := fun _ _ => 0, supply := 0, minter := msg.minter.map Addr.mk } := by
  obtain ⟨minter, valid, made⟩ := bind_eq_ok.mp made
  rw [into_eq_ok] at valid
  cases made
  rw [← validateMinter_ok valid]
  unfold view funds
  rw [Map.weights_empty]
  simp

theorem instantiate_conserved (made : instantiate api msg = .ok (storage, response)) :
    (view storage).Conserved := by
  unfold Ledger.Conserved
  rw [instantiate_view made, map_zero]

theorem run_view (storage : Storage) (txs : List Tx) :
    view ((machine api).run storage txs) =
      Ledger.machine.run (view storage) ((refinement api).history storage txs) :=
  ((refinement api).run_history storage txs).symm

theorem run_conserved (conserved : (view storage).Conserved) (txs : List Tx) :
    (view ((machine api).run storage txs)).Conserved := by
  rw [run_view]
  exact Ledger.run_conserved conserved _

theorem conserved_iff : (view storage).Conserved ↔
    Map.total Word.toNat storage.balances = storage.tokenInfo.totalSupply.toNat := by
  unfold Ledger.Conserved
  rw [← Map.weights_degree]
  rfl

section Issuance

def mintedIn (_ : Storage) (tx : Tx) (_ : Response) : Nat :=
  match tx.msg with
  | .mint _ amount => amount.toNat
  | _ => 0

def burnedIn (_ : Storage) (tx : Tx) (_ : Response) : Nat :=
  match tx.msg with
  | .burn amount => amount.toNat
  | _ => 0

theorem minted_eq (storage : Storage) (tx : Tx) (response : Response) :
    Ledger.minted (view storage) (toEvent tx) () = mintedIn storage tx response := by
  obtain ⟨sender, msg⟩ := tx
  cases msg <;> rfl

theorem burned_eq (storage : Storage) (tx : Tx) (response : Response) :
    Ledger.burned (view storage) (toEvent tx) () = burnedIn storage tx response := by
  obtain ⟨sender, msg⟩ := tx
  cases msg <;> rfl

theorem run_supply (api : Api) (conserved : (view storage).Conserved) (txs : List Tx) :
    ((machine api).run storage txs).tokenInfo.totalSupply.toNat +
        (machine api).tally burnedIn storage txs =
      storage.tokenInfo.totalSupply.toNat + (machine api).tally mintedIn storage txs := by
  have books := Ledger.run_supply conserved ((refinement api).history storage txs)
  rw [tally_refines burned_eq, tally_refines minted_eq, ← run_view] at books
  exact books

theorem run_renounced (api : Api) (renounced : storage.tokenInfo.minter = none) (txs : List Tx) :
    ((machine api).run storage txs).tokenInfo.minter = none ∧
      (machine api).tally mintedIn storage txs = 0 := by
  have gone : (view storage).minter = none := renounced
  have kept := Ledger.run_renounced gone ((refinement api).history storage txs)
  rw [tally_refines minted_eq, ← run_view] at kept
  exact kept

theorem mint_authorised {next : Storage} {tx : Tx} {recipient : String} {amount : Uint128}
    (success : (machine api).exec storage tx = .ok (next, response)) (mints : tx.msg = .mint recipient amount) :
    storage.tokenInfo.minter = some tx.sender := by
  have permitted := (execute_refines success).1
  rw [toEvent, mints] at permitted
  exact permitted

end Issuance

/-- In every state a run reaches, the balances add up to the recorded supply. -/
theorem balances_sum_to_supply (api : Api) (msg : InstantiateMsg) (storage : Storage)
    (response : Response) (made : instantiate api msg = .ok (storage, response)) (txs : List Tx) :
    Map.total Word.toNat ((machine api).run storage txs).balances =
      ((machine api).run storage txs).tokenInfo.totalSupply.toNat :=
  conserved_iff.mp (run_conserved (instantiate_conserved made) txs)

/-- A token whose minter is `owner`, as the integration tests set it up. -/
def testMsg : InstantiateMsg :=
  { name := "Test Token", symbol := "TST", decimals := word 18, minter := some "owner" }

def testToken : Storage where
  tokenInfo :=
    { name := "Test Token",
      symbol := "TST",
      decimals := word 18,
      totalSupply := Word.zero,
      minter := some ⟨"owner"⟩ }
  balances := ∅
  allowances := ∅

/-- The sender, the recipient and the spender of the last message coincide. -/
def selfTransfers : List Tx :=
  [⟨⟨"owner"⟩, .mint "user1" (word 100)⟩,
    ⟨⟨"user1"⟩, .transfer "user1" (word 60)⟩,
    ⟨⟨"user1"⟩, .approve "user1" (word 40)⟩,
    ⟨⟨"user1"⟩, .transferFrom "user1" "user1" (word 40)⟩]

theorem balances_sum_to_supply_selfTransfers :
    Map.total Word.toNat ((machine Api.accepting).run testToken selfTransfers).balances =
      ((machine Api.accepting).run testToken selfTransfers).tokenInfo.totalSupply.toNat :=
  balances_sum_to_supply Api.accepting testMsg testToken
    (Response.new.addAttribute "action" "instatiate") rfl selfTransfers

example : ((machine Api.accepting).run testToken selfTransfers).tokenInfo.totalSupply =
    word 100 := by decide

end CosmwasmContracts.Cw20Token
