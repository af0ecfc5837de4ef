import CosmwasmContracts.Cw20Token.Outcomes

/-! What the token's event log tells. Whoever reads the attributes of the committed messages,
and nothing else, knows every balance and the supply. -/

namespace CosmwasmContracts.Cw20Token
open Library.CheckedWord Library.FiniteMap Library.TransactionMachine Library.TokenLedger
open CosmwasmStd

/-- An entry of the log, as its attributes tell it. -/
inductive Entry where
  | moved (source target : Addr) (amount : Nat)
  | burned (holder : Addr) (amount : Nat)
  | minted (target : Addr) (amount : Nat)
  | other
  deriving DecidableEq

def Entry.ofAttributes (attributes : List (String × String)) : Entry :=
  let amount := number (field attributes "amount")
  if field attributes "action" = "transfer" then
    .moved ⟨field attributes "from"⟩ ⟨field attributes "to"⟩ amount
  else if field attributes "action" = "transferFrom" then
    .moved ⟨field attributes "owner"⟩ ⟨field attributes "recipient"⟩ amount
  else if field attributes "action" = "burn" then .burned ⟨field attributes "from"⟩ amount
  else if field attributes "action" = "mint" then .minted ⟨field attributes "to"⟩ amount
  else .other

/-- What a reader of the log keeps. -/
@[ext]
structure Books where
  balance : Addr → Nat
  supply : Nat

def Books.note (books : Books) : Entry → Books
  | .moved source target amount =>
      { books with
        balance := fun account =>
          books.balance account - (if account = source then amount else 0) +
            if account = target then amount else 0 }
  | .burned holder amount =>
      { balance := fun account => books.balance account - if account = holder then amount else 0,
        supply := books.supply - amount }
  | .minted target amount =>
      { balance := fun account => books.balance account + if account = target then amount else 0,
        supply := books.supply + amount }
  | .other => books

/-- The books as the storage has them. -/
def booksOf (storage : Storage) : Books where
  balance := balanceOf storage
  supply := storage.tokenInfo.totalSupply.toNat

def logged (_ : Storage) (_ : Tx) (response : Response) : List Entry := [.ofAttributes response.attributes]

/-- What a message does, as the log should tell it. -/
def Tx.entry (tx : Tx) : Entry :=
  match tx.msg with
  | .transfer recipient amount => .moved tx.sender ⟨recipient⟩ amount.toNat
  | .burn amount => .burned tx.sender amount.toNat
  | .mint recipient amount => .minted ⟨recipient⟩ amount.toNat
  | .approve _ _ => .other
  | .transferFrom owner recipient amount => .moved ⟨owner⟩ ⟨recipient⟩ amount.toNat
  | .updateMinter _ => .other

section Message

variable {api : Api} {storage next : Storage} {tx : Tx} {response : Response}

/-- What is written is what is read: the attributes of a committed message tell what it did. -/
theorem entry_logged (success : (machine api).exec storage tx = .ok (next, response)) :
    Entry.ofAttributes response.attributes = tx.entry := by
  obtain ⟨sender, msg⟩ := tx
  cases msg with
  | transfer recipient amount =>
    obtain ⟨rcpt, valid, success⟩ := bind_eq_ok.mp success
    obtain ⟨_, _, success⟩ := bind_eq_ok.mp success
    obtain ⟨_, _, success⟩ := bind_eq_ok.mp success
    obtain rfl := api.given _ _ (into_eq_ok.mp valid)
    cases success
    change Entry.moved _ _ (number (toString amount.toNat)) = _
    rw [number_toString]
    rfl
  | burn amount =>
    obtain ⟨_, _, success⟩ := bind_eq_ok.mp success
    obtain ⟨_, _, success⟩ := bind_eq_ok.mp success
    cases success
    change Entry.burned _ (number (toString amount.toNat)) = _
    rw [number_toString]
    rfl
  | mint recipient amount =>
    obtain ⟨_, success⟩ := guard_eq_ok.mp success
    obtain ⟨_, _, success⟩ := bind_eq_ok.mp success
    obtain ⟨_, _, success⟩ := bind_eq_ok.mp success
    obtain ⟨_, _, success⟩ := bind_eq_ok.mp success
    cases success
    change Entry.minted _ (number (toString amount.toNat)) = _
    rw [number_toString]
    rfl
  | approve spender amount =>
    obtain ⟨_, _, success⟩ := bind_eq_ok.mp success
    cases success
    rfl
  | transferFrom owner recipient amount =>
    obtain ⟨_, _, success⟩ := bind_eq_ok.mp success
    obtain ⟨_, _, success⟩ := bind_eq_ok.mp success
    obtain ⟨_, success⟩ := guard_eq_ok.mp success
    obtain ⟨_, _, success⟩ := bind_eq_ok.mp success
    obtain ⟨_, _, success⟩ := bind_eq_ok.mp success
    obtain ⟨_, _, success⟩ := bind_eq_ok.mp success
    cases success
    change Entry.moved _ _ (number (toString amount.toNat)) = _
    rw [number_toString]
    rfl
  | updateMinter newMinter =>
    obtain ⟨_, success⟩ := guard_eq_ok.mp success
    obtain ⟨_, _, success⟩ := bind_eq_ok.mp success
    cases success
    rfl

/-- The books move as the message's entry says. -/
theorem books_noted (success : (machine api).exec storage tx = .ok (next, response)) :
    booksOf next = (booksOf storage).note tx.entry := by
  have effect := (execute_refines success).2
  have supply : next.tokenInfo.totalSupply.toNat = ((view storage).apply (toEvent tx)).supply :=
    congrArg Ledger.supply effect
  have balance : ∀ account, balanceOf next account = ((view storage).apply (toEvent tx)).balance account :=
    fun account => DFunLike.congr_fun (congrArg Ledger.balance effect) account
  apply Books.ext
  · funext account
    refine (balance account).trans ?_
    obtain ⟨sender, msg⟩ := tx
    cases msg with
    | transfer recipient amount => exact move_apply _ _ _ _ _
    | burn amount => exact debit_apply _ _ _ _
    | mint recipient amount => exact credit_apply _ _ _ _
    | transferFrom owner recipient amount => exact move_apply _ _ _ _ _
    | approve | updateMinter => rfl
  · refine supply.trans ?_
    obtain ⟨sender, msg⟩ := tx
    cases msg <;> rfl

end Message

theorem booksOf_instantiate {api : Api} {msg : InstantiateMsg} {first : Storage} {response : Response}
    (made : instantiate api msg = .ok (first, response)) :
    booksOf first = { balance := fun _ => 0, supply := 0 } := by
  have books := instantiate_view made
  apply Books.ext
  · funext account
    exact DFunLike.congr_fun (congrArg Ledger.balance books) account
  · exact congrArg Ledger.supply books

/-- A reader of the log that starts with nothing knows every balance and the supply, after any
messages from anyone. -/
theorem log_tells_balances (api : Api) (msg : InstantiateMsg) (first : Storage) (response : Response)
    (made : instantiate api msg = .ok (first, response)) (txs : List Tx) :
    booksOf ((machine api).run first txs) =
      ((machine api).observe logged first txs).foldl Books.note { balance := fun _ => 0, supply := 0 } := by
  rw [← booksOf_instantiate made]
  apply Machine.fold_rule
  intro storage tx next out success
  rw [logged, entry_logged success]
  exact books_noted success

theorem log_tells_balances_selfTransfers :
    (booksOf ((machine Api.accepting).run testToken selfTransfers)).balance =
      (((machine Api.accepting).observe logged testToken selfTransfers).foldl Books.note
        { balance := fun _ => 0, supply := 0 }).balance :=
  congrArg Books.balance (log_tells_balances Api.accepting testMsg testToken
    (Response.new.addAttribute "action" "instatiate") rfl selfTransfers)

end CosmwasmContracts.Cw20Token
