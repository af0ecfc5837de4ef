import CosmwasmContracts.Cw20Token.Conservation

/-! Who can move an account's tokens. A balance falls only by a message its holder
sent or a spend under an allowance, and a spender never spends more than the holder
approved for it over the whole run. -/

namespace CosmwasmContracts.Cw20Token
open Library.CheckedWord Library.FiniteMap Library.TransactionMachine Library.TokenLedger CosmwasmStd

def balanceOf (storage : Storage) (account : Addr) : Nat :=
  Map.value Word.toNat storage.balances account

def allowanceOf (storage : Storage) (owner spender : Addr) : Nat :=
  Map.value Word.toNat storage.allowances (owner, spender)

namespace Tx

/-- A Transfer or Burn that the account itself sent. -/
def MovesOwn (account : Addr) (tx : Tx) : Prop :=
  match tx.msg with
  | .transfer _ _ => tx.sender = account
  | .burn _ => tx.sender = account
  | _ => False

/-- A TransferFrom that names the account as owner. -/
def SpendsFrom (account : Addr) (tx : Tx) : Prop :=
  match tx.msg with
  | .transferFrom owner _ _ => owner = account.text
  | _ => False

def Approves (owner spender : Addr) (tx : Tx) : Prop :=
  match tx.msg with
  | .approve target _ => tx.sender = owner ∧ target = spender.text
  | _ => False

end Tx

/-- The amount a TransferFrom by the spender takes from the owner. -/
def spentBy (owner spender : Addr) (_ : Storage) (tx : Tx) (_ : Response) : Nat :=
  match tx.msg with
  | .transferFrom source _ amount =>
      if source = owner.text ∧ tx.sender = spender then amount.toNat else 0
  | _ => 0

/-- The amount an Approve by the owner sets for the spender. -/
def approvedFor (owner spender : Addr) (_ : Storage) (tx : Tx) (_ : Response) : Nat :=
  match tx.msg with
  | .approve target amount =>
      if tx.sender = owner ∧ target = spender.text then amount.toNat else 0
  | _ => 0

variable {api : Api} {storage : Storage}

theorem addr_eq_iff {text : String} {addr : Addr} : (⟨text⟩ : Addr) = addr ↔ text = addr.text := by
  cases addr
  exact ⟨fun same => congrArg Addr.text same, fun same => congrArg Addr.mk same⟩

theorem drawsFrom_iff (account : Addr) (tx : Tx) :
    (toEvent tx).DrawsFrom account ↔ tx.MovesOwn account ∨ tx.SpendsFrom account := by
  obtain ⟨sender, msg⟩ := tx
  cases msg with
  | transferFrom owner recipient amount =>
    simp only [toEvent, Event.DrawsFrom, Tx.MovesOwn, Tx.SpendsFrom, false_or, addr_eq_iff]
  | transfer | burn | mint | approve | updateMinter =>
    simp only [toEvent, Event.DrawsFrom, Tx.MovesOwn, Tx.SpendsFrom, or_false]

theorem approves_iff (owner spender : Addr) (tx : Tx) :
    (toEvent tx).Approves owner spender ↔ tx.Approves owner spender := by
  obtain ⟨sender, msg⟩ := tx
  cases msg with
  | approve target amount =>
    simp only [toEvent, Event.Approves, Tx.Approves, addr_eq_iff]
  | transfer | burn | mint | transferFrom | updateMinter => exact Iff.rfl

theorem spent_eq (owner spender : Addr) (storage : Storage) (tx : Tx) (response : Response) :
    Ledger.spent owner spender (view storage) (toEvent tx) () =
      spentBy owner spender storage tx response := by
  obtain ⟨sender, msg⟩ := tx
  cases msg with
  | transferFrom source recipient amount =>
    simp only [toEvent, Ledger.spent, spentBy, addr_eq_iff]
  | transfer | burn | mint | approve | updateMinter => rfl

theorem approved_eq (owner spender : Addr) (storage : Storage) (tx : Tx) (response : Response) :
    Ledger.approved owner spender (view storage) (toEvent tx) () =
      approvedFor owner spender storage tx response := by
  obtain ⟨sender, msg⟩ := tx
  cases msg with
  | approve target amount =>
    simp only [toEvent, Ledger.approved, approvedFor, addr_eq_iff]
  | transfer | burn | mint | transferFrom | updateMinter => rfl

section Step

variable {next : Storage} {tx : Tx} {response : Response} {account owner spender : Addr}

theorem balance_falls (success : (machine api).exec storage tx = .ok (next, response))
    (falls : balanceOf next account < balanceOf storage account) :
    tx.MovesOwn account ∨ tx.SpendsFrom account := by
  rw [← drawsFrom_iff]
  by_contra outside
  have kept := Ledger.apply_balance_ge (view storage) outside
  rw [← (execute_refines success).2] at kept
  exact Nat.not_lt.mpr kept falls

theorem allowance_rises (success : (machine api).exec storage tx = .ok (next, response))
    (rises : allowanceOf storage owner spender < allowanceOf next owner spender) :
    tx.Approves owner spender := by
  rw [← approves_iff]
  by_contra outside
  have kept := Ledger.apply_allowance_le (view storage) outside
  rw [← (execute_refines success).2] at kept
  exact Nat.not_lt.mpr kept rises

end Step

theorem run_allowance (api : Api) (storage : Storage) (owner spender : Addr) (txs : List Tx) :
    (machine api).tally (spentBy owner spender) storage txs +
        allowanceOf ((machine api).run storage txs) owner spender ≤
      allowanceOf storage owner spender +
        (machine api).tally (approvedFor owner spender) storage txs := by
  have bound := Ledger.run_allowance (view storage) owner spender ((refinement api).history storage txs)
  rw [tally_refines (spent_eq owner spender), tally_refines (approved_eq owner spender),
    ← run_view] at bound
  exact bound

theorem tally_approvedFor_eq_zero {owner spender : Addr} {txs : List Tx}
    (silent : ∀ tx ∈ txs, ¬ tx.Approves owner spender) (storage : Storage) :
    (machine api).tally (approvedFor owner spender) storage txs = 0 := by
  apply Machine.tally_eq_zero
  intro tx member before response
  have quiet := silent tx member
  obtain ⟨sender, msg⟩ := tx
  cases msg with
  | approve target amount => exact if_neg quiet
  | transfer | burn | mint | transferFrom | updateMinter => rfl

/-- A spend that no allowance covers can only be of nothing. -/
theorem balance_falls_unapproved {next : Storage} {tx : Tx} {response : Response} {account : Addr}
    (unapproved : ∀ spender, allowanceOf storage account spender = 0)
    (success : (machine api).exec storage tx = .ok (next, response))
    (falls : balanceOf next account < balanceOf storage account) : tx.MovesOwn account := by
  rcases balance_falls success falls with own | spends
  · exact own
  · exfalso
    obtain ⟨sender, msg⟩ := tx
    cases msg with
    | transferFrom owner recipient amount =>
      obtain rfl : (⟨owner⟩ : Addr) = account := addr_eq_iff.mpr spends
      obtain ⟨_, _, allowed, _, effect, _⟩ := executeTranferFrom_ok success
      have nothing : amount.toNat = 0 := Nat.le_zero.mp (allowed.trans (unapproved sender).le)
      have kept : (view next).balance = (view storage).balance := by
        rw [effect, nothing]
        simp [Ledger.apply, move]
      exact Nat.lt_irrefl _ (lt_of_lt_of_eq falls (DFunLike.congr_fun kept ⟨owner⟩).symm)
    | transfer | burn | mint | approve | updateMinter => exact spends

section Claim

variable {msg : InstantiateMsg} {response : Response}

theorem instantiate_allowance (made : instantiate api msg = .ok (storage, response))
    (owner spender : Addr) : allowanceOf storage owner spender = 0 :=
  congrArg (fun ledger => ledger.allowance owner spender) (instantiate_view made)

/-- After any run, over all its messages: what falls, what a spender can spend, what
raises an allowance, and what an account that never approved anyone can lose. -/
theorem no_unauthorised_outflow (api : Api) (msg : InstantiateMsg) (storage : Storage)
    (response : Response) (made : instantiate api msg = .ok (storage, response)) (txs : List Tx)
    (account spender : Addr) :
    (∀ tx next out, (machine api).exec ((machine api).run storage txs) tx = .ok (next, out) →
      balanceOf next account < balanceOf ((machine api).run storage txs) account →
        tx.MovesOwn account ∨ tx.SpendsFrom account) ∧
    (machine api).tally (spentBy account spender) storage txs +
        allowanceOf ((machine api).run storage txs) account spender ≤
      (machine api).tally (approvedFor account spender) storage txs ∧
    (∀ tx next out, (machine api).exec ((machine api).run storage txs) tx = .ok (next, out) →
      allowanceOf ((machine api).run storage txs) account spender < allowanceOf next account spender →
        tx.Approves account spender) ∧
    ((∀ tx ∈ txs, ∀ target, ¬ tx.Approves account target) →
      ∀ tx next out, (machine api).exec ((machine api).run storage txs) tx = .ok (next, out) →
        balanceOf next account < balanceOf ((machine api).run storage txs) account →
          tx.MovesOwn account) := by
  have spending : ∀ target, _ := fun target => run_allowance api storage account target txs
  simp only [instantiate_allowance made, Nat.zero_add] at spending
  refine ⟨fun tx next out => balance_falls, spending spender, fun tx next out => allowance_rises, ?_⟩
  intro silent tx next out success falls
  refine balance_falls_unapproved (fun target => ?_) success falls
  have bound := spending target
  rw [tally_approvedFor_eq_zero (fun tx member => silent tx member target)] at bound
  omega

theorem no_unauthorised_outflow_selfTransfers :
    (machine Api.accepting).tally (spentBy ⟨"user1"⟩ ⟨"user1"⟩) testToken selfTransfers +
        allowanceOf ((machine Api.accepting).run testToken selfTransfers) ⟨"user1"⟩ ⟨"user1"⟩ ≤
      (machine Api.accepting).tally (approvedFor ⟨"user1"⟩ ⟨"user1"⟩) testToken selfTransfers :=
  (no_unauthorised_outflow Api.accepting testMsg testToken
    (Response.new.addAttribute "action" "instatiate") rfl selfTransfers ⟨"user1"⟩ ⟨"user1"⟩).2.1

end Claim

end CosmwasmContracts.Cw20Token
