import CosmwasmContracts.Cw20.Inheritance
import CosmwasmContracts.Cw20Token.EventLog
import CosmwasmContracts.Cw20Token.Exactness
import CosmwasmContracts.Cw20Token.Outflow

/-! What holders of the `cw20` contract may rely on. The ledger behind the token is behind the
contract too: it decides the messages, answers the queries and guards the accounts, and the
event log tells it. -/

namespace CosmwasmContracts.Cw20
open Library.CheckedWord Library.FiniteMap Library.TransactionMachine CosmwasmStd CwOwnable
open Cw20Token (balanceOf allowanceOf spentBy approvedFor ledgerMachine)

/-- A query of the contract as one of the token, the owner asked for as the minter. -/
def QueryMsg.asToken : QueryMsg → Cw20Token.QueryMsg
  | .balance address => .balance address
  | .allowance owner spender => .allowance owner spender
  | .tokenInfo => .tokenInfo
  | .ownership => .minter

def QueryResponse.asToken : QueryResponse → Cw20Token.QueryResponse
  | .balance response => .balance { balance := response.balance }
  | .allowance response => .allowance { allowance := response.allowance }
  | .tokenInfo response =>
      .tokenInfo
        { name := response.name,
          symbol := response.symbol,
          decimals := response.decimals,
          totalSupply := response.totalSupply }
  | .ownership response => .minter { minter := response.owner.map Addr.text }

theorem query_agrees (api : Api) (storage : Storage) (msg : QueryMsg) :
    Cw20Token.query api (asToken storage) msg.asToken =
      (query api storage msg).map QueryResponse.asToken := by
  cases msg with
  | balance address =>
    simp only [Cw20Token.query, query, QueryMsg.asToken]
    cases api.addrValidate address <;> rfl
  | allowance owner spender =>
    simp only [Cw20Token.query, query, QueryMsg.asToken]
    cases api.addrValidate owner with
    | error reason => rfl
    | ok source => cases api.addrValidate spender <;> rfl
  | tokenInfo | ownership => rfl

/-- Any run of the contract is a run of the ledger, over the messages that the token which keeps
up is sent. In each state reached, the ledger decides every shared message as the contract
does, and the token answers every query as the contract does. -/
theorem kept_by_ledger (api : Api) (ownable : Package) (lawful : ownable.Lawful) (info : MessageInfo)
    (msg : InstantiateMsg) (first : Storage) (response : Response)
    (made : instantiate api ownable info msg = .ok (first, response)) (txs : List Tx) :
    (ledgerMachine api).run (Cw20Token.view (asToken first))
        ((machine api ownable).respond (counterpart api ownable) first txs) =
      Cw20Token.view (asToken ((machine api ownable).run first txs)) ∧
    (∀ tx shared, tx.msg.shared = some shared →
      ((machine api ownable).Commits ((machine api ownable).run first txs) tx ↔
        (ledgerMachine api).Commits (Cw20Token.view (asToken ((machine api ownable).run first txs)))
          ⟨tx.sender, shared⟩)) ∧
    ∀ asked, Cw20Token.query api
        ((Cw20Token.machine api).run (asToken first)
          ((machine api ownable).respond (counterpart api ownable) first txs)) asked.asToken =
      (query api ((machine api ownable).run first txs) asked).map QueryResponse.asToken := by
  obtain ⟨_, kept⟩ := instantiate_agrees lawful made
  have reached := (run_kept lawful kept txs).related.eq
  refine ⟨?_, ?_, ?_⟩
  · rw [← reached]
    exact (Cw20Token.run_decides api (run_conserved lawful made []) _).2
  · intro tx shared both
    rw [commits_shared lawful both, Cw20Token.commits_iff_ledger (run_conserved lawful made txs)]
  · intro asked
    rw [reached, query_agrees]

/-- With the ownership renounced, the ledger refuses what the contract refuses. -/
theorem kept_by_ledger_handedOver :
    ¬(ledgerMachine Api.accepting).Commits
      (Cw20Token.view (asToken ((machine Api.accepting Package.documented).run testStart handedOver)))
      ⟨⟨"user1"⟩, .mint "user1" (word 5)⟩ := fun minted =>
  absurd (((kept_by_ledger Api.accepting Package.documented Package.documented_lawful ⟨⟨"owner"⟩⟩ testMsg
    testStart _ rfl handedOver).2.1 ⟨blockAt 80, ⟨"user1"⟩, .mint "user1" (word 5)⟩ _ rfl).mpr minted) (by decide)

/-- A Transfer or Burn that the account itself sent. -/
def Tx.MovesOwn (account : Addr) (tx : Tx) : Prop :=
  ∃ msg, tx.msg.shared = some msg ∧ Cw20Token.Tx.MovesOwn account ⟨tx.sender, msg⟩

/-- A TransferFrom that names the account as owner. -/
def Tx.SpendsFrom (account : Addr) (tx : Tx) : Prop :=
  ∃ msg, tx.msg.shared = some msg ∧ Cw20Token.Tx.SpendsFrom account ⟨tx.sender, msg⟩

def Tx.Approves (owner spender : Addr) (tx : Tx) : Prop :=
  ∃ msg, tx.msg.shared = some msg ∧ Cw20Token.Tx.Approves owner spender ⟨tx.sender, msg⟩

section Step

variable {api : Api} {ownable : Package} (lawful : ownable.Lawful) {storage next : Storage} {tx : Tx}
variable {response : Response} {account : Addr}
include lawful

/-- A balance falls only by a message that the token shares, and falls there too. -/
theorem falls_shared (commits : (machine api ownable).exec storage tx = .ok (next, response))
    (falls : balanceOf (asToken next) account < balanceOf (asToken storage) account) :
    ∃ msg, tx.msg.shared = some msg ∧
      (Cw20Token.machine api).exec (asToken storage) ⟨tx.sender, msg⟩ = .ok (asToken next, response) := by
  cases shared : tx.msg.shared with
  | some msg => exact ⟨msg, rfl, exec_shared lawful shared commits⟩
  | none =>
    obtain ⟨block, author, sent⟩ := tx
    cases sent with
    | updateOwnership action =>
      obtain ⟨ownership, _, rfl⟩ := updateOwnership_ok commits
      exact absurd falls (Nat.lt_irrefl _)
    | transfer | burn | mint | approve | transferFrom => cases shared

theorem balance_falls (commits : (machine api ownable).exec storage tx = .ok (next, response))
    (falls : balanceOf (asToken next) account < balanceOf (asToken storage) account) :
    tx.MovesOwn account ∨ tx.SpendsFrom account := by
  obtain ⟨msg, shared, success⟩ := falls_shared lawful commits falls
  rcases Cw20Token.balance_falls success falls with own | spends
  · exact Or.inl ⟨msg, shared, own⟩
  · exact Or.inr ⟨msg, shared, spends⟩

end Step

theorem approved_nothing {api : Api} {ownable : Package} {account spender : Addr} {txs : List Tx}
    (silent : ∀ tx ∈ txs, ¬tx.Approves account spender) (start : Storage) :
    (machine api ownable).tally (inherited (approvedFor account spender)) start txs = 0 := by
  apply Machine.tally_eq_zero
  intro tx member before response
  have quiet := silent tx member
  obtain ⟨block, author, sent⟩ := tx
  cases sent with
  | approve target amount => exact if_neg fun approves => quiet ⟨_, rfl, approves⟩
  | transfer | burn | mint | transferFrom | updateOwnership => rfl

section Histories

variable {api : Api} {ownable : Package} {info : MessageInfo} {msg : InstantiateMsg} {first : Storage}
variable {response : Response} (lawful : ownable.Lawful)
variable (made : instantiate api ownable info msg = .ok (first, response))
include lawful made

theorem instantiate_allowance (owner spender : Addr) : allowanceOf (asToken first) owner spender = 0 := by
  obtain ⟨⟨response', started⟩, _⟩ := instantiate_agrees lawful made
  exact Cw20Token.instantiate_allowance started owner spender

/-- What a spender took from an account and may still take is within what the account approved. -/
theorem run_allowance (txs : List Tx) (account spender : Addr) :
    (machine api ownable).tally (inherited (spentBy account spender)) first txs +
        allowanceOf (asToken ((machine api ownable).run first txs)) account spender ≤
      (machine api ownable).tally (inherited (approvedFor account spender)) first txs := by
  obtain ⟨_, kept⟩ := instantiate_agrees lawful made
  have bound := Cw20Token.run_allowance api (asToken first) account spender
    ((machine api ownable).respond (counterpart api ownable) first txs)
  rw [(run_kept lawful kept txs).related.eq, run_inherited lawful made (fun _ _ _ _ => rfl),
    run_inherited lawful made (fun _ _ _ _ => rfl),
    instantiate_allowance lawful made, Nat.zero_add] at bound
  exact bound

end Histories

/-- After any messages from anyone, the owner's included: an account's balance falls only by a
Transfer or Burn of its own or by a TransferFrom that names it; what a spender took from it
over the whole run, with what the spender may still take, is within what the account approved
for the spender; and from an account that approved nobody, only its own messages take. -/
theorem holdings_protected (api : Api) (ownable : Package) (lawful : ownable.Lawful) (info : MessageInfo)
    (msg : InstantiateMsg) (first : Storage) (response : Response)
    (made : instantiate api ownable info msg = .ok (first, response)) (txs : List Tx)
    (account spender : Addr) :
    (∀ tx next out, (machine api ownable).exec ((machine api ownable).run first txs) tx = .ok (next, out) →
      balanceOf (asToken next) account < balanceOf (asToken ((machine api ownable).run first txs)) account →
        tx.MovesOwn account ∨ tx.SpendsFrom account) ∧
    (machine api ownable).tally (inherited (spentBy account spender)) first txs +
        allowanceOf (asToken ((machine api ownable).run first txs)) account spender ≤
      (machine api ownable).tally (inherited (approvedFor account spender)) first txs ∧
    ((∀ tx ∈ txs, ∀ target, ¬tx.Approves account target) →
      ∀ tx next out, (machine api ownable).exec ((machine api ownable).run first txs) tx = .ok (next, out) →
        balanceOf (asToken next) account < balanceOf (asToken ((machine api ownable).run first txs)) account →
          tx.MovesOwn account) := by
  have spending := run_allowance lawful made txs account
  refine ⟨fun tx next out => balance_falls lawful, spending spender, ?_⟩
  intro silent tx next out commits falls
  have unapproved : ∀ target,
      allowanceOf (asToken ((machine api ownable).run first txs)) account target = 0 := by
    intro target
    have bound := spending target
    rw [approved_nothing (fun other member => silent other member target)] at bound
    omega
  obtain ⟨shared, both, success⟩ := falls_shared lawful commits falls
  exact ⟨shared, both, Cw20Token.balance_falls_unapproved unapproved success falls⟩

/-- An allowance used in part, and a spend beyond what is left of it. -/
def allowanceUsed : List Tx :=
  [⟨blockAt 10, ⟨"owner"⟩, .mint "user1" (word 100)⟩,
    ⟨blockAt 20, ⟨"user1"⟩, .approve "user2" (word 40)⟩,
    ⟨blockAt 30, ⟨"user2"⟩, .transferFrom "user1" "user2" (word 25)⟩,
    ⟨blockAt 40, ⟨"user2"⟩, .transferFrom "user1" "user2" (word 16)⟩]

theorem holdings_protected_allowanceUsed :
    (machine Api.accepting Package.documented).tally (inherited (spentBy ⟨"user1"⟩ ⟨"user2"⟩)) testStart
          allowanceUsed +
        allowanceOf (asToken ((machine Api.accepting Package.documented).run testStart allowanceUsed))
          ⟨"user1"⟩ ⟨"user2"⟩ ≤
      (machine Api.accepting Package.documented).tally (inherited (approvedFor ⟨"user1"⟩ ⟨"user2"⟩)) testStart
        allowanceUsed :=
  (holdings_protected Api.accepting Package.documented Package.documented_lawful ⟨⟨"owner"⟩⟩ testMsg
    testStart _ rfl allowanceUsed ⟨"user1"⟩ ⟨"user2"⟩).2.1

def logged (_ : Storage) (_ : Tx) (response : Response) : List Cw20Token.Entry :=
  [.ofAttributes response.attributes]

theorem books_logged {api : Api} {ownable : Package} (lawful : ownable.Lawful) {storage next : Storage} {tx : Tx}
    {response : Response} (commits : (machine api ownable).exec storage tx = .ok (next, response)) :
    Cw20Token.booksOf (asToken next) =
      (logged storage tx response).foldl Cw20Token.Books.note (Cw20Token.booksOf (asToken storage)) := by
  cases shared : tx.msg.shared with
  | some msg =>
    have success := exec_shared lawful shared commits
    rw [logged, Cw20Token.entry_logged success]
    exact Cw20Token.books_noted success
  | none =>
    obtain ⟨block, author, sent⟩ := tx
    cases sent with
    | updateOwnership action =>
      obtain ⟨ownership, _, commits⟩ := bind_eq_ok.mp commits
      cases commits
      rfl
    | transfer | burn | mint | approve | transferFrom => cases shared

/-- The contract logs as the token does: a reader of the log that starts with nothing knows every
balance and the supply, whatever happens to the ownership in between. -/
theorem log_tells_holdings (api : Api) (ownable : Package) (lawful : ownable.Lawful) (info : MessageInfo)
    (msg : InstantiateMsg) (first : Storage) (response : Response)
    (made : instantiate api ownable info msg = .ok (first, response)) (txs : List Tx) :
    Cw20Token.booksOf (asToken ((machine api ownable).run first txs)) =
      ((machine api ownable).observe logged first txs).foldl Cw20Token.Books.note
        { balance := fun _ => 0, supply := 0 } := by
  obtain ⟨⟨response', started⟩, _⟩ := instantiate_agrees lawful made
  rw [← Cw20Token.booksOf_instantiate started]
  exact Machine.fold_rule _ logged (fun storage => Cw20Token.booksOf (asToken storage)) Cw20Token.Books.note
    (fun _ _ _ _ commits => books_logged lawful commits) first txs

theorem log_tells_holdings_handedOver :
    (Cw20Token.booksOf (asToken ((machine Api.accepting Package.documented).run testStart handedOver))).supply =
      (((machine Api.accepting Package.documented).observe logged testStart handedOver).foldl
        Cw20Token.Books.note { balance := fun _ => 0, supply := 0 }).supply :=
  congrArg Cw20Token.Books.supply (log_tells_holdings Api.accepting Package.documented
    Package.documented_lawful ⟨⟨"owner"⟩⟩ testMsg testStart _ rfl handedOver)

end CosmwasmContracts.Cw20
