import CosmwasmContracts.Cw20.Agreement
import CosmwasmContracts.Cw20Token.Conservation

/-! The `cw20` contract imitated by `cw20-token`. Every message they share is sent on as it
is, a change of ownership that went through becomes a change of minter, and nothing else is
sent; the token then holds the same ledger throughout, its minter the contract's owner. -/

namespace CosmwasmContracts.Cw20
open Library.CheckedWord Library.FiniteMap Library.TransactionMachine CosmwasmStd CwOwnable

section Run

variable {api : Api} {ownable : Package} {storage : Storage} {token : Cw20Token.Storage}

/-- What an imitation keeps: the relation, and offers that can be taken up. -/
structure Kept (api : Api) (storage : Storage) (token : Cw20Token.Storage) : Prop where
  offered : Offered api storage.ownership
  related : Related storage token

/-- The token keeps up with one message. -/
theorem counterpart_keeps (lawful : ownable.Lawful) (tx : Tx) (kept : Kept api storage token) :
    Kept api ((machine api ownable).deliver storage tx)
      ((Cw20Token.machine api).run token (counterpart api ownable storage tx)) := by
  obtain rfl := kept.related.eq
  cases shared : tx.msg.shared with
  | some msg =>
    have sent : counterpart api ownable storage tx = [⟨tx.sender, msg⟩] := by
      rw [counterpart, shared]
    have agree : (Cw20Token.machine api).exec (asToken storage) ⟨tx.sender, msg⟩ =
        asTokenResult ((machine api ownable).exec storage tx) := shared_agrees lawful shared
    rw [sent, Machine.run_cons, Machine.run_nil]
    cases result : (machine api ownable).exec storage tx with
    | error reason =>
      obtain ⟨reason', fails⟩ := asTokenResult_error result
      rw [Machine.deliver_error _ result, Machine.deliver_error _ (agree.trans fails)]
      exact kept
    | ok value =>
      have success := asTokenResult_ok result
      rw [Machine.deliver_ok _ result, Machine.deliver_ok _ (agree.trans success)]
      exact ⟨exec_offered lawful kept.offered result, asToken_related _⟩
  | none =>
    obtain ⟨block, sender, sent⟩ := tx
    cases sent with
    | transfer | burn | mint | approve | transferFrom => cases shared
    | updateOwnership action =>
      cases result : (machine api ownable).exec storage ⟨block, sender, .updateOwnership action⟩ with
      | error reason =>
        have refused :
            ¬(machine api ownable).Commits storage ⟨block, sender, .updateOwnership action⟩ := by
          rintro ⟨next, response, success⟩
          rw [result] at success
          cases success
        rw [Machine.deliver_error _ result, counterpart_silent (Or.inr refused), Machine.run_nil]
        exact kept
      | ok value =>
        rw [Machine.deliver_ok _ result]
        refine ⟨exec_offered lawful kept.offered result, ?_⟩
        cases action with
        | transferOwnership newOwner expiry =>
          rw [counterpart_silent (Or.inl ⟨newOwner, expiry, rfl⟩), Machine.run_nil]
          obtain ⟨ownership, updated, same⟩ := updateOwnership_ok result
          obtain ⟨_, _, _, rfl⟩ := lawful.transferred updated
          rw [same]
          exact ⟨rfl, rfl, rfl, rfl, rfl, rfl, rfl⟩
        | acceptOwnership =>
          obtain ⟨owner, _, sent, response', success⟩ := accept_agrees lawful kept.offered result
          rw [sent, Machine.run_cons, Machine.run_nil, Machine.deliver_ok _ success]
          exact asToken_related value.1
        | renounceOwnership =>
          obtain ⟨_, _, sent, response', success⟩ := renounce_agrees lawful result
          rw [sent, Machine.run_cons, Machine.run_nil, Machine.deliver_ok _ success]
          exact asToken_related value.1

theorem run_kept (lawful : ownable.Lawful) (kept : Kept api storage token) (txs : List Tx) :
    Kept api ((machine api ownable).run storage txs)
      ((Cw20Token.machine api).run token
        ((machine api ownable).respond (counterpart api ownable) storage txs)) :=
  Machine.respond_rule _ _ _ (fun _ _ tx kept => counterpart_keeps lawful tx kept) kept txs

/-- How two states agree on what may come next: a shared message is sent on as it is and
ends the same way, an accepted or renounced ownership is one UpdateMinter of the owner
before it, which goes through, and any other ownership message sends nothing. -/
structure Matched (api : Api) (ownable : Package) (storage : Storage) (token : Cw20Token.Storage) :
    Prop where
  related : Related storage token
  shared : ∀ tx msg, tx.msg.shared = some msg →
    counterpart api ownable storage tx = [⟨tx.sender, msg⟩] ∧
      (Cw20Token.machine api).exec token ⟨tx.sender, msg⟩ =
        asTokenResult ((machine api ownable).exec storage tx)
  accepted : ∀ block pending,
    (machine api ownable).Commits storage ⟨block, pending, .updateOwnership .acceptOwnership⟩ →
      ∃ owner, storage.ownership.owner = some owner ∧
        counterpart api ownable storage ⟨block, pending, .updateOwnership .acceptOwnership⟩ =
          [⟨owner, .updateMinter (some pending.text)⟩] ∧
        (Cw20Token.machine api).Commits token ⟨owner, .updateMinter (some pending.text)⟩
  renounced : ∀ block sender,
    (machine api ownable).Commits storage ⟨block, sender, .updateOwnership .renounceOwnership⟩ →
      storage.ownership.owner = some sender ∧
        counterpart api ownable storage ⟨block, sender, .updateOwnership .renounceOwnership⟩ =
          [⟨sender, .updateMinter none⟩] ∧
        (Cw20Token.machine api).Commits token ⟨sender, .updateMinter none⟩
  silent : ∀ block sender action,
    (∃ newOwner expiry, action = .transferOwnership newOwner expiry) ∨
        ¬(machine api ownable).Commits storage ⟨block, sender, .updateOwnership action⟩ →
      counterpart api ownable storage ⟨block, sender, .updateOwnership action⟩ = []

theorem Kept.matched (lawful : ownable.Lawful) (kept : Kept api storage token) :
    Matched api ownable storage token := by
  obtain rfl := kept.related.eq
  refine ⟨kept.related, ?_, ?_, ?_, fun _ _ _ => counterpart_silent⟩
  · intro tx msg shared
    refine ⟨?_, shared_agrees lawful shared⟩
    rw [counterpart, shared]
  · rintro block pending ⟨next, response, success⟩
    obtain ⟨owner, owned, sent, response', taken⟩ := accept_agrees lawful kept.offered success
    exact ⟨owner, owned, sent, _, response', taken⟩
  · rintro block sender ⟨next, response, success⟩
    obtain ⟨owned, _, sent, response', given⟩ := renounce_agrees lawful success
    exact ⟨owned, sent, _, response', given⟩

/-- Without an owner nobody mints, and the token that keeps up shows that there will be
none again and that the supply only falls. -/
theorem ownerless_run (lawful : ownable.Lawful) (offered : Offered api storage.ownership)
    (conserved : (Cw20Token.view (asToken storage)).Conserved)
    (ownerless : storage.ownership.owner = none) (txs : List Tx) :
    ((machine api ownable).run storage txs).ownership.owner = none ∧
      ((machine api ownable).run storage txs).tokenInfo.totalSupply.toNat ≤
        storage.tokenInfo.totalSupply.toNat := by
  have kept : Kept api storage (asToken storage) := ⟨offered, asToken_related storage⟩
  have related := (run_kept lawful kept txs).related
  have renounced : (asToken storage).tokenInfo.minter = none := ownerless
  obtain ⟨gone, nothing⟩ := Cw20Token.run_renounced api renounced
    ((machine api ownable).respond (counterpart api ownable) storage txs)
  have books := Cw20Token.run_supply api conserved
    ((machine api ownable).respond (counterpart api ownable) storage txs)
  rw [nothing, related.totalSupply] at books
  have held : (asToken storage).tokenInfo.totalSupply = storage.tokenInfo.totalSupply := rfl
  rw [held] at books
  exact ⟨related.authority.symm.trans gone, by omega⟩

theorem ownerless_refuses (lawful : ownable.Lawful) (ownerless : storage.ownership.owner = none)
    (block : BlockInfo) (sender : Addr) (recipient : String) (amount : Uint128) :
    ¬(machine api ownable).Commits storage ⟨block, sender, .mint recipient amount⟩ := by
  rintro ⟨next, response, success⟩
  obtain ⟨_, asserted, _⟩ := bind_eq_ok.mp success
  rw [into_eq_ok] at asserted
  have other : storage.ownership.owner ≠ some sender := by
    intro owned
    rw [ownerless] at owned
    cases owned
  obtain ⟨reason, refused⟩ := lawful.others_refused other
  rw [refused] at asserted
  cases asserted

end Run

section Start

variable {api : Api} {ownable : Package} {info : MessageInfo} {msg : InstantiateMsg} {start : Storage}
variable {response : Response}

/-- The same token, minted by the owner. -/
def InstantiateMsg.asToken (info : MessageInfo) (msg : InstantiateMsg) : Cw20Token.InstantiateMsg where
  name := msg.name
  symbol := msg.symbol
  decimals := msg.decimals
  minter := some (msg.owner.getD info.sender.text)

theorem instantiate_agrees (lawful : ownable.Lawful)
    (made : instantiate api ownable info msg = .ok (start, response)) :
    (∃ response', Cw20Token.instantiate api (msg.asToken info) = .ok (asToken start, response')) ∧
      Kept api start (asToken start) := by
  obtain ⟨ownership, initial, made⟩ := bind_eq_ok.mp made
  rw [into_eq_ok] at initial
  obtain ⟨owner, valid, rfl⟩ := lawful.initialized initial
  cases made
  refine ⟨⟨Response.new.addAttribute "action" "instatiate", ?_⟩, ?_, asToken_related _⟩
  · change (into Cw20Token.ContractError.std (Cw20Token.validateMinter api (some _)) >>= _) = _
    rw [validateMinter_some valid]
    rfl
  · intro pending impossible
    cases impossible

end Start

/-- Every run of the contract is matched by a run of the token, state by state, and once
the ownership has been renounced nothing is minted and the supply never rises again. -/
theorem tokens_agree (api : Api) (ownable : Package) (lawful : ownable.Lawful) (info : MessageInfo)
    (msg : InstantiateMsg) (start : Storage) (response : Response)
    (made : instantiate api ownable info msg = .ok (start, response)) :
    (∃ token response', Cw20Token.instantiate api (msg.asToken info) = .ok (token, response') ∧
      ∀ txs, Matched api ownable ((machine api ownable).run start txs)
        ((Cw20Token.machine api).run token
          ((machine api ownable).respond (counterpart api ownable) start txs))) ∧
    ∀ txs block sender,
      (machine api ownable).Commits ((machine api ownable).run start txs)
          ⟨block, sender, .updateOwnership .renounceOwnership⟩ →
        ∀ later,
          (∀ now minter recipient amount,
            ¬(machine api ownable).Commits
              ((machine api ownable).run start
                (txs ++ ⟨block, sender, .updateOwnership .renounceOwnership⟩ :: later))
              ⟨now, minter, .mint recipient amount⟩) ∧
          ∀ further,
            ((machine api ownable).run start
              (txs ++ ⟨block, sender, .updateOwnership .renounceOwnership⟩ ::
                later ++ further)).tokenInfo.totalSupply.toNat ≤
            ((machine api ownable).run start
              (txs ++ ⟨block, sender, .updateOwnership .renounceOwnership⟩ ::
                later)).tokenInfo.totalSupply.toNat := by
  obtain ⟨⟨response', started⟩, kept⟩ := instantiate_agrees lawful made
  refine ⟨⟨asToken start, response', started, fun txs => (run_kept lawful kept txs).matched lawful⟩, ?_⟩
  rintro txs block sender ⟨next, out, success⟩ later
  obtain ⟨_, ownerless, _, _⟩ := renounce_agrees lawful success
  have reached := run_kept lawful kept txs
  have offered := exec_offered lawful reached.offered success
  have conserved : ∀ history,
      (Cw20Token.view (asToken ((machine api ownable).run start history))).Conserved := by
    intro history
    rw [← (run_kept lawful kept history).related.eq]
    exact Cw20Token.run_conserved (Cw20Token.instantiate_conserved started) _
  have arrived : (machine api ownable).run start
      (txs ++ [⟨block, sender, .updateOwnership .renounceOwnership⟩]) = next := by
    rw [Machine.run_snoc, Machine.deliver_ok _ success]
  have nowOwnerless := (ownerless_run lawful offered (arrived ▸ conserved _) ownerless later).1
  rw [← arrived, ← Machine.run_append, List.append_assoc, List.singleton_append] at nowOwnerless
  refine ⟨ownerless_refuses lawful nowOwnerless, fun further => ?_⟩
  rw [Machine.run_append]
  exact (ownerless_run lawful (run_kept lawful kept _).offered (conserved _) nowOwnerless further).2

/-- A token that its sender owns. -/
def testMsg : InstantiateMsg :=
  { owner := none, name := "Test Token", symbol := "TST", decimals := word 18 }

def testStart : Storage where
  tokenInfo := { name := "Test Token", symbol := "TST", decimals := word 18, totalSupply := Word.zero }
  balances := ∅
  allowances := ∅
  ownership := { owner := some ⟨"owner"⟩, pendingOwner := none, pendingExpiry := none }

def blockAt (nanos : Nat) : BlockInfo := ⟨word 1, ⟨word nanos⟩⟩

/-- An ownership handed over, and renounced by its new owner with another transfer pending. -/
def handedOver : List Tx :=
  [⟨blockAt 10, ⟨"owner"⟩, .mint "user1" (word 100)⟩,
    ⟨blockAt 20, ⟨"owner"⟩, .updateOwnership (.transferOwnership "user1" (some (.atTime ⟨word 50⟩)))⟩,
    ⟨blockAt 30, ⟨"user1"⟩, .mint "user1" (word 1)⟩,
    ⟨blockAt 40, ⟨"user1"⟩, .updateOwnership .acceptOwnership⟩,
    ⟨blockAt 50, ⟨"user1"⟩, .updateOwnership (.transferOwnership "user2" none)⟩,
    ⟨blockAt 60, ⟨"user1"⟩, .updateOwnership .renounceOwnership⟩,
    ⟨blockAt 70, ⟨"user2"⟩, .updateOwnership .acceptOwnership⟩]

theorem tokens_agree_handedOver :
    ∃ token response', Cw20Token.instantiate Api.accepting (testMsg.asToken ⟨⟨"owner"⟩⟩) =
        .ok (token, response') ∧
      Matched Api.accepting Package.documented
        ((machine Api.accepting Package.documented).run testStart handedOver)
        ((Cw20Token.machine Api.accepting).run token
          ((machine Api.accepting Package.documented).respond
            (counterpart Api.accepting Package.documented) testStart handedOver)) := by
  obtain ⟨⟨token, response', started, matched⟩, _⟩ := tokens_agree Api.accepting Package.documented
    Package.documented_lawful ⟨⟨"owner"⟩⟩ testMsg testStart _ rfl
  exact ⟨token, response', started, matched handedOver⟩

/-- user1's early Mint is sent on, to fail there too; user2's AcceptOwnership is not sent. -/
example : (machine Api.accepting Package.documented).respond
      (counterpart Api.accepting Package.documented) testStart handedOver =
    [⟨⟨"owner"⟩, .mint "user1" (word 100)⟩, ⟨⟨"user1"⟩, .mint "user1" (word 1)⟩,
      ⟨⟨"owner"⟩, .updateMinter (some "user1")⟩, ⟨⟨"user1"⟩, .updateMinter none⟩] := by decide

end CosmwasmContracts.Cw20
