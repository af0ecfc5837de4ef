import CosmwasmContracts.Cw20.Contract
import CosmwasmContracts.Cw20Token.Contract

/-! The messages of the `cw20` contract beside those of `cw20-token`. A message they share
comes to the same on both sides, and a change of ownership that goes through is a change of
minter by the owner before it. -/

namespace CosmwasmContracts.Cw20
open Library.CheckedWord Library.FiniteMap Library.TransactionMachine CosmwasmStd CwOwnable

/-- The token that a storage stands for. -/
def asToken (storage : Storage) : Cw20Token.Storage where
  tokenInfo :=
    { name := storage.tokenInfo.name,
      symbol := storage.tokenInfo.symbol,
      decimals := storage.tokenInfo.decimals,
      totalSupply := storage.tokenInfo.totalSupply,
      minter := storage.ownership.owner }
  balances := storage.balances
  allowances := storage.allowances

/-- Equal ledgers and token infos, and the owner of the one is the minter of the other. -/
structure Related (storage : Storage) (token : Cw20Token.Storage) : Prop where
  balances : token.balances = storage.balances
  allowances : token.allowances = storage.allowances
  name : token.tokenInfo.name = storage.tokenInfo.name
  symbol : token.tokenInfo.symbol = storage.tokenInfo.symbol
  decimals : token.tokenInfo.decimals = storage.tokenInfo.decimals
  totalSupply : token.tokenInfo.totalSupply = storage.tokenInfo.totalSupply
  authority : token.tokenInfo.minter = storage.ownership.owner

/-- The messages that both contracts have. -/
def ExecuteMsg.shared : ExecuteMsg → Option Cw20Token.ExecuteMsg
  | .transfer recipient amount => some (.transfer recipient amount)
  | .burn amount => some (.burn amount)
  | .mint recipient amount => some (.mint recipient amount)
  | .approve spender amount => some (.approve spender amount)
  | .transferFrom owner recipient amount => some (.transferFrom owner recipient amount)
  | .updateOwnership _ => none

/-- What a successful message makes the owner before it send. -/
def handover (owner sender : Addr) : ExecuteMsg → List Cw20Token.Tx
  | .updateOwnership .acceptOwnership => [⟨owner, .updateMinter (some sender.text)⟩]
  | .updateOwnership .renounceOwnership => [⟨owner, .updateMinter none⟩]
  | _ => []

/-- An ownership error is the token's `Unauthorized`, every other error the same error. -/
def ContractError.asToken : ContractError → Cw20Token.ContractError
  | .std reason => .std reason
  | .ownership _ => .unauthorized
  | .insufficientBalance => .insufficientBalance
  | .insufficientAllowance => .insufficientAllowance

/-- A result carried over: its response or panic as it is, its error and storage as the token's. -/
def asTokenResult (result : Result ContractError (Storage × Response)) :
    Result Cw20Token.ContractError (Cw20Token.Storage × Response) := do
  let value ← into ContractError.asToken result
  return (asToken value.1, value.2)

section Counterpart

variable (api : Api) (ownable : Package) (storage : Storage) (tx : Tx)

/-- What the token is sent for a message. -/
def counterpart : List Cw20Token.Tx :=
  match tx.msg.shared with
  | some msg => [⟨tx.sender, msg⟩]
  | none =>
      match (machine api ownable).exec storage tx, storage.ownership.owner with
      | .ok _, some owner => handover owner tx.sender tx.msg
      | _, _ => []

end Counterpart

theorem Related.eq {storage : Storage} {token : Cw20Token.Storage} (related : Related storage token) :
    token = asToken storage := by
  obtain ⟨⟨name, symbol, decimals, totalSupply, minter⟩, balances, allowances⟩ := token
  obtain ⟨rfl, rfl, rfl, rfl, rfl, rfl, rfl⟩ := related
  rfl

theorem asToken_related (storage : Storage) : Related storage (asToken storage) :=
  ⟨rfl, rfl, rfl, rfl, rfl, rfl, rfl⟩

section Carried

variable {A : Type}

theorem asTokenResult_bind {first : Result ContractError A}
    {next : A → Result ContractError (Storage × Response)} :
    asTokenResult (first >>= next) =
      into ContractError.asToken first >>= fun value => asTokenResult (next value) := by
  rcases first with (reason | _) | value <;> rfl

theorem asToken_std {result : Result StdError A} :
    into ContractError.asToken (into .std result) = into .std result := by
  rcases result with (reason | _) | value <;> rfl

theorem asToken_unwrap {found : Option A} :
    into ContractError.asToken (unwrap found) = unwrap found := by
  cases found <;> rfl

theorem asTokenResult_ok {result : Result ContractError (Storage × Response)} {next : Storage}
    {response : Response} (success : result = .ok (next, response)) :
    asTokenResult result = .ok (asToken next, response) := by
  rw [success]
  rfl

theorem asTokenResult_error {result : Result ContractError (Storage × Response)}
    {reason : Failure ContractError} (fails : result = .error reason) :
    ∃ reason', asTokenResult result = .error reason' := by
  rw [fails]
  rcases reason with reason | _
  · exact ⟨_, rfl⟩
  · exact ⟨_, rfl⟩

end Carried

section Shared

variable {api : Api} {storage : Storage} {info : MessageInfo} {amount : Uint128}

theorem executeTranfer_agrees {recipient : String} :
    Cw20Token.executeTranfer api (asToken storage) info recipient amount =
      asTokenResult (executeTranfer api storage info recipient amount) := by
  unfold executeTranfer
  rw [asTokenResult_bind, asToken_std]
  refine bind_congr fun rcpt => ?_
  rw [asTokenResult_bind, asToken_std]
  refine bind_congr fun debited => ?_
  rw [asTokenResult_bind, asToken_std]
  rfl

theorem executeBurn_agrees :
    Cw20Token.executeBurn (asToken storage) info amount =
      asTokenResult (executeBurn storage info amount) := by
  unfold executeBurn
  rw [asTokenResult_bind, asToken_std]
  refine bind_congr fun debited => ?_
  rw [asTokenResult_bind, asToken_std]
  rfl

theorem executeApprove_agrees {spender : String} :
    Cw20Token.executeApprove api (asToken storage) info spender amount =
      asTokenResult (executeApprove api storage info spender amount) := by
  unfold executeApprove
  rw [asTokenResult_bind, asToken_std]
  rfl

theorem executeTranferFrom_agrees {owner recipient : String} :
    Cw20Token.executeTranferFrom api (asToken storage) info owner recipient amount =
      asTokenResult (executeTranferFrom api storage info owner recipient amount) := by
  unfold executeTranferFrom
  rw [asTokenResult_bind, asToken_std]
  refine bind_congr fun ownerAddr => ?_
  rw [asTokenResult_bind, asToken_std]
  refine bind_congr fun rcptAddr => ?_
  by_cases short : (unwrapOrDefault (storage.allowances.mayLoad (ownerAddr, info.sender))).toNat < amount.toNat
  · rw [if_pos short]
    exact if_pos short
  · rw [if_neg short]
    refine (if_neg short).trans ?_
    rw [asTokenResult_bind, asToken_unwrap]
    refine bind_congr fun remaining => ?_
    rw [asTokenResult_bind, asToken_std]
    refine bind_congr fun debited => ?_
    rw [asTokenResult_bind, asToken_std]
    rfl

/-- The owner's assertion and the minter's guard let the same senders through. -/
theorem executeMint_agrees {ownable : Package} (lawful : ownable.Lawful) {recipient : String} :
    Cw20Token.executeMint api (asToken storage) info recipient amount =
      asTokenResult (executeMint api ownable storage info recipient amount) := by
  unfold executeMint
  rw [asTokenResult_bind]
  by_cases owns : storage.ownership.owner = some info.sender
  · rw [lawful.owner_asserted owns]
    refine (if_neg (not_not.mpr owns)).trans ?_
    change _ = asTokenResult _
    rw [asTokenResult_bind, asToken_std]
    refine bind_congr fun rcpt => ?_
    rw [asTokenResult_bind, asToken_std]
    refine bind_congr fun credited => ?_
    rw [asTokenResult_bind, asToken_unwrap]
    rfl
  · obtain ⟨reason, refused⟩ := lawful.others_refused owns
    rw [refused]
    exact if_pos owns

/-- A shared message comes to the same on both sides. -/
theorem shared_agrees {ownable : Package} (lawful : ownable.Lawful) {tx : Tx}
    {msg : Cw20Token.ExecuteMsg} (shared : tx.msg.shared = some msg) :
    (Cw20Token.machine api).exec (asToken storage) ⟨tx.sender, msg⟩ =
      asTokenResult ((machine api ownable).exec storage tx) := by
  obtain ⟨block, sender, sent⟩ := tx
  cases sent with
  | transfer recipient amount =>
    cases shared
    exact executeTranfer_agrees
  | burn amount =>
    cases shared
    exact executeBurn_agrees
  | mint recipient amount =>
    cases shared
    exact executeMint_agrees lawful
  | approve spender amount =>
    cases shared
    exact executeApprove_agrees
  | transferFrom owner recipient amount =>
    cases shared
    exact executeTranferFrom_agrees
  | updateOwnership action => cases shared

end Shared

section Ownership

variable {api : Api} {ownable : Package} {storage next : Storage} {tx : Tx} {response : Response}

/-- A pending owner was offered the contract by an owner, and under a valid address. -/
def Offered (api : Api) (ownership : Ownership) : Prop :=
  ∀ pending, ownership.pendingOwner = some pending →
    (∃ owner, ownership.owner = some owner) ∧ api.addrValidate pending.text = .ok pending

/-- Only an ownership message touches the ownership. -/
theorem shared_keeps_ownership {msg : Cw20Token.ExecuteMsg} (shared : tx.msg.shared = some msg)
    (success : (machine api ownable).exec storage tx = .ok (next, response)) :
    next.ownership = storage.ownership := by
  obtain ⟨block, sender, sent⟩ := tx
  cases sent with
  | transfer recipient amount =>
    obtain ⟨_, _, success⟩ := bind_eq_ok.mp success
    obtain ⟨_, _, success⟩ := bind_eq_ok.mp success
    obtain ⟨_, _, success⟩ := bind_eq_ok.mp success
    cases success
    rfl
  | burn amount =>
    obtain ⟨_, _, success⟩ := bind_eq_ok.mp success
    obtain ⟨_, _, success⟩ := bind_eq_ok.mp success
    cases success
    rfl
  | mint recipient amount =>
    obtain ⟨_, _, success⟩ := bind_eq_ok.mp success
    obtain ⟨_, _, success⟩ := bind_eq_ok.mp success
    obtain ⟨_, _, success⟩ := bind_eq_ok.mp success
    obtain ⟨_, _, success⟩ := bind_eq_ok.mp success
    cases success
    rfl
  | approve spender amount =>
    obtain ⟨_, _, success⟩ := bind_eq_ok.mp success
    cases success
    rfl
  | transferFrom owner recipient amount =>
    obtain ⟨_, _, success⟩ := bind_eq_ok.mp success
    obtain ⟨_, _, success⟩ := bind_eq_ok.mp success
    obtain ⟨_, success⟩ := guard_eq_ok.mp success
    obtain ⟨_, _, success⟩ := bind_eq_ok.mp success
    obtain ⟨_, _, success⟩ := bind_eq_ok.mp success
    obtain ⟨_, _, success⟩ := bind_eq_ok.mp success
    cases success
    rfl
  | updateOwnership action => cases shared

theorem updateOwnership_ok {block : BlockInfo} {sender : Addr} {action : Action}
    (success : (machine api ownable).exec storage ⟨block, sender, .updateOwnership action⟩ =
      .ok (next, response)) :
    ∃ ownership, ownable.updateOwnership api block sender action storage.ownership = .ok ownership ∧
      next = { storage with ownership := ownership } := by
  obtain ⟨ownership, updated, success⟩ := bind_eq_ok.mp success
  rw [into_eq_ok] at updated
  cases success
  exact ⟨ownership, updated, rfl⟩

/-- An offer stands or falls with its owner: only an owner makes one, and renouncing or
accepting leaves none. -/
theorem updateOwnership_offered (lawful : ownable.Lawful) {block : BlockInfo} {sender : Addr}
    {action : Action} {before after : Ownership}
    (updated : ownable.updateOwnership api block sender action before = .ok after) :
    Offered api after := by
  cases action with
  | transferOwnership newOwner expiry =>
    obtain ⟨owns, pending, valid, rfl⟩ := lawful.transferred updated
    intro other same
    cases same
    have known : pending.text = newOwner := congrArg Addr.text (api.given _ _ valid)
    exact ⟨⟨sender, owns⟩, known ▸ valid⟩
  | acceptOwnership =>
    obtain ⟨_, rfl⟩ := lawful.accepted updated
    intro other impossible
    cases impossible
  | renounceOwnership =>
    obtain ⟨_, rfl⟩ := lawful.renounced updated
    intro other impossible
    cases impossible

theorem exec_offered (lawful : ownable.Lawful) (offered : Offered api storage.ownership)
    (success : (machine api ownable).exec storage tx = .ok (next, response)) :
    Offered api next.ownership := by
  cases shared : tx.msg.shared with
  | some msg =>
    rw [shared_keeps_ownership shared success]
    exact offered
  | none =>
    obtain ⟨block, sender, sent⟩ := tx
    cases sent with
    | updateOwnership action =>
      obtain ⟨ownership, updated, rfl⟩ := updateOwnership_ok success
      exact updateOwnership_offered lawful updated
    | transfer | burn | mint | approve | transferFrom => cases shared

/-- The minter hands the token on to whomever the message names. -/
theorem handed_over {token : Cw20Token.Storage} {owner : Addr} {text : Option String} {minter : Option Addr}
    (authority : token.tokenInfo.minter = some owner)
    (valid : Cw20Token.validateMinter api text = .ok minter) :
    ∃ response, (Cw20Token.machine api).exec token ⟨owner, .updateMinter text⟩ =
      .ok ({ token with tokenInfo := { token.tokenInfo with minter := minter } }, response) := by
  refine ⟨Response.new.addAttribute "action" "execute_update_minter", ?_⟩
  refine (if_neg (not_not.mpr authority)).trans ?_
  rw [valid]
  rfl

theorem validateMinter_some {text : String} {addr : Addr} (valid : api.addrValidate text = .ok addr) :
    Cw20Token.validateMinter api (some text) = .ok (some addr) := by
  change (api.addrValidate text >>= fun addr => pure (some addr)) = _
  rw [valid]
  rfl

/-- AcceptOwnership is an UpdateMinter of the owner before it. -/
theorem accept_agrees (lawful : ownable.Lawful) (offered : Offered api storage.ownership)
    {block : BlockInfo} {pending : Addr}
    (success : (machine api ownable).exec storage ⟨block, pending, .updateOwnership .acceptOwnership⟩ =
      .ok (next, response)) :
    ∃ owner, storage.ownership.owner = some owner ∧
      counterpart api ownable storage ⟨block, pending, .updateOwnership .acceptOwnership⟩ =
        [⟨owner, .updateMinter (some pending.text)⟩] ∧
      ∃ response', (Cw20Token.machine api).exec (asToken storage)
          ⟨owner, .updateMinter (some pending.text)⟩ = .ok (asToken next, response') := by
  obtain ⟨ownership, updated, rfl⟩ := updateOwnership_ok success
  obtain ⟨expected, rfl⟩ := lawful.accepted updated
  obtain ⟨⟨owner, owned⟩, valid⟩ := offered pending expected
  refine ⟨owner, owned, ?_, ?_⟩
  · unfold counterpart
    simp only [ExecuteMsg.shared, success, owned, handover]
  · exact handed_over owned (validateMinter_some valid)

theorem renounce_agrees (lawful : ownable.Lawful) {block : BlockInfo} {sender : Addr}
    (success : (machine api ownable).exec storage ⟨block, sender, .updateOwnership .renounceOwnership⟩ =
      .ok (next, response)) :
    storage.ownership.owner = some sender ∧ next.ownership.owner = none ∧
      counterpart api ownable storage ⟨block, sender, .updateOwnership .renounceOwnership⟩ =
        [⟨sender, .updateMinter none⟩] ∧
      ∃ response', (Cw20Token.machine api).exec (asToken storage) ⟨sender, .updateMinter none⟩ =
        .ok (asToken next, response') := by
  obtain ⟨ownership, updated, rfl⟩ := updateOwnership_ok success
  obtain ⟨owned, rfl⟩ := lawful.renounced updated
  refine ⟨owned, rfl, ?_, ?_⟩
  · unfold counterpart
    simp only [ExecuteMsg.shared, success, owned, handover]
  · exact handed_over owned rfl

/-- An offer alone, or a refused message, sends the token nothing. -/
theorem counterpart_silent {block : BlockInfo} {sender : Addr} {action : Action}
    (silent : (∃ newOwner expiry, action = .transferOwnership newOwner expiry) ∨
      ¬(machine api ownable).Commits storage ⟨block, sender, .updateOwnership action⟩) :
    counterpart api ownable storage ⟨block, sender, .updateOwnership action⟩ = [] := by
  unfold counterpart
  change (match (machine api ownable).exec storage ⟨block, sender, .updateOwnership action⟩,
      storage.ownership.owner with
    | .ok _, some owner => handover owner sender (.updateOwnership action)
    | _, _ => []) = []
  rcases silent with ⟨newOwner, expiry, rfl⟩ | refused
  · split <;> rfl
  · split
    · next value owner success owned => exact absurd ⟨_, _, success⟩ refused
    · rfl

end Ownership

end CosmwasmContracts.Cw20
