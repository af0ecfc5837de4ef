import CosmwasmContracts.CwOwnable
import CosmwasmContracts.Library.TransactionMachine

/-! The `cw20` contract: a ledger like that of `cw20-token`, written out a second time,
whose right to mint belongs to an owner kept by the `cw_ownable` package. -/

namespace CosmwasmContracts.Cw20
open Library.CheckedWord Library.FiniteMap Library.TransactionMachine CosmwasmStd CwOwnable

inductive ContractError where
  | std (reason : StdError)
  | ownership (reason : OwnershipError)
  | insufficientBalance
  | insufficientAllowance
  deriving DecidableEq

structure TokenInfo where
  name : String
  symbol : String
  decimals : Word 8
  totalSupply : Uint128
  deriving DecidableEq

/-- `TOKEN_INFO`, `BALANCES`, `ALLOWANCES` and the ownership item. Only `instantiate` makes
a storage, and no message removes the token info. -/
structure Storage where
  tokenInfo : TokenInfo
  balances : Map Addr Uint128
  allowances : Map (Addr × Addr) Uint128
  ownership : Ownership

structure InstantiateMsg where
  owner : Option String
  name : String
  symbol : String
  decimals : Word 8

/-- The messages of the source, and the one that `cw_ownable_execute` adds to them. -/
inductive ExecuteMsg where
  | transfer (recipient : String) (amount : Uint128)
  | burn (amount : Uint128)
  | mint (recipient : String) (amount : Uint128)
  | approve (spender : String) (amount : Uint128)
  | transferFrom (owner recipient : String) (amount : Uint128)
  | updateOwnership (action : Action)
  deriving DecidableEq

/-- The queries of the source, and the one that `cw_ownable_query` adds to them. -/
inductive QueryMsg where
  | balance (address : String)
  | allowance (owner spender : String)
  | tokenInfo
  | ownership
  deriving DecidableEq

structure BalanceResponse where
  balance : Uint128
  deriving DecidableEq

structure AllowanceResponse where
  allowance : Uint128
  deriving DecidableEq

structure TokenInfoResponse where
  name : String
  symbol : String
  decimals : Word 8
  totalSupply : Uint128
  deriving DecidableEq

inductive QueryResponse where
  | balance (response : BalanceResponse)
  | allowance (response : AllowanceResponse)
  | tokenInfo (response : TokenInfoResponse)
  | ownership (response : Ownership)
  deriving DecidableEq

variable (api : Api) (ownable : Package)

/-- Without an owner in the message, the sender is the owner. -/
def instantiate (info : MessageInfo) (msg : InstantiateMsg) : Result ContractError (Storage × Response) := do
  let owner := msg.owner.getD info.sender.text
  let ownership ← into .std (ownable.initializeOwner api owner)
  let zero := Word.zero
  let tokenInfo : TokenInfo :=
    { name := msg.name,
      symbol := msg.symbol,
      decimals := msg.decimals,
      totalSupply := zero }
  return ({ tokenInfo := tokenInfo, balances := ∅, allowances := ∅, ownership := ownership },
    Response.new
      |>.addAttribute "action" "instatiate"
      |>.addAttribute "owner" info.sender.text)

/-- The closure that takes an amount off a stored balance. -/
def debit (amount : Uint128) (bal : Option Uint128) : Result StdError Uint128 :=
  okOr (.genericErr "Insufficient balance") ((unwrapOrDefault bal).checkedSub amount)

/-- The closure that adds an amount to a stored balance; `+` panics on overflow. -/
def credit (amount : Uint128) (bal : Option Uint128) : Result StdError Uint128 :=
  unwrap ((unwrapOrDefault bal).checkedAdd amount)

def executeTranfer (storage : Storage) (info : MessageInfo) (recipient : String)
    (amount : Uint128) : Result ContractError (Storage × Response) := do
  let rcpt ← into .std (api.addrValidate recipient)
  let balances ← into .std (update storage.balances info.sender (debit amount))
  let balances ← into .std (update balances rcpt (credit amount))
  return ({ storage with balances := balances },
    Response.new
      |>.addAttribute "action" "transfer"
      |>.addAttribute "from" info.sender.text
      |>.addAttribute "to" rcpt.text
      |>.addAttribute "amount" (toString amount.toNat))

def executeBurn (storage : Storage) (info : MessageInfo) (amount : Uint128) :
    Result ContractError (Storage × Response) := do
  let balances ← into .std (update storage.balances info.sender (debit amount))
  let supply ← into .std (okOr
    (.overflow .sub (toString storage.tokenInfo.totalSupply.toNat) (toString amount.toNat))
    (storage.tokenInfo.totalSupply.checkedSub amount))
  return ({ storage with
      balances := balances,
      tokenInfo := { storage.tokenInfo with totalSupply := supply } },
    Response.new
      |>.addAttribute "action" "burn"
      |>.addAttribute "from" info.sender.text
      |>.addAttribute "amount" (toString amount.toNat))

def executeMint (storage : Storage) (info : MessageInfo) (recipient : String)
    (amount : Uint128) : Result ContractError (Storage × Response) := do
  into .ownership (ownable.assertOwner storage.ownership info.sender)
  let rcpt ← into .std (api.addrValidate recipient)
  let balances ← into .std (update storage.balances rcpt (credit amount))
  let supply ← unwrap (storage.tokenInfo.totalSupply.checkedAdd amount)
  return ({ storage with
      balances := balances,
      tokenInfo := { storage.tokenInfo with totalSupply := supply } },
    Response.new
      |>.addAttribute "action" "mint"
      |>.addAttribute "to" recipient
      |>.addAttribute "amount" (toString amount.toNat))

def executeApprove (storage : Storage) (info : MessageInfo) (spender : String)
    (amount : Uint128) : Result ContractError (Storage × Response) := do
  let addr ← into .std (api.addrValidate spender)
  return ({ storage with allowances := storage.allowances.save (info.sender, addr) amount },
    Response.new
      |>.addAttribute "action" "approve"
      |>.addAttribute "owner" info.sender.text
      |>.addAttribute "spender" spender
      |>.addAttribute "amount" (toString amount.toNat))

def executeTranferFrom (storage : Storage) (info : MessageInfo) (owner recipient : String)
    (amount : Uint128) : Result ContractError (Storage × Response) := do
  let ownerAddr ← into .std (api.addrValidate owner)
  let rcptAddr ← into .std (api.addrValidate recipient)
  let allowance := unwrapOrDefault (storage.allowances.mayLoad (ownerAddr, info.sender))
  if allowance.toNat < amount.toNat then .error (.error .insufficientAllowance)
  else do
    let remaining ← unwrap (allowance.checkedSub amount)
    let allowances := storage.allowances.save (ownerAddr, info.sender) remaining
    let balances ← into .std (update storage.balances ownerAddr (debit amount))
    let balances ← into .std (update balances rcptAddr (credit amount))
    return ({ storage with allowances := allowances, balances := balances },
      Response.new
        |>.addAttribute "action" "transferFrom"
        |>.addAttribute "owner" owner
        |>.addAttribute "recipient" recipient
        |>.addAttribute "amount" (toString amount.toNat))

def execute (storage : Storage) (block : BlockInfo) (info : MessageInfo) :
    ExecuteMsg → Result ContractError (Storage × Response)
  | .transfer recipient amount => executeTranfer api storage info recipient amount
  | .burn amount => executeBurn storage info amount
  | .mint recipient amount => executeMint api ownable storage info recipient amount
  | .approve spender amount => executeApprove api storage info spender amount
  | .transferFrom owner recipient amount =>
      executeTranferFrom api storage info owner recipient amount
  | .updateOwnership action => do
      let ownership ← into .ownership
        (ownable.updateOwnership api block info.sender action storage.ownership)
      return ({ storage with ownership := ownership },
        Response.new.addAttribute "action" "update_ownership")

/-- A response is kept as the value that its JSON encodes. -/
def query (storage : Storage) : QueryMsg → Result StdError QueryResponse
  | .balance address => do
      let addr ← api.addrValidate address
      return .balance { balance := unwrapOrDefault (storage.balances.mayLoad addr) }
  | .allowance owner spender => do
      let owner ← api.addrValidate owner
      let spender ← api.addrValidate spender
      return .allowance { allowance := unwrapOrDefault (storage.allowances.mayLoad (owner, spender)) }
  | .tokenInfo =>
      .ok (.tokenInfo
        { name := storage.tokenInfo.name,
          symbol := storage.tokenInfo.symbol,
          decimals := storage.tokenInfo.decimals,
          totalSupply := storage.tokenInfo.totalSupply })
  | .ownership => .ok (.ownership storage.ownership)

/-- A message to the contract; its block matters to the expiry of ownership transfers. -/
structure Tx where
  block : BlockInfo
  sender : Addr
  msg : ExecuteMsg
  deriving DecidableEq

def machine : Machine Storage Tx (Failure ContractError) Response where
  exec storage tx := execute api ownable storage tx.block ⟨tx.sender⟩ tx.msg

end CosmwasmContracts.Cw20
