import CosmwasmContracts.CosmwasmStd
import CosmwasmContracts.Library.TransactionMachine

/-! The `cw20-token` contract: a ledger of balances and allowances whose minter may
hand the right to mint to another address or give it up. -/

namespace CosmwasmContracts.Cw20Token
open Library.CheckedWord Library.FiniteMap Library.TransactionMachine CosmwasmStd

inductive ContractError where
  | std (reason : StdError)
  | unauthorized
  | insufficientBalance
  | insufficientAllowance
  deriving DecidableEq

structure TokenInfo where
  name : String
  symbol : String
  decimals : Word 8
  totalSupply : Uint128
  minter : Option Addr
  deriving DecidableEq

/-- `TOKEN_INFO`, `BALANCES` and `ALLOWANCES`. Only `instantiate` makes a storage, and
no message removes the token info, so that loading it cannot fail afterwards. -/
structure Storage where
  tokenInfo : TokenInfo
  balances : Map Addr Uint128
  allowances : Map (Addr × Addr) Uint128

structure InstantiateMsg where
  name : String
  symbol : String
  decimals : Word 8
  minter : Option String

inductive ExecuteMsg where
  | transfer (recipient : String) (amount : Uint128)
  | burn (amount : Uint128)
  | mint (recipient : String) (amount : Uint128)
  | approve (spender : String) (amount : Uint128)
  | transferFrom (owner recipient : String) (amount : Uint128)
  | updateMinter (newMinter : Option String)
  deriving DecidableEq

inductive QueryMsg where
  | balance (address : String)
  | allowance (owner spender : String)
  | tokenInfo
  | minter
  deriving DecidableEq

structure BalanceResponse where
  balance : Uint128
  deriving DecidableEq

structure AllowanceResponse where
  allowance : Uint128
  deriving DecidableEq

structure TokenInfoResponse where
  name : String
  symbol : String
  decimals : Word 8
  totalSupply : Uint128
  deriving DecidableEq

structure MinterResponse where
  minter : Option String
  deriving DecidableEq

inductive QueryResponse where
  | balance (response : BalanceResponse)
  | allowance (response : AllowanceResponse)
  | tokenInfo (response : TokenInfoResponse)
  | minter (response : MinterResponse)
  deriving DecidableEq

variable (api : Api)

/-- `Option::map` with `addr_validate`, transposed. -/
def validateMinter : Option String → Result StdError (Option Addr)
  | none => .ok none
  | some text => do
      let addr ← api.addrValidate text
      return some addr

def instantiate (msg : InstantiateMsg) : Result ContractError (Storage × Response) := do
  let minter ← into .std (validateMinter api msg.minter)
  let zero := Word.zero
  let tokenInfo : TokenInfo :=
    { name := msg.name,
      symbol := msg.symbol,
      decimals := msg.decimals,
      totalSupply := zero,
      minter := minter }
  return ({ tokenInfo := tokenInfo, balances := ∅, allowances := ∅ },
    Response.new.addAttribute "action" "instatiate")

/-- The closure that takes an amount off a stored balance. -/
def debit (amount : Uint128) (bal : Option Uint128) : Result StdError Uint128 :=
  okOr (.genericErr "Insufficient balance") ((unwrapOrDefault bal).checkedSub amount)

/-- The closure that adds an amount to a stored balance; `+` panics on overflow. -/
def credit (amount : Uint128) (bal : Option Uint128) : Result StdError Uint128 :=
  unwrap ((unwrapOrDefault bal).checkedAdd amount)

def executeTranfer (storage : Storage) (info : MessageInfo) (recipient : String)
    (amount : Uint128) : Result ContractError (Storage × Response) := do
  let rcpt ← into .std (api.addrValidate recipient)
  let balances ← into .std (update storage.balances info.sender (debit amount))
  let balances ← into .std (update balances rcpt (credit amount))
  return ({ storage with balances := balances },
    Response.new
      |>.addAttribute "action" "transfer"
      |>.addAttribute "from" info.sender.text
      |>.addAttribute "to" rcpt.text
      |>.addAttribute "amount" (toString amount.toNat))

def executeBurn (storage : Storage) (info : MessageInfo) (amount : Uint128) :
    Result ContractError (Storage × Response) := do
  let balances ← into .std (update storage.balances info.sender (debit amount))
  let supply ← into .std (okOr
    (.overflow .sub (toString storage.tokenInfo.totalSupply.toNat) (toString amount.toNat))
    (storage.tokenInfo.totalSupply.checkedSub amount))
  return ({ storage with
      balances := balances,
      tokenInfo := { storage.tokenInfo with totalSupply := supply } },
    Response.new
      |>.addAttribute "action" "burn"
      |>.addAttribute "from" info.sender.text
      |>.addAttribute "amount" (toString amount.toNat))

def executeMint (storage : Storage) (info : MessageInfo) (recipient : String)
    (amount : Uint128) : Result ContractError (Storage × Response) :=
  if storage.tokenInfo.minter ≠ some info.sender then .error (.error .unauthorized)
  else do
    let rcpt ← into .std (api.addrValidate recipient)
    let balances ← into .std (update storage.balances rcpt (credit amount))
    let supply ← unwrap (storage.tokenInfo.totalSupply.checkedAdd amount)
    return ({ storage with
        balances := balances,
        tokenInfo := { storage.tokenInfo with totalSupply := supply } },
      Response.new
        |>.addAttribute "action" "mint"
        |>.addAttribute "to" recipient
        |>.addAttribute "amount" (toString amount.toNat))

/-- `Approve` overwrites whatever allowance was there. -/
def executeApprove (storage : Storage) (info : MessageInfo) (spender : String)
    (amount : Uint128) : Result ContractError (Storage × Response) := do
  let addr ← into .std (api.addrValidate spender)
  return ({ storage with allowances := storage.allowances.save (info.sender, addr) amount },
    Response.new
      |>.addAttribute "action" "approve"
      |>.addAttribute "owner" info.sender.text
      |>.addAttribute "spender" spender
      |>.addAttribute "amount" (toString amount.toNat))

def executeTranferFrom (storage : Storage) (info : MessageInfo) (owner recipient : String)
    (amount : Uint128) : Result ContractError (Storage × Response) := do
  let ownerAddr ← into .std (api.addrValidate owner)
  let rcptAddr ← into .std (api.addrValidate recipient)
  let allowance := unwrapOrDefault (storage.allowances.mayLoad (ownerAddr, info.sender))
  if allowance.toNat < amount.toNat then .error (.error .insufficientAllowance)
  else do
    let remaining ← unwrap (allowance.checkedSub amount)
    let allowances := storage.allowances.save (ownerAddr, info.sender) remaining
    let balances ← into .std (update storage.balances ownerAddr (debit amount))
    let balances ← into .std (update balances rcptAddr (credit amount))
    return ({ storage with allowances := allowances, balances := balances },
      Response.new
        |>.addAttribute "action" "transferFrom"
        |>.addAttribute "owner" owner
        |>.addAttribute "recipient" recipient
        |>.addAttribute "amount" (toString amount.toNat))

def executeUpdateMinter (storage : Storage) (info : MessageInfo) (newMinter : Option String) :
    Result ContractError (Storage × Response) :=
  if storage.tokenInfo.minter ≠ some info.sender then .error (.error .unauthorized)
  else do
    let minter ← into .std (validateMinter api newMinter)
    return ({ storage with tokenInfo := { storage.tokenInfo with minter := minter } },
      Response.new.addAttribute "action" "execute_update_minter")

def execute (storage : Storage) (info : MessageInfo) :
    ExecuteMsg → Result ContractError (Storage × Response)
  | .transfer recipient amount => executeTranfer api storage info recipient amount
  | .burn amount => executeBurn storage info amount
  | .mint recipient amount => executeMint api storage info recipient amount
  | .approve spender amount => executeApprove api storage info spender amount
  | .transferFrom owner recipient amount =>
      executeTranferFrom api storage info owner recipient amount
  | .updateMinter newMinter => executeUpdateMinter api storage info newMinter

/-- A response is kept as the value that its JSON encodes. -/
def query (storage : Storage) : QueryMsg → Result StdError QueryResponse
  | .balance address => do
      let addr ← api.addrValidate address
      return .balance { balance := unwrapOrDefault (storage.balances.mayLoad addr) }
  | .allowance owner spender => do
      let owner ← api.addrValidate owner
      let spender ← api.addrValidate spender
      return .allowance { allowance := unwrapOrDefault (storage.allowances.mayLoad (owner, spender)) }
  | .tokenInfo =>
      .ok (.tokenInfo
        { name := storage.tokenInfo.name,
          symbol := storage.tokenInfo.symbol,
          decimals := storage.tokenInfo.decimals,
          totalSupply := storage.tokenInfo.totalSupply })
  | .minter => .ok (.minter { minter := storage.tokenInfo.minter.map Addr.text })

/-- A message to the token; its block plays no part. -/
structure Tx where
  sender : Addr
  msg : ExecuteMsg
  deriving DecidableEq

/-- The token under the host: a failing or panicking message reverts. -/
def machine : Machine Storage Tx (Failure ContractError) Response where
  exec storage tx := execute api storage ⟨tx.sender⟩ tx.msg

end CosmwasmContracts.Cw20Token
