import CosmwasmContracts.CwOwnable
import CosmwasmContracts.Library.SignedWord
import CosmwasmContracts.Library.TransactionMachine

/-! The `my-first-contract` contract: a count that its owner increments and resets. -/

namespace CosmwasmContracts.Counter
open Library.CheckedWord Library.TransactionMachine CosmwasmStd CwOwnable

abbrev I32 := SignedWord 32

inductive ContractError where
  | std (reason : StdError)
  | ownership (reason : OwnershipError)
  | negativeCount
  deriving DecidableEq

/-- `COUNT` and the ownership item. Only `instantiate` makes a storage. -/
structure Storage where
  count : I32
  ownership : Ownership
  deriving DecidableEq

structure InstantiateMsg where
  count : I32
  owner : Option String

/-- The messages of the source, and the one that `cw_ownable_execute` adds to them. -/
inductive ExecuteMsg where
  | increment
  | reset (count : I32)
  | updateOwnership (action : Action)
  deriving DecidableEq

inductive QueryMsg where
  | getCount
  | ownership
  deriving DecidableEq

structure CountResponse where
  count : I32
  deriving DecidableEq

inductive QueryResponse where
  | count (response : CountResponse)
  | ownership (response : Ownership)
  deriving DecidableEq

variable (api : Api) (ownable : Package)

/-- The count is checked before the owner is looked at. -/
def instantiate (info : MessageInfo) (msg : InstantiateMsg) : Result ContractError (Storage × Response) :=
  if msg.count.toInt < 0 then .error (.error .negativeCount)
  else do
    let owner := msg.owner.getD info.sender.text
    let ownership ← into .std (ownable.initializeOwner api owner)
    return ({ count := msg.count, ownership := ownership },
      Response.new
        |>.addAttribute "method" "instatiate"
        |>.addAttribute "count" (toString msg.count.toInt))

def queryCount (storage : Storage) : CountResponse where
  count := storage.count

/-- A response is kept as the value that its JSON encodes. -/
def query (storage : Storage) : QueryMsg → QueryResponse
  | .getCount => .count (queryCount storage)
  | .ownership => .ownership storage.ownership

def one : I32 := ⟨1, by decide, by decide⟩

/-- `+` on an `i32` panics on overflow, as the release profile's overflow checks make it. -/
def executeIncrement (storage : Storage) (info : MessageInfo) :
    Result ContractError (Storage × Response) := do
  into .ownership (ownable.assertOwner storage.ownership info.sender)
  let newValue ← unwrap (storage.count.checkedAdd one)
  return ({ storage with count := newValue },
    Response.new.addAttribute "method" "increment")

def executeReset (storage : Storage) (info : MessageInfo) (count : I32) :
    Result ContractError (Storage × Response) := do
  into .ownership (ownable.assertOwner storage.ownership info.sender)
  if count.toInt < 0 then .error (.error .negativeCount)
  else
    return ({ storage with count := count },
      Response.new
        |>.addAttribute "method" "reset"
        |>.addAttribute "count" (toString count.toInt))

def execute (storage : Storage) (block : BlockInfo) (info : MessageInfo) :
    ExecuteMsg → Result ContractError (Storage × Response)
  | .increment => executeIncrement ownable storage info
  | .reset count => executeReset ownable storage info count
  | .updateOwnership action => do
      let ownership ← into .ownership
        (ownable.updateOwnership api block info.sender action storage.ownership)
      return ({ storage with ownership := ownership },
        Response.new.addAttribute "action" "update_ownership")

/-- A message to the contract; its block matters to the expiry of ownership transfers. -/
structure Tx where
  block : BlockInfo
  sender : Addr
  msg : ExecuteMsg
  deriving DecidableEq

def machine : Machine Storage Tx (Failure ContractError) Response where
  exec storage tx := execute api ownable storage tx.block ⟨tx.sender⟩ tx.msg

end CosmwasmContracts.Counter
