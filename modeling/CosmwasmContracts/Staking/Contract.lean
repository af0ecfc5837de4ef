import CosmwasmContracts.CwOwnable
import CosmwasmContracts.Library.TransactionMachine

/-! The `staking` contract: deposits of one cw20 token, locked for a period and paid
simple interest that the contract mints. One `StakeInfo` per address holds the whole
deposit and a single time from which its interest runs. -/

namespace CosmwasmContracts.Staking
open Library.CheckedWord Library.FiniteMap Library.TransactionMachine CosmwasmStd CwOwnable

inductive ContractError where
  | std (reason : StdError)
  | ownership (reason : OwnershipError)
  | unauthorized
  | lockupNotExpired
  | insufficientStake
  | zeroReward
  | noStake
  deriving DecidableEq

structure Config where
  tokenAddress : Addr
  apr : Word 64
  lockupPeriod : Word 64
  deriving DecidableEq

structure StakeInfo where
  amount : Uint128
  stakeTime : Timestamp
  deriving DecidableEq

/-- `CONFIG`, `STAKES`, `TOTAL_STAKED` and the ownership item. Only `instantiate` makes
a storage, and no message removes an item, so that loading one cannot fail afterwards. -/
structure Storage where
  ownership : Ownership
  config : Config
  stakes : Map Addr StakeInfo
  totalStaked : Uint128

structure InstantiateMsg where
  owner : String
  tokenAddress : String
  rewardRate : Word 64
  lockupPeriod : Word 64

inductive ExecuteMsg where
  | stake (amount : Uint128)
  | unstake (amount : Uint128)
  | claimRewards
  | changeConfig (newApr newLockupPeriod : Word 64)
  | updateOwnership (action : Action)
  deriving DecidableEq

inductive QueryMsg where
  | stake (address : String)
  | config
  | reward (address : String)
  | totalStaked
  | ownership
  deriving DecidableEq

structure StakeResponse where
  amount : Uint128
  stakeTime : Word 64
  deriving DecidableEq

structure ConfigResponse where
  tokenAddress : String
  apr : Word 64
  lockupPeriod : Word 64
  deriving DecidableEq

structure RewardResponse where
  amount : Uint128
  deriving DecidableEq

structure TotalStakedResponse where
  total : Uint128
  deriving DecidableEq

inductive QueryResponse where
  | ownership (response : Ownership)
  | stake (response : StakeResponse)
  | config (response : ConfigResponse)
  | reward (response : RewardResponse)
  | totalStaked (response : TotalStakedResponse)
  deriving DecidableEq

section Functions

variable (api : Api) (ownable : Package)

def instantiate (msg : InstantiateMsg) : Result ContractError (Storage × Response) := do
  let ownership ← into .std (ownable.initializeOwner api msg.owner)
  let token ← into .std (api.addrValidate msg.tokenAddress)
  let config : Config :=
    { tokenAddress := token,
      apr := msg.rewardRate,
      lockupPeriod := msg.lockupPeriod }
  return ({ ownership := ownership, config := config, stakes := ∅, totalStaked := Word.zero },
    Response.new.addAttribute "action" "instantiate")

def secondsPerYear : Uint128 := ⟨365 * 24 * 60 * 60, by decide⟩

def tenThousand : Uint128 := ⟨10000, by decide⟩

/-- `as u128` on a `u64`. -/
def widen (word : Word 64) : Uint128 := ⟨word.toNat, word.fits.trans (by decide)⟩

/-- Every intermediate product is checked against 128 bits, and a failure panics. -/
def calculateRewardApr {E : Type} (stakeAmount : Uint128) (stakedSeconds annualRateBps : Word 64) :
    Result E Uint128 :=
  if stakeAmount.isZero || stakedSeconds.isZero || annualRateBps.isZero then .ok Word.zero
  else do
    let rate := widen annualRateBps
    let time := widen stakedSeconds
    let product ← unwrap (stakeAmount.checkedMul rate)
    let product ← unwrap (product.checkedMul time)
    let quotient ← unwrap (product.checkedDiv tenThousand)
    unwrap (quotient.checkedDiv secondsPerYear)

/-- The closure that tops up an entry, keeping its time, or opens one now. -/
def topUp (now : Timestamp) (amount : Uint128) : Option StakeInfo → Result StdError StakeInfo
  | some stored => do
      let sum ← unwrap (stored.amount.checkedAdd amount)
      return { stored with amount := sum }
  | none => .ok { amount := amount, stakeTime := now }

def executeStake (storage : Storage) (env : Env) (info : MessageInfo) (amount : Uint128) :
    Result ContractError (Storage × Response) := do
  let transferMsg : CosmosMsg :=
    { contractAddr := storage.config.tokenAddress.text,
      msg := .transferFrom info.sender.text env.contractAddress.text amount }
  let stakes ← into .std (update storage.stakes info.sender (topUp env.block.time amount))
  let total ← unwrap (storage.totalStaked.checkedAdd amount)
  return ({ storage with stakes := stakes, totalStaked := total },
    Response.new
      |>.addMessage transferMsg
      |>.addAttribute "action" "stake"
      |>.addAttribute "from" info.sender.text
      |>.addAttribute "amount" (toString amount.toNat))

/-- `STAKES.load`, which fails where the sender has no entry. -/
def loadStake (storage : Storage) (sender : Addr) : Result ContractError StakeInfo :=
  into .std (okOr (.notFound "stakes" sender.text) (storage.stakes.mayLoad sender))

/-- `u64` subtraction, panicking below zero as the release profile's overflow checks do. -/
def elapsedSeconds {E : Type} (now since : Timestamp) : Result E (Word 64) :=
  unwrap (now.seconds.checkedSub since.seconds)

def mintMsg (storage : Storage) (recipient : Addr) (amount : Uint128) : CosmosMsg :=
  { contractAddr := storage.config.tokenAddress.text, msg := .mint recipient.text amount }

def executeUnstake (storage : Storage) (env : Env) (info : MessageInfo) (amount : Uint128) :
    Result ContractError (Storage × Response) := do
  let stakeInfo ← loadStake storage info.sender
  if stakeInfo.amount.toNat < amount.toNat then .error (.error .insufficientStake)
  else do
    let stakedTime ← elapsedSeconds env.block.time stakeInfo.stakeTime
    if stakedTime.toNat < storage.config.lockupPeriod.toNat then .error (.error .lockupNotExpired)
    else do
      let rewardAmount ← calculateRewardApr stakeInfo.amount stakedTime storage.config.apr
      let rewardMsgs :=
        if rewardAmount.isZero then [] else [mintMsg storage info.sender rewardAmount]
      let transferMsg : CosmosMsg :=
        { contractAddr := storage.config.tokenAddress.text,
          msg := .transfer info.sender.text amount }
      let stakingRemain ← unwrap (stakeInfo.amount.checkedSub amount)
      let stakes :=
        if stakingRemain.isZero then storage.stakes.remove info.sender
        else storage.stakes.save info.sender
          { amount := stakingRemain, stakeTime := env.block.time }
      let total ← into .std (okOr
        (.overflow .sub (toString storage.totalStaked.toNat) (toString amount.toNat))
        (storage.totalStaked.checkedSub amount))
      return ({ storage with stakes := stakes, totalStaked := total },
        Response.new
          |>.addMessages (rewardMsgs ++ [transferMsg])
          |>.addAttribute "action" "unstake"
          |>.addAttribute "to" info.sender.text
          |>.addAttribute "amount" (toString amount.toNat)
          |>.addAttribute "reward" (toString rewardAmount.toNat))

def executeClaimRewards (storage : Storage) (env : Env) (info : MessageInfo) :
    Result ContractError (Storage × Response) := do
  let stakeInfo ← loadStake storage info.sender
  let stakedTime ← elapsedSeconds env.block.time stakeInfo.stakeTime
  if stakedTime.toNat < storage.config.lockupPeriod.toNat then .error (.error .lockupNotExpired)
  else do
    let rewardAmount ← calculateRewardApr stakeInfo.amount stakedTime storage.config.apr
    if rewardAmount.isZero then .error (.error .zeroReward)
    else
      let stakes := storage.stakes.save info.sender
        { amount := stakeInfo.amount, stakeTime := env.block.time }
      return ({ storage with stakes := stakes },
        Response.new
          |>.addMessage (mintMsg storage info.sender rewardAmount)
          |>.addAttribute "action" "claim_rewards"
          |>.addAttribute "to" info.sender.text
          |>.addAttribute "reward" (toString rewardAmount.toNat))

def executeChangeConfig (storage : Storage) (info : MessageInfo)
    (newApr newLockupPeriod : Word 64) : Result ContractError (Storage × Response) := do
  into .ownership (ownable.assertOwner storage.ownership info.sender)
  let config : Config :=
    { tokenAddress := storage.config.tokenAddress,
      apr := newApr,
      lockupPeriod := newLockupPeriod }
  return ({ storage with config := config },
    Response.new
      |>.addAttribute "action" "change_config"
      |>.addAttribute "new_apr" (toString newApr.toNat)
      |>.addAttribute "new_lockup_period" (toString newLockupPeriod.toNat))

def executeUpdateOwnership (storage : Storage) (env : Env) (info : MessageInfo)
    (action : Action) : Result ContractError (Storage × Response) := do
  let ownership ← into .ownership
    (ownable.updateOwnership api env.block info.sender action storage.ownership)
  return ({ storage with ownership := ownership },
    Response.new.addAttribute "action" "update_ownership")

def execute (storage : Storage) (env : Env) (info : MessageInfo) :
    ExecuteMsg → Result ContractError (Storage × Response)
  | .updateOwnership action => executeUpdateOwnership api ownable storage env info action
  | .stake amount => executeStake storage env info amount
  | .unstake amount => executeUnstake storage env info amount
  | .claimRewards => executeClaimRewards storage env info
  | .changeConfig newApr newLockupPeriod =>
      executeChangeConfig ownable storage info newApr newLockupPeriod

/-- The amount in the `RewardResponse` for an address at a block. -/
def queryReward (storage : Storage) (env : Env) (address : String) :
    Result StdError Uint128 := do
  let addr ← api.addrValidate address
  match storage.stakes.mayLoad addr with
  | some stored => do
      let stakedTime ← elapsedSeconds env.block.time stored.stakeTime
      calculateRewardApr stored.amount stakedTime storage.config.apr
  | none => .ok Word.zero

/-- Where an address has no entry, its amount and its time read as zero. -/
def queryStake (storage : Storage) (address : String) : Result StdError StakeResponse := do
  let addr ← api.addrValidate address
  match storage.stakes.mayLoad addr with
  | some stored => return { amount := stored.amount, stakeTime := stored.stakeTime.seconds }
  | none => return { amount := Word.zero, stakeTime := Word.zero }

def queryConfig (storage : Storage) : ConfigResponse where
  tokenAddress := storage.config.tokenAddress.text
  apr := storage.config.apr
  lockupPeriod := storage.config.lockupPeriod

def queryTotalStaked (storage : Storage) : TotalStakedResponse where
  total := storage.totalStaked

/-- A response is kept as the value that its JSON encodes. -/
def query (storage : Storage) (env : Env) : QueryMsg → Result StdError QueryResponse
  | .ownership => .ok (.ownership storage.ownership)
  | .stake address => do
      let response ← queryStake api storage address
      return .stake response
  | .config => .ok (.config (queryConfig storage))
  | .reward address => do
      let amount ← queryReward api storage env address
      return .reward { amount := amount }
  | .totalStaked => .ok (.totalStaked (queryTotalStaked storage))

end Functions

end CosmwasmContracts.Staking
