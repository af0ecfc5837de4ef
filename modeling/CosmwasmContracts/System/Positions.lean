import CosmwasmContracts.Library.LocalAction
import CosmwasmContracts.System.Health

/-! The composed system as its stakers see it. Each address has a position: its deposit,
its tokens and the allowances it gave. A staker's operation reads and rewrites the
position of its sender and posts a principal and a reward to the totals that all share;
every message of a staker refines one such operation. -/

namespace CosmwasmContracts.System
open Library.CheckedWord Library.FiniteMap Library.TransactionMachine Library.LocalAction
  CosmwasmStd CwOwnable Staking

structure Deposit where
  amount : Nat
  since : Timestamp

structure Position where
  deposit : Option Deposit
  balance : Nat
  allowance : Addr → Nat

/-- What no staker holds alone: the sums of both contracts, and the terms both keep. -/
@[ext]
structure Totals where
  staked : Int
  pool : Int
  supply : Nat
  config : Staking.Config
  ownership : Ownership
  tokenInfo : Cw20Token.TokenInfo

structure Posting where
  principal : Int
  minted : Nat

def Totals.post (posting : Posting) (totals : Totals) : Totals :=
  { totals with
    staked := totals.staked + posting.principal,
    pool := totals.pool + posting.principal,
    supply := totals.supply + posting.minted }

theorem Totals.post_comm (first second : Posting) (totals : Totals) :
    Totals.post first (Totals.post second totals) = Totals.post second (Totals.post first totals) := by
  unfold Totals.post
  ext
  · change totals.staked + second.principal + first.principal = _ + first.principal + second.principal
    omega
  · change totals.pool + second.principal + first.principal = _ + first.principal + second.principal
    omega
  · change totals.supply + second.minted + first.minted = _ + first.minted + second.minted
    omega
  all_goals rfl

inductive Operation where
  | stake (amount : Uint128)
  | unstake (amount : Uint128)
  | claim
  deriving DecidableEq

/-- The terms an operation is made under, which no operation changes. -/
structure Terms where
  pool : Addr
  apr : Nat
  lockup : Nat
  mints : Prop
  accepts : Addr → Prop

namespace Terms

variable (terms : Terms) (now : Timestamp)

def elapsed (deposit : Deposit) : Nat := now.seconds.toNat - deposit.since.seconds.toNat

/-- A deposit that pays out now: its clock is not ahead, the lockup is over, and the
product behind the reward is representable. -/
structure Matured (deposit : Deposit) : Prop where
  started : deposit.since.seconds.toNat ≤ now.seconds.toNat
  unlocked : terms.lockup ≤ elapsed now deposit
  representable : deposit.amount * terms.apr * elapsed now deposit < 2 ^ 128

def reward (deposit : Deposit) : Nat := exactReward deposit.amount terms.apr (elapsed now deposit)

def due (position : Position) : Nat := (position.deposit.map (terms.reward now)).getD 0

/-- A deposit after a top-up, which keeps its time, or a new one from now on. -/
def increased (amount : Nat) : Option Deposit → Deposit
  | some deposit => { deposit with amount := deposit.amount + amount }
  | none => { amount := amount, since := now }

/-- A deposit after a withdrawal: nothing, or the rest from now on. -/
def decreased (amount : Nat) (deposit : Deposit) : Option Deposit :=
  if deposit.amount = amount then none else some { amount := deposit.amount - amount, since := now }

def action (user : Addr) : Operation → Action Position Posting
  | .stake amount =>
      { Ready := fun position => terms.accepts user ∧ terms.accepts terms.pool ∧
          amount.toNat ≤ position.balance ∧ amount.toNat ≤ position.allowance terms.pool
        next := fun position =>
          { deposit := some (increased now amount.toNat position.deposit)
            balance := position.balance - amount.toNat
            allowance := fun spender =>
              position.allowance spender - if spender = terms.pool then amount.toNat else 0 }
        posting := fun _ => { principal := amount.toNat, minted := 0 } }
  | .unstake amount =>
      { Ready := fun position => ∃ deposit, position.deposit = some deposit ∧
          amount.toNat ≤ deposit.amount ∧ terms.Matured now deposit ∧
          (terms.reward now deposit = 0 ∨ terms.mints)
        next := fun position =>
          { position with
            deposit := position.deposit.bind (decreased now amount.toNat)
            balance := position.balance + amount.toNat + terms.due now position }
        posting := fun position => { principal := -amount.toNat, minted := terms.due now position } }
  | .claim =>
      { Ready := fun position => ∃ deposit, position.deposit = some deposit ∧
          terms.Matured now deposit ∧ terms.reward now deposit ≠ 0 ∧ terms.mints
        next := fun position =>
          { position with
            deposit := position.deposit.map fun deposit => { deposit with since := now }
            balance := position.balance + terms.due now position }
        posting := fun position => { principal := 0, minted := terms.due now position } }

end Terms

def Operation.msg : Operation → Staking.ExecuteMsg
  | .stake amount => .stake amount
  | .unstake amount => .unstake amount
  | .claim => .claimRewards

def operationTx (block : BlockInfo) (user : Addr) (operation : Operation) : Tx :=
  ⟨block, user, .staking operation.msg⟩

section View

variable (host : Host) (world : World)

def terms : Terms where
  pool := host.staking
  apr := world.staking.config.apr.toNat
  lockup := world.staking.config.lockupPeriod.toNat
  mints := world.token.tokenInfo.minter = some host.staking
  accepts := host.Accepts

def depositOf (storage : Staking.Storage) (user : Addr) : Option Deposit :=
  (storage.stakes.mayLoad user).map fun entry => { amount := entry.amount.toNat, since := entry.stakeTime }

/-- The pool's own tokens are among the totals, not in a position. -/
def position (user : Addr) : Position where
  deposit := depositOf world.staking user
  balance := if user = host.staking then 0 else Cw20Token.balanceOf world.token user
  allowance := Cw20Token.allowanceOf world.token user

def totals : Totals where
  staked := world.staking.totalStaked.toNat
  pool := poolBalance host world
  supply := world.token.tokenInfo.totalSupply.toNat
  config := world.staking.config
  ownership := world.staking.ownership
  tokenInfo := { world.token.tokenInfo with totalSupply := Word.zero }

def view : State Addr Position Totals where
  own := position host world
  shared := totals host world

end View

/-- Two worlds that nobody can tell apart: absent balances and allowances are zeros. -/
structure World.Same (first second : World) : Prop where
  staking : first.staking = second.staking
  tokenInfo : first.token.tokenInfo = second.token.tokenInfo
  balances : Cw20Token.balanceOf first.token = Cw20Token.balanceOf second.token
  allowances : Cw20Token.allowanceOf first.token = Cw20Token.allowanceOf second.token

theorem World.Same.refl (world : World) : world.Same world := ⟨rfl, rfl, rfl, rfl⟩

/-- Worlds that nobody can tell apart are equal where the same keys have been written. -/
theorem World.Same.eq {world next : World} (same : world.Same next)
    (balances : ∀ account, account ∈ world.token.balances ↔ account ∈ next.token.balances)
    (allowances : ∀ pair, pair ∈ world.token.allowances ↔ pair ∈ next.token.allowances) :
    world = next := by
  have injective : Function.Injective (Word.toNat : Uint128 → Nat) := fun _ _ => Word.ext
  have sameBalances : world.token.balances = next.token.balances :=
    Map.ext_of_value Word.toNat injective balances (congrFun same.balances)
  have sameAllowances : world.token.allowances = next.token.allowances :=
    Map.ext_of_value Word.toNat injective allowances
      (fun pair => congrFun (congrFun same.allowances pair.1) pair.2)
  obtain ⟨⟨info, held, allowed⟩, staking⟩ := world
  obtain ⟨⟨info', held', allowed'⟩, staking'⟩ := next
  obtain rfl : info = info' := same.tokenInfo
  obtain rfl : held = held' := sameBalances
  obtain rfl : allowed = allowed' := sameAllowances
  obtain rfl : staking = staking' := same.staking
  rfl

/-- A deposit shows all there is in an entry. -/
theorem entries_of_deposits {first second : Staking.Storage} {user : Addr}
    (same : depositOf first user = depositOf second user) :
    first.stakes.mayLoad user = second.stakes.mayLoad user := by
  unfold depositOf at same
  refine Option.map_injective ?_ same
  intro entry other equal
  have amounts : entry.amount.toNat = other.amount.toNat := congrArg Deposit.amount equal
  have times : entry.stakeTime = other.stakeTime := congrArg Deposit.since equal
  cases entry
  cases other
  cases Word.ext amounts
  cases times
  rfl

theorem depositOf_injective {first second : Staking.Storage}
    (same : depositOf first = depositOf second) : first.stakes = second.stakes := by
  apply Finmap.ext_lookup
  intro user
  have deposits := congrFun same user
  exact entries_of_deposits deposits

/-- The view loses nothing that anybody can tell. -/
theorem same_of_view {host : Host} {first second : World} (equal : view host first = view host second) :
    first.Same second := by
  have positions : ∀ user, position host first user = position host second user :=
    fun user => congrFun (congrArg State.own equal) user
  have shared : totals host first = totals host second := congrArg State.shared equal
  have deposits : depositOf first.staking = depositOf second.staking :=
    funext fun user => congrArg Position.deposit (positions user)
  have staked : first.staking.totalStaked.toNat = second.staking.totalStaked.toNat :=
    Int.ofNat.inj (congrArg Totals.staked shared)
  have supply : first.token.tokenInfo.totalSupply.toNat = second.token.tokenInfo.totalSupply.toNat :=
    congrArg Totals.supply shared
  have pool : poolBalance host first = poolBalance host second :=
    Int.ofNat.inj (congrArg Totals.pool shared)
  have details : { first.token.tokenInfo with totalSupply := Word.zero } =
      { second.token.tokenInfo with totalSupply := Word.zero } := congrArg Totals.tokenInfo shared
  refine ⟨?_, ?_, ?_, ?_⟩
  · have config : first.staking.config = second.staking.config := congrArg Totals.config shared
    have ownership : first.staking.ownership = second.staking.ownership :=
      congrArg Totals.ownership shared
    have stakes := depositOf_injective deposits
    have total := Word.ext staked
    revert config ownership stakes total
    cases first.staking
    cases second.staking
    rintro rfl rfl rfl rfl
    rfl
  · have total := Word.ext supply
    revert details total
    cases first.token.tokenInfo
    cases second.token.tokenInfo
    rintro details rfl
    cases details
    rfl
  · funext user
    by_cases own : user = host.staking
    · subst own
      exact pool
    · have balance := congrArg Position.balance (positions user)
      change (if user = host.staking then 0 else _) = if user = host.staking then 0 else _ at balance
      rw [if_neg own, if_neg own] at balance
      exact balance
  · funext user
    exact congrArg Position.allowance (positions user)

end CosmwasmContracts.System
