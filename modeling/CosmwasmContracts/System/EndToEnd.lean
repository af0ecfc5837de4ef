import CosmwasmContracts.System.Operations

/-! Stake and Unstake end to end, through both contracts: exactly when each goes through,
every figure it moves and by how much, and that it leaves everything else alone. -/

namespace CosmwasmContracts.System
open Library.CheckedWord Library.FiniteMap Library.TransactionMachine Library.TimedHistory
  Library.LocalAction CosmwasmStd CwOwnable Staking

/-- Everything that a message of `user` has no business with is as it was. -/
structure Undisturbed (host : Host) (user : Addr) (world next : World) : Prop where
  entries : ∀ other, other ≠ user →
    next.staking.stakes.mayLoad other = world.staking.stakes.mayLoad other
  balances : ∀ other, other ≠ user → other ≠ host.staking →
    Cw20Token.balanceOf next.token other = Cw20Token.balanceOf world.token other
  allowances : ∀ owner spender, owner ≠ user →
    Cw20Token.allowanceOf next.token owner spender = Cw20Token.allowanceOf world.token owner spender
  config : next.staking.config = world.staking.config
  ownership : next.staking.ownership = world.staking.ownership
  tokenInfo : next.token.tokenInfo =
    { world.token.tokenInfo with totalSupply := next.token.tokenInfo.totalSupply }

section Reading

variable {host : Host} {world next : World} {user : Addr}

/-- An entry can be read off the deposit it shows as. -/
theorem entry_of_deposit {storage : Staking.Storage} {deposit : Deposit}
    (held : depositOf storage user = some deposit) :
    ∃ entry, storage.stakes.mayLoad user = some entry ∧ entry.amount.toNat = deposit.amount ∧
      entry.stakeTime = deposit.since := by
  obtain ⟨entry, present, rfl⟩ := Option.map_eq_some_iff.mp held
  exact ⟨entry, present, rfl, rfl⟩

theorem stakedAmount_of_deposit (storage : Staking.Storage) (user : Addr) :
    stakedAmount storage user = ((depositOf storage user).map Deposit.amount).getD 0 := by
  cases stored : storage.stakes.mayLoad user with
  | none =>
    rw [stakedAmount_of_absent stored, depositOf_of_absent stored]
    rfl
  | some entry =>
    rw [stakedAmount_of_present stored, depositOf_of_present stored]
    rfl

theorem undisturbed_of_view {action : Action Position Posting}
    (equal : view host next = perform Totals.post user action (view host world)) :
    Undisturbed host user world next := by
  have positions : ∀ other, other ≠ user → position host next other = position host world other := by
    intro other different
    have own := congrFun (congrArg State.own equal) other
    rw [perform_own_of_ne _ _ _ different] at own
    exact own
  have shared := congrArg State.shared equal
  have details : { next.token.tokenInfo with totalSupply := Word.zero } =
      { world.token.tokenInfo with totalSupply := Word.zero } := congrArg Totals.tokenInfo shared
  refine ⟨?_, ?_, ?_, congrArg Totals.config shared, congrArg Totals.ownership shared, ?_⟩
  · intro other different
    exact entries_of_deposits (congrArg Position.deposit (positions other different))
  · intro other different outside
    have balance := congrArg Position.balance (positions other different)
    change (if other = host.staking then 0 else _) = if other = host.staking then 0 else _ at balance
    rw [if_neg outside, if_neg outside] at balance
    exact balance
  · intro owner spender different
    exact congrFun (congrArg Position.allowance (positions owner different)) spender
  · revert details
    cases next.token.tokenInfo
    cases world.token.tokenInfo
    intro details
    cases details
    rfl

end Reading

section Stake

/-- What a Stake that went through did, figure by figure. -/
structure Staked (host : Host) (user : Addr) (amount : Nat) (world next : World) : Prop
    extends Undisturbed host user world next where
  balance : Cw20Token.balanceOf next.token user + amount = Cw20Token.balanceOf world.token user
  allowance : Cw20Token.allowanceOf next.token user host.staking + amount =
    Cw20Token.allowanceOf world.token user host.staking
  otherAllowances : ∀ spender, spender ≠ host.staking →
    Cw20Token.allowanceOf next.token user spender = Cw20Token.allowanceOf world.token user spender
  pool : poolBalance host next = poolBalance host world + amount
  entry : stakedAmount next.staking user = stakedAmount world.staking user + amount
  total : next.staking.totalStaked.toNat = world.staking.totalStaked.toNat + amount
  supply : next.token.tokenInfo.totalSupply = world.token.tokenInfo.totalSupply

variable {host : Host} {world next : World} {block : BlockInfo} {user : Addr} {amount : Uint128}
variable {response : Response}

theorem stake_staked (outside : user ≠ host.staking)
    (covered : amount.toNat ≤ Cw20Token.balanceOf world.token user)
    (allowed : amount.toNat ≤ Cw20Token.allowanceOf world.token user host.staking)
    (commits : (system host).exec world (operationTx block user (.stake amount)) = .ok (next, response)) :
    Staked host user amount.toNat world next := by
  have equal := (operation_view outside commits).1
  have own := congrFun (congrArg State.own equal) user
  rw [perform_own_self] at own
  have shared := congrArg State.shared equal
  have balance := congrArg Position.balance own
  change (if user = host.staking then 0 else _) = (if user = host.staking then 0 else _) - _ at balance
  rw [if_neg outside, if_neg outside] at balance
  have allowances := fun spender => congrFun (congrArg Position.allowance own) spender
  change ∀ spender, Cw20Token.allowanceOf next.token user spender =
    Cw20Token.allowanceOf world.token user spender - if spender = host.staking then _ else _ at allowances
  have deposit := congrArg Position.deposit own
  change depositOf next.staking user = some _ at deposit
  have staked := congrArg Totals.staked shared
  change (next.staking.totalStaked.toNat : Int) = world.staking.totalStaked.toNat + amount.toNat at staked
  have pool := congrArg Totals.pool shared
  change (poolBalance host next : Int) = poolBalance host world + amount.toNat at pool
  have supply : next.token.tokenInfo.totalSupply.toNat = world.token.tokenInfo.totalSupply.toNat + 0 :=
    congrArg Totals.supply shared
  refine
    { undisturbed_of_view equal with
      balance := ?_
      allowance := ?_
      otherAllowances := ?_
      pool := by omega
      entry := ?_
      total := by omega
      supply := Word.ext supply }
  · rw [balance]
    exact Nat.sub_add_cancel covered
  · rw [allowances, if_pos rfl]
    exact Nat.sub_add_cancel allowed
  · intro spender other
    rw [allowances, if_neg other, Nat.sub_zero]
  · rw [stakedAmount_of_deposit, stakedAmount_of_deposit, deposit]
    change (Terms.increased block.time amount.toNat (depositOf world.staking user)).amount = _
    cases depositOf world.staking user with
    | none => exact (Nat.zero_add _).symm
    | some held => rfl

end Stake

/-- In every reachable state, for a sender other than the staking contract: a Stake goes
through exactly when its sender's balance and allowance cover it, and then no addition
overflows on the way; it moves its amount and nothing else, and one that fails changes
nothing. The host accepts the addresses of the sender and of its own contract. -/
theorem stake_end_to_end (host : Host) (world : World) (launched : Launched host world) (txs : List Tx)
    (external : ∀ tx ∈ txs, tx.External host) (state : World)
    (arrived : state = (system host).run world txs) (block : BlockInfo) (user : Addr)
    (outside : user ≠ host.staking) (known : host.Accepts user) (ownKnown : host.Accepts host.staking)
    (amount : Uint128) :
    ((system host).Commits state ⟨block, user, .staking (.stake amount)⟩ ↔
      amount.toNat ≤ Cw20Token.balanceOf state.token user ∧
        amount.toNat ≤ Cw20Token.allowanceOf state.token user host.staking) ∧
    (amount.toNat ≤ Cw20Token.balanceOf state.token user →
      stakedAmount state.staking user + amount.toNat < 2 ^ 128 ∧
        state.staking.totalStaked.toNat + amount.toNat < 2 ^ 128 ∧
        poolBalance host state + amount.toNat < 2 ^ 128 ∧
        ∃ next response, executeStake state.staking ⟨block, host.staking⟩ ⟨user⟩ amount =
          .ok (next, response)) ∧
    (∀ next response,
      (system host).exec state ⟨block, user, .staking (.stake amount)⟩ = .ok (next, response) →
        Staked host user amount.toNat state next) ∧
    ∀ reason, (system host).exec state ⟨block, user, .staking (.stake amount)⟩ = .error reason →
      (system host).deliver state ⟨block, user, .staking (.stake amount)⟩ = state := by
  have healthy : Healthy host state := arrived ▸ run_healthy launched external
  have commits_iff : (system host).Commits state (operationTx block user (.stake amount)) ↔ _ :=
    stake_commits_iff healthy outside
  refine ⟨?_, ?_, ?_, fun reason fails => Machine.deliver_error _ fails⟩
  · exact commits_iff.trans ⟨fun ready => ready.2.2, fun covered => ⟨known, ownKnown, covered⟩⟩
  · intro covered
    obtain ⟨pool, total, entry⟩ := stake_room healthy outside covered
    exact ⟨entry, total, pool, executeStake_succeeds entry total⟩
  · intro next response commits
    obtain ⟨_, _, covered, allowed⟩ := commits_iff.mp ⟨next, response, commits⟩
    exact stake_staked outside covered allowed commits

theorem stake_end_to_end_mixedHistory :
    (system testHost).Commits ((system testHost).run testWorld mixedHistory)
        ⟨Staking.blockAt 2592200, ⟨"user1"⟩, .staking (.stake (word 60000))⟩ ↔
      (word 60000 : Uint128).toNat ≤
          Cw20Token.balanceOf ((system testHost).run testWorld mixedHistory).token ⟨"user1"⟩ ∧
        (word 60000 : Uint128).toNat ≤
          Cw20Token.allowanceOf ((system testHost).run testWorld mixedHistory).token ⟨"user1"⟩
            testHost.staking :=
  (stake_end_to_end testHost testWorld testWorld_launched mixedHistory (by decide) _ rfl
    (Staking.blockAt 2592200) ⟨"user1"⟩ (by decide) rfl rfl (word 60000)).1

section Unstake

/-- What an Unstake that went through did to an entry and its reward, figure by figure. -/
structure Unstaked (host : Host) (user : Addr) (amount reward : Nat) (now : Timestamp) (entry : StakeInfo)
    (world next : World) : Prop extends Undisturbed host user world next where
  balance : Cw20Token.balanceOf next.token user =
    Cw20Token.balanceOf world.token user + amount + reward
  ownAllowances : Cw20Token.allowanceOf next.token user = Cw20Token.allowanceOf world.token user
  pool : poolBalance host next + amount = poolBalance host world
  supply : next.token.tokenInfo.totalSupply.toNat = world.token.tokenInfo.totalSupply.toNat + reward
  total : next.staking.totalStaked.toNat + amount = world.staking.totalStaked.toNat
  removed : amount = entry.amount.toNat → next.staking.stakes.mayLoad user = none
  reduced : amount ≠ entry.amount.toNat → ∃ rest,
    next.staking.stakes.mayLoad user = some { amount := rest, stakeTime := now } ∧
      rest.toNat + amount = entry.amount.toNat

variable {host : Host} {world next : World} {block : BlockInfo} {user : Addr} {amount : Uint128}
variable {response : Response}

theorem unstake_unstaked {entry : StakeInfo} {reward : Uint128} (outside : user ≠ host.staking)
    (payout : Payout world.staking block.time user entry reward)
    (commits : (system host).exec world (operationTx block user (.unstake amount)) = .ok (next, response)) :
    Unstaked host user amount.toNat reward.toNat block.time entry world next := by
  have equal := (operation_view outside commits).1
  have own := congrFun (congrArg State.own equal) user
  rw [perform_own_self] at own
  obtain ⟨accepted, sent⟩ := exec_operation.mp commits
  obtain ⟨_, _, again, covered, total, messages⟩ := unstake_effect_messages (execute_effect accepted)
  obtain ⟨same, price⟩ := payout.unique again
  rw [same] at covered
  rw [messages, price] at sent
  obtain ⟨pool, balance⟩ := payout_balance outside sent
  have deposit := congrArg Position.deposit own
  change depositOf next.staking user =
    (depositOf world.staking user).bind (Terms.decreased block.time amount.toNat) at deposit
  rw [depositOf_of_present payout.present, Option.bind_some, Terms.decreased] at deposit
  refine
    { undisturbed_of_view equal with
      balance := balance
      ownAllowances := congrArg Position.allowance own
      pool := pool
      supply := (payout_effect sent).2.2.2
      total := total
      removed := fun all => ?_
      reduced := fun part => ?_ }
  · rw [if_pos all.symm] at deposit
    exact Option.map_eq_none_iff.mp deposit
  · rw [if_neg (Ne.symm part)] at deposit
    obtain ⟨⟨rest, time⟩, present, left, restarted⟩ := entry_of_deposit deposit
    obtain rfl : time = block.time := restarted
    refine ⟨rest, present, ?_⟩
    change rest.toNat = entry.amount.toNat - amount.toNat at left
    omega

end Unstake

/-- In every reachable state, for a sender other than the staking contract and a block that
is not before the last one: an Unstake goes through exactly when an old enough entry covers
it, the product of amount, rate and seconds fits 128 bits, and the token can mint the
reward if there is one; then it pays the principal and the reward and touches nothing else. -/
theorem unstake_end_to_end (host : Host) (world : World) (launched : Launched host world) (genesis : Nat)
    (txs : List Tx) (ordered : Ordered blockNanos genesis txs)
    (external : ∀ tx ∈ txs, tx.External host) (state : World)
    (arrived : state = (system host).run world txs) (block : BlockInfo)
    (later : reached blockNanos genesis txs ≤ block.time.nanos.toNat) (user : Addr)
    (outside : user ≠ host.staking) (amount : Uint128) :
    ((system host).Commits state ⟨block, user, .staking (.unstake amount)⟩ ↔
      ∃ entry, state.staking.stakes.mayLoad user = some entry ∧
        amount.toNat ≤ entry.amount.toNat ∧
        state.staking.config.lockupPeriod.toNat ≤
          block.time.seconds.toNat - entry.stakeTime.seconds.toNat ∧
        entry.amount.toNat * state.staking.config.apr.toNat *
          (block.time.seconds.toNat - entry.stakeTime.seconds.toNat) < 2 ^ 128 ∧
        (exactReward entry.amount.toNat state.staking.config.apr.toNat
            (block.time.seconds.toNat - entry.stakeTime.seconds.toNat) = 0 ∨
          state.token.tokenInfo.minter = some host.staking ∧
          state.token.tokenInfo.totalSupply.toNat +
            exactReward entry.amount.toNat state.staking.config.apr.toNat
              (block.time.seconds.toNat - entry.stakeTime.seconds.toNat) < 2 ^ 128)) ∧
    ∀ entry next response, state.staking.stakes.mayLoad user = some entry →
      (system host).exec state ⟨block, user, .staking (.unstake amount)⟩ = .ok (next, response) →
        Unstaked host user amount.toNat
          (exactReward entry.amount.toNat state.staking.config.apr.toNat
            (block.time.seconds.toNat - entry.stakeTime.seconds.toNat))
          block.time entry state next := by
  have healthy : Healthy host state := arrived ▸ run_healthy launched external
  have clocks : TimesReached state.staking (reached blockNanos genesis txs) :=
    arrived ▸ run_clocks launched ordered
  have commits_iff : (system host).Commits state (operationTx block user (.unstake amount)) ↔ _ :=
    unstake_commits_iff healthy
  constructor
  · refine commits_iff.trans ?_
    constructor
    · rintro ⟨entry, reward, payout, covered, paid⟩
      rw [payout.exact] at paid
      exact ⟨entry, payout.present, covered, payout.unlocked, payout.representable, paid⟩
    · rintro ⟨entry, present, covered, unlocked, fits, paid⟩
      have started : entry.stakeTime.seconds.toNat ≤ block.time.seconds.toNat :=
        Timestamp.seconds_mono ((clocks user entry present).trans later)
      have small : exactReward entry.amount.toNat state.staking.config.apr.toNat
          (block.time.seconds.toNat - entry.stakeTime.seconds.toNat) < 2 ^ 128 :=
        Nat.lt_of_le_of_lt (Nat.div_le_self _ _) fits
      exact ⟨entry, ⟨_, small⟩, ⟨present, started, unlocked, fits, rfl⟩, covered, paid⟩
  · intro entry next response present commits
    obtain ⟨other, reward, payout, _, _⟩ := commits_iff.mp ⟨next, response, commits⟩
    cases present.symm.trans payout.present
    rw [← payout.exact]
    exact unstake_unstaked outside payout commits

def mixedEntry : StakeInfo :=
  { amount := word 40000, stakeTime := (Staking.blockAt 2592100).time }

theorem unstake_end_to_end_mixedHistory :
    ∃ next response, (system testHost).exec ((system testHost).run testWorld mixedHistory)
        ⟨Staking.blockAt 5184100, ⟨"user1"⟩, .staking (.unstake (word 30000))⟩ = .ok (next, response) ∧
      Unstaked testHost ⟨"user1"⟩ 30000 328 (Staking.blockAt 5184100).time mixedEntry
        ((system testHost).run testWorld mixedHistory) next := by
  obtain ⟨goes, does⟩ := unstake_end_to_end testHost testWorld testWorld_launched 0 mixedHistory
    (by decide) (by decide) _ rfl (Staking.blockAt 5184100) (by decide) ⟨"user1"⟩ (by decide) (word 30000)
  obtain ⟨next, response, commits⟩ := goes.mpr
    ⟨mixedEntry, by decide, by decide, by decide, by decide, Or.inr (by decide)⟩
  exact ⟨next, response, commits, does mixedEntry next response (by decide) commits⟩

end CosmwasmContracts.System
