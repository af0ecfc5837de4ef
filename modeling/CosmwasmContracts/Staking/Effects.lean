import CosmwasmContracts.Staking.Contract

/-! What each staking message can do. Every message that succeeds has one of seven
effects, and a payout is priced by one exact quotient. Later invariants are proved
from these effects and never unfold the contract again. -/

namespace CosmwasmContracts.Staking
open Library.CheckedWord Library.FiniteMap Library.TransactionMachine CosmwasmStd CwOwnable

/-- Basis points of a year, in seconds. -/
def rewardUnit : Nat := 10000 * 31536000

/-- The reward as one quotient of natural numbers. -/
def exactReward (amount apr seconds : Nat) : Nat := amount * apr * seconds / rewardUnit

theorem exactReward_mul_le (amount apr seconds : Nat) :
    rewardUnit * exactReward amount apr seconds ≤ amount * apr * seconds :=
  Nat.mul_div_le _ _

theorem product_degenerate {amount apr seconds : Nat} (degenerate : amount = 0 ∨ seconds = 0 ∨ apr = 0) :
    amount * apr * seconds = 0 := by
  rcases degenerate with none | none | none <;> simp [none]

/-- The checked chain succeeds exactly when the whole product fits 128 bits, and the
two nested divisions are then one. -/
theorem calculateRewardApr_eq_ok {E : Type} {stakeAmount reward : Uint128}
    {stakedSeconds annualRateBps : Word 64} :
    (calculateRewardApr stakeAmount stakedSeconds annualRateBps : Result E Uint128) = .ok reward ↔
      stakeAmount.toNat * annualRateBps.toNat * stakedSeconds.toNat < 2 ^ 128 ∧
      reward.toNat = exactReward stakeAmount.toNat annualRateBps.toNat stakedSeconds.toNat := by
  unfold calculateRewardApr exactReward
  split
  next degenerate =>
    rw [Bool.or_eq_true, Bool.or_eq_true, Word.isZero_eq_true, Word.isZero_eq_true,
      Word.isZero_eq_true, or_assoc] at degenerate
    rw [product_degenerate degenerate, Nat.zero_div, Except.ok.injEq, Word.ext_iff, Word.zero_toNat]
    exact ⟨fun same => ⟨by decide, same.symm⟩, fun same => same.2.symm⟩
  next proper =>
    have positive : 1 ≤ stakedSeconds.toNat := by
      by_contra zero
      have none : stakedSeconds.toNat = 0 := by omega
      simp [none] at proper
    simp only [bind_eq_ok, unwrap_eq_ok, Word.checkedMul_eq_some, Word.checkedDiv_eq_some]
    constructor
    · rintro ⟨rated, ratedEq, timed, timedEq, days, ⟨_, daysEq⟩, _, rewardEq⟩
      change timed.toNat = rated.toNat * stakedSeconds.toNat at timedEq
      rw [ratedEq] at timedEq
      refine ⟨lt_of_eq_of_lt timedEq.symm timed.fits, ?_⟩
      rw [rewardEq, daysEq, timedEq, Nat.div_div_eq_div_mul]
      rfl
    · rintro ⟨fits, rewardEq⟩
      have rateFits : stakeAmount.toNat * annualRateBps.toNat < 2 ^ 128 :=
        lt_of_le_of_lt (Nat.le_mul_of_pos_right _ positive) fits
      refine ⟨⟨_, rateFits⟩, rfl, ⟨_, fits⟩, rfl,
        ⟨_, lt_of_le_of_lt (Nat.div_le_self _ 10000) fits⟩, ⟨by decide, rfl⟩, by decide, ?_⟩
      rw [rewardEq]
      change _ = _ / 10000 / 31536000
      rw [Nat.div_div_eq_div_mul]
      rfl

/-- The reward computation panics or returns; it has no error of its own. -/
theorem calculateRewardApr_ne_error {E : Type} {stakeAmount : Uint128}
    {stakedSeconds annualRateBps : Word 64} {reason : E} :
    (calculateRewardApr stakeAmount stakedSeconds annualRateBps : Result E Uint128) ≠
      .error (.error reason) := by
  unfold calculateRewardApr
  split
  next => simp
  next =>
    simp only [ne_eq, bind_eq_error, unwrap_ne_error, false_or, and_false, exists_false,
      not_false_eq_true]

theorem elapsedSeconds_eq_ok {E : Type} {now since : Timestamp} {elapsed : Word 64} :
    (elapsedSeconds now since : Result E (Word 64)) = .ok elapsed ↔
      elapsed.toNat + since.seconds.toNat = now.seconds.toNat := by
  rw [elapsedSeconds, unwrap_eq_ok, Word.checkedSub_eq_some]

/-- A clock that is not ahead of the block has run for the whole seconds between them. -/
theorem elapsedSeconds_of_le (E : Type) {now since : Timestamp}
    (started : since.seconds.toNat ≤ now.seconds.toNat) :
    ∃ elapsed, (elapsedSeconds now since : Result E (Word 64)) = .ok elapsed ∧
      elapsed.toNat = now.seconds.toNat - since.seconds.toNat := by
  obtain ⟨elapsed, difference⟩ := Word.checkedSub_of_le started
  refine ⟨elapsed, unwrap_eq_ok.mpr difference, ?_⟩
  rw [Word.checkedSub_eq_some] at difference
  omega

theorem loadStake_eq_ok {storage : Storage} {sender : Addr} {entry : StakeInfo} :
    loadStake storage sender = .ok entry ↔ storage.stakes.mayLoad sender = some entry := by
  rw [loadStake, into_eq_ok, okOr_eq_ok]

/-- What an address has staked, zero where it has no entry. -/
def stakedAmount (storage : Storage) (user : Addr) : Nat :=
  Map.value (fun entry => entry.amount.toNat) storage.stakes user

/-- The conditions and the price of a payout: an entry past its lockup, whose product
fits, pays the exact reward for the whole seconds since its time. -/
structure Payout (storage : Storage) (now : Timestamp) (user : Addr) (entry : StakeInfo)
    (reward : Uint128) : Prop where
  present : storage.stakes.mayLoad user = some entry
  started : entry.stakeTime.seconds.toNat ≤ now.seconds.toNat
  unlocked : storage.config.lockupPeriod.toNat ≤ now.seconds.toNat - entry.stakeTime.seconds.toNat
  representable : entry.amount.toNat * storage.config.apr.toNat *
    (now.seconds.toNat - entry.stakeTime.seconds.toNat) < 2 ^ 128
  exact : reward.toNat = exactReward entry.amount.toNat storage.config.apr.toNat
    (now.seconds.toNat - entry.stakeTime.seconds.toNat)

/-- The storage and the time leave one entry and one reward to pay. -/
theorem Payout.unique {storage : Storage} {now : Timestamp} {user : Addr} {entry other : StakeInfo}
    {reward price : Uint128} (payout : Payout storage now user entry reward)
    (again : Payout storage now user other price) : other = entry ∧ price = reward := by
  have same : other = entry := Option.some.inj (again.present.symm.trans payout.present)
  subst same
  exact ⟨rfl, Word.ext (again.exact.trans payout.exact.symm)⟩

def depositMsg (storage : Storage) (contract sender : Addr) (amount : Uint128) : CosmosMsg :=
  { contractAddr := storage.config.tokenAddress.text,
    msg := .transferFrom sender.text contract.text amount }

def withdrawMsg (storage : Storage) (sender : Addr) (amount : Uint128) : CosmosMsg :=
  { contractAddr := storage.config.tokenAddress.text, msg := .transfer sender.text amount }

def rewardMsgs (storage : Storage) (sender : Addr) (reward : Uint128) : List CosmosMsg :=
  if reward.isZero then [] else [mintMsg storage sender reward]

theorem rewardMsgs_of_positive (storage : Storage) (sender : Addr) {reward : Uint128}
    (positive : reward.toNat ≠ 0) : rewardMsgs storage sender reward = [mintMsg storage sender reward] := by
  rw [← Word.isZero_eq_false] at positive
  rw [rewardMsgs, positive]
  rfl

inductive Effect (before : Storage) (now : Timestamp) (contract sender : Addr) :
    ExecuteMsg → Storage → List CosmosMsg → Prop where
  | opened (amount total : Uint128) (absent : before.stakes.mayLoad sender = none)
      (sum : total.toNat = before.totalStaked.toNat + amount.toNat) :
      Effect before now contract sender (.stake amount)
        { before with
          stakes := before.stakes.save sender { amount := amount, stakeTime := now },
          totalStaked := total }
        [depositMsg before contract sender amount]
  | toppedUp (amount held total : Uint128) (entry : StakeInfo)
      (present : before.stakes.mayLoad sender = some entry)
      (grown : held.toNat = entry.amount.toNat + amount.toNat)
      (sum : total.toNat = before.totalStaked.toNat + amount.toNat) :
      Effect before now contract sender (.stake amount)
        { before with
          stakes := before.stakes.save sender { amount := held, stakeTime := entry.stakeTime },
          totalStaked := total }
        [depositMsg before contract sender amount]
  | reduced (amount rest reward total : Uint128) (entry : StakeInfo)
      (payout : Payout before now sender entry reward) (positive : rest.toNat ≠ 0)
      (parts : rest.toNat + amount.toNat = entry.amount.toNat)
      (remains : total.toNat + amount.toNat = before.totalStaked.toNat) :
      Effect before now contract sender (.unstake amount)
        { before with
          stakes := before.stakes.save sender { amount := rest, stakeTime := now },
          totalStaked := total }
        (rewardMsgs before sender reward ++ [withdrawMsg before sender amount])
  | closed (amount reward total : Uint128) (entry : StakeInfo)
      (payout : Payout before now sender entry reward) (all : amount.toNat = entry.amount.toNat)
      (remains : total.toNat + amount.toNat = before.totalStaked.toNat) :
      Effect before now contract sender (.unstake amount)
        { before with stakes := before.stakes.remove sender, totalStaked := total }
        (rewardMsgs before sender reward ++ [withdrawMsg before sender amount])
  | claimed (reward : Uint128) (entry : StakeInfo)
      (payout : Payout before now sender entry reward) (positive : reward.toNat ≠ 0) :
      Effect before now contract sender .claimRewards
        { before with
          stakes := before.stakes.save sender { amount := entry.amount, stakeTime := now } }
        [mintMsg before sender reward]
  | reconfigured (newApr newLockupPeriod : Word 64) :
      Effect before now contract sender (.changeConfig newApr newLockupPeriod)
        { before with
          config :=
            { tokenAddress := before.config.tokenAddress,
              apr := newApr,
              lockupPeriod := newLockupPeriod } }
        []
  | reowned (action : Action) (ownership : Ownership) :
      Effect before now contract sender (.updateOwnership action)
        { before with ownership := ownership } []

/-- The reward an address's next payout would compute, by the contract's own steps. -/
def computedReward (storage : Storage) (now : Timestamp) (user : Addr) : Result ContractError Uint128 := do
  let stakeInfo ← loadStake storage user
  let stakedTime ← elapsedSeconds now stakeInfo.stakeTime
  calculateRewardApr stakeInfo.amount stakedTime storage.config.apr

theorem computedReward_of_payout {storage : Storage} {now : Timestamp} {user : Addr} {entry : StakeInfo}
    {reward : Uint128} (payout : Payout storage now user entry reward) :
    computedReward storage now user = .ok reward := by
  obtain ⟨elapsed, since, seconds⟩ := elapsedSeconds_of_le ContractError payout.started
  refine bind_eq_ok.mpr ⟨entry, loadStake_eq_ok.mpr payout.present, ?_⟩
  refine bind_eq_ok.mpr ⟨elapsed, since, ?_⟩
  rw [calculateRewardApr_eq_ok, seconds]
  exact ⟨payout.representable, payout.exact⟩

section Inversion

variable {api : Api} {ownable : Package} {before next : Storage} {env : Env} {info : MessageInfo}
variable {response : Response} {amount : Uint128}

theorem executeStake_effect (success : executeStake before env info amount = .ok (next, response)) :
    Effect before env.block.time env.contractAddress info.sender (.stake amount) next
      response.messages := by
  unfold executeStake at success
  obtain ⟨stakes, updated, success⟩ := bind_eq_ok.mp success
  obtain ⟨total, sum, success⟩ := bind_eq_ok.mp success
  rw [into_eq_ok] at updated
  rw [unwrap_eq_ok, Word.checkedAdd_eq_some] at sum
  cases success
  obtain ⟨entry, written, rfl⟩ := update_eq_ok.mp updated
  cases stored : before.stakes.mayLoad info.sender with
  | none =>
    rw [stored] at written
    cases written
    exact Effect.opened amount total stored sum
  | some old =>
    rw [stored] at written
    obtain ⟨held, grown, written⟩ := bind_eq_ok.mp written
    rw [unwrap_eq_ok, Word.checkedAdd_eq_some] at grown
    cases written
    exact Effect.toppedUp amount held total old stored grown sum

/-- The two guards of a payout, as the contract computes them. -/
theorem payout_of_checks {entry : StakeInfo} {reward : Uint128} {elapsed : Word 64}
    (present : before.stakes.mayLoad info.sender = some entry)
    (since : elapsed.toNat + entry.stakeTime.seconds.toNat = env.block.time.seconds.toNat)
    (unlocked : ¬ elapsed.toNat < before.config.lockupPeriod.toNat)
    (priced : (calculateRewardApr entry.amount elapsed before.config.apr :
      Result ContractError Uint128) = .ok reward) :
    Payout before env.block.time info.sender entry reward := by
  have seconds : elapsed.toNat =
      env.block.time.seconds.toNat - entry.stakeTime.seconds.toNat := by omega
  rw [calculateRewardApr_eq_ok, seconds] at priced
  exact ⟨present, by omega, by omega, priced.1, priced.2⟩

theorem executeUnstake_effect
    (success : executeUnstake before env info amount = .ok (next, response)) :
    Effect before env.block.time env.contractAddress info.sender (.unstake amount) next
      response.messages := by
  unfold executeUnstake at success
  obtain ⟨entry, present, success⟩ := bind_eq_ok.mp success
  rw [loadStake_eq_ok] at present
  rw [guard_eq_ok] at success
  obtain ⟨covered, success⟩ := success
  obtain ⟨elapsed, since, success⟩ := bind_eq_ok.mp success
  rw [elapsedSeconds_eq_ok] at since
  rw [guard_eq_ok] at success
  obtain ⟨unlocked, success⟩ := success
  obtain ⟨reward, priced, success⟩ := bind_eq_ok.mp success
  obtain ⟨rest, parts, success⟩ := bind_eq_ok.mp success
  obtain ⟨total, remains, success⟩ := bind_eq_ok.mp success
  rw [unwrap_eq_ok, Word.checkedSub_eq_some] at parts
  rw [into_eq_ok, okOr_eq_ok, Word.checkedSub_eq_some] at remains
  have payout := payout_of_checks present since unlocked priced
  cases success
  cases zero : rest.isZero with
  | true =>
    rw [Word.isZero_eq_true] at zero
    have all : amount.toNat = entry.amount.toNat := by omega
    exact Effect.closed amount reward total entry payout all remains
  | false =>
    rw [Word.isZero_eq_false] at zero
    exact Effect.reduced amount rest reward total entry payout zero parts remains

theorem executeClaimRewards_effect
    (success : executeClaimRewards before env info = .ok (next, response)) :
    Effect before env.block.time env.contractAddress info.sender .claimRewards next
      response.messages := by
  unfold executeClaimRewards at success
  obtain ⟨entry, present, success⟩ := bind_eq_ok.mp success
  rw [loadStake_eq_ok] at present
  obtain ⟨elapsed, since, success⟩ := bind_eq_ok.mp success
  rw [elapsedSeconds_eq_ok] at since
  rw [guard_eq_ok] at success
  obtain ⟨unlocked, success⟩ := success
  obtain ⟨reward, priced, success⟩ := bind_eq_ok.mp success
  rw [guard_eq_ok] at success
  obtain ⟨positive, success⟩ := success
  rw [Word.isZero_eq_true] at positive
  cases success
  exact Effect.claimed reward entry (payout_of_checks present since unlocked priced) positive

theorem execute_effect {msg : ExecuteMsg}
    (success : execute api ownable before env info msg = .ok (next, response)) :
    Effect before env.block.time env.contractAddress info.sender msg next response.messages := by
  cases msg with
  | stake amount => exact executeStake_effect success
  | unstake amount => exact executeUnstake_effect success
  | claimRewards => exact executeClaimRewards_effect success
  | changeConfig newApr newLockupPeriod =>
    obtain ⟨_, _, success⟩ := bind_eq_ok.mp success
    cases success
    exact Effect.reconfigured newApr newLockupPeriod
  | updateOwnership action =>
    obtain ⟨ownership, _, success⟩ := bind_eq_ok.mp success
    cases success
    exact Effect.reowned action ownership

/-- What an Unstake sends, whether or not it empties its entry. -/
theorem unstake_effect_messages {now : Timestamp} {contract sender : Addr} {messages : List CosmosMsg}
    (effect : Effect before now contract sender (.unstake amount) next messages) :
    ∃ entry reward, Payout before now sender entry reward ∧
      amount.toNat ≤ entry.amount.toNat ∧
      next.totalStaked.toNat + amount.toNat = before.totalStaked.toNat ∧
      messages = rewardMsgs before sender reward ++ [withdrawMsg before sender amount] := by
  cases effect with
  | reduced _ rest reward total entry payout positive parts remains =>
    exact ⟨entry, reward, payout, by omega, remains, rfl⟩
  | closed _ reward total entry payout all remains =>
    exact ⟨entry, reward, payout, all.le, remains, rfl⟩

theorem stake_effect_opens {now : Timestamp} {contract sender : Addr} {messages : List CosmosMsg}
    (effect : Effect before now contract sender (.stake amount) next messages)
    (absent : before.stakes.mayLoad sender = none) :
    next.stakes.mayLoad sender = some { amount := amount, stakeTime := now } ∧
      messages = [depositMsg before contract sender amount] := by
  cases effect with
  | opened _ total missing sum => exact ⟨Map.mayLoad_save_self _ _ _, rfl⟩
  | toppedUp _ held total entry present grown sum => cases absent.symm.trans present

/-- Taking everything out removes the entry. -/
theorem unstake_effect_closes {now : Timestamp} {contract sender : Addr} {messages : List CosmosMsg}
    (effect : Effect before now contract sender (.unstake amount) next messages) {entry : StakeInfo}
    (present : before.stakes.mayLoad sender = some entry) (all : entry.amount.toNat = amount.toNat) :
    next.stakes.mayLoad sender = none := by
  cases effect with
  | closed _ reward total other payout whole remains => exact Map.mayLoad_remove_self _ _
  | reduced _ rest reward total other payout positive parts remains =>
    cases present.symm.trans payout.present
    omega

/-- A payout covered by the entry and the total is never refused. -/
theorem executeUnstake_succeeds {entry : StakeInfo} {reward : Uint128}
    (payout : Payout before env.block.time info.sender entry reward)
    (covered : amount.toNat ≤ entry.amount.toNat)
    (counted : amount.toNat ≤ before.totalStaked.toNat) :
    ∃ next response, executeUnstake before env info amount = .ok (next, response) := by
  obtain ⟨rest, parts⟩ := Word.checkedSub_of_le covered
  obtain ⟨total, remains⟩ := Word.checkedSub_of_le counted
  obtain ⟨elapsed, since, seconds⟩ := elapsedSeconds_of_le ContractError payout.started
  have unlocked := payout.unlocked
  rw [← seconds] at unlocked
  have priced : (calculateRewardApr entry.amount elapsed before.config.apr :
      Result ContractError Uint128) = .ok reward := by
    rw [calculateRewardApr_eq_ok, seconds]
    exact ⟨payout.representable, payout.exact⟩
  unfold executeUnstake loadStake
  simp only [payout.present, okOr, into, since, unwrap, bind, Except.bind,
    if_neg (Nat.not_lt.mpr covered), if_neg (Nat.not_lt.mpr unlocked), priced, parts, remains,
    pure, Except.pure]
  exact ⟨_, _, rfl⟩

/-- A claim of something is never refused. -/
theorem executeClaimRewards_succeeds {entry : StakeInfo} {reward : Uint128}
    (payout : Payout before env.block.time info.sender entry reward) (positive : reward.toNat ≠ 0) :
    ∃ next response, executeClaimRewards before env info = .ok (next, response) := by
  obtain ⟨elapsed, since, seconds⟩ := elapsedSeconds_of_le ContractError payout.started
  have unlocked := payout.unlocked
  rw [← seconds] at unlocked
  have priced : (calculateRewardApr entry.amount elapsed before.config.apr :
      Result ContractError Uint128) = .ok reward := by
    rw [calculateRewardApr_eq_ok, seconds]
    exact ⟨payout.representable, payout.exact⟩
  have nonzero : ¬reward.isZero = true := by simpa using positive
  unfold executeClaimRewards loadStake
  simp only [payout.present, okOr, into, since, bind, Except.bind, if_neg (Nat.not_lt.mpr unlocked),
    priced, if_neg nonzero, pure, Except.pure]
  exact ⟨_, _, rfl⟩

/-- A deposit that the entry and the total have room for is never refused. -/
theorem executeStake_succeeds (entryRoom : stakedAmount before info.sender + amount.toNat < 2 ^ 128)
    (totalRoom : before.totalStaked.toNat + amount.toNat < 2 ^ 128) :
    ∃ next response, executeStake before env info amount = .ok (next, response) := by
  have written : ∃ entry, topUp env.block.time amount (before.stakes.mayLoad info.sender) = .ok entry := by
    cases stored : before.stakes.mayLoad info.sender with
    | none => exact ⟨_, rfl⟩
    | some entry =>
      rw [stakedAmount, Map.value_of_some _ stored] at entryRoom
      exact ⟨_, bind_eq_ok.mpr ⟨_, unwrap_eq_ok.mpr (Word.checkedAdd_of_lt entryRoom), rfl⟩⟩
  obtain ⟨entry, written⟩ := written
  have updated := update_eq_ok.mpr ⟨entry, written, rfl⟩
  have sum := Word.checkedAdd_of_lt totalRoom
  unfold executeStake
  simp only [updated, into, sum, unwrap, bind, Except.bind, pure, Except.pure]
  exact ⟨_, _, rfl⟩

end Inversion

end CosmwasmContracts.Staking
