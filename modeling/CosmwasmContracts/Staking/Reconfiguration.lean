import CosmwasmContracts.Staking.Payouts

/-! What a change of the configuration does to entries that are already running. Neither
the interest that has run nor the time at which an entry unlocks is stored, so both follow
the configuration in force when they are asked for. -/

namespace CosmwasmContracts.Staking
open Library.CheckedWord Library.FiniteMap Library.TransactionMachine CosmwasmStd CwOwnable

/-- An Unstake that gets past the lockup check: the entry covers it, and the whole seconds
since the entry's time are a lockup or more. -/
structure PassesLockup (storage : Storage) (now : Timestamp) (sender : Addr) (amount : Uint128)
    (entry : StakeInfo) : Prop where
  present : storage.stakes.mayLoad sender = some entry
  covered : amount.toNat ≤ entry.amount.toNat
  started : entry.stakeTime.seconds.toNat ≤ now.seconds.toNat
  unlocked : storage.config.lockupPeriod.toNat ≤ now.seconds.toNat - entry.stakeTime.seconds.toNat

/-- The product behind the interest on an address's entry up to a second at some rate,
which the contract computes in 128 bits. -/
def accruing (storage : Storage) (rate now : Nat) (user : Addr) : Nat :=
  match storage.stakes.mayLoad user with
  | some entry => entry.amount.toNat * rate * (now - entry.stakeTime.seconds.toNat)
  | none => 0

def accrued (storage : Storage) (rate now : Nat) (user : Addr) : Nat :=
  accruing storage rate now user / rewardUnit

theorem accruing_of_present {storage : Storage} {user : Addr} {entry : StakeInfo} (rate now : Nat)
    (present : storage.stakes.mayLoad user = some entry) : accruing storage rate now user =
      entry.amount.toNat * rate * (now - entry.stakeTime.seconds.toNat) := by
  simp [accruing, present]

theorem accruing_of_absent {storage : Storage} {user : Addr} (rate now : Nat)
    (absent : storage.stakes.mayLoad user = none) : accruing storage rate now user = 0 := by
  simp [accruing, absent]

theorem accrued_mono (storage : Storage) {low high : Nat} (rates : low ≤ high) (now : Nat) (user : Addr) :
    accrued storage low now user ≤ accrued storage high now user := by
  apply Nat.div_le_div_right
  cases stored : storage.stakes.mayLoad user with
  | none => rw [accruing_of_absent _ _ stored, accruing_of_absent _ _ stored]
  | some entry =>
    rw [accruing_of_present _ _ stored, accruing_of_present _ _ stored]
    exact Nat.mul_le_mul_right _ (Nat.mul_le_mul_left _ rates)

section Query

variable {api : Api} {storage : Storage} {env : Env} {address : String} {reward : Uint128}

/-- The query answers for an accepted address whose clock is not ahead of the block, when
the product fits 128 bits, and then with the exact reward. -/
theorem queryReward_eq_ok : queryReward api storage env address = .ok reward ↔
    api.addrValidate address = .ok ⟨address⟩ ∧
      (∀ entry, storage.stakes.mayLoad ⟨address⟩ = some entry →
        entry.stakeTime.seconds.toNat ≤ env.block.time.seconds.toNat) ∧
      accruing storage storage.config.apr.toNat env.block.time.seconds.toNat ⟨address⟩ < 2 ^ 128 ∧
      reward.toNat = accrued storage storage.config.apr.toNat env.block.time.seconds.toNat ⟨address⟩ := by
  unfold queryReward accrued
  rw [bind_eq_ok]
  constructor
  · rintro ⟨addr, valid, answered⟩
    obtain rfl := api.given _ _ valid
    refine ⟨valid, ?_⟩
    cases stored : storage.stakes.mayLoad ⟨address⟩ with
    | none =>
      simp only [stored] at answered
      cases answered
      rw [accruing_of_absent _ _ stored]
      exact ⟨by simp, by decide, rfl⟩
    | some entry =>
      simp only [stored] at answered
      obtain ⟨elapsed, since, priced⟩ := bind_eq_ok.mp answered
      rw [elapsedSeconds_eq_ok] at since
      have seconds : elapsed.toNat =
          env.block.time.seconds.toNat - entry.stakeTime.seconds.toNat := by omega
      rw [calculateRewardApr_eq_ok, seconds] at priced
      rw [accruing_of_present _ _ stored]
      refine ⟨?_, priced⟩
      intro other same
      cases same
      omega
  · rintro ⟨valid, started, fits, exact⟩
    refine ⟨⟨address⟩, valid, ?_⟩
    cases stored : storage.stakes.mayLoad ⟨address⟩ with
    | none =>
      rw [accruing_of_absent _ _ stored] at exact
      exact congrArg Except.ok (Word.ext exact.symm)
    | some entry =>
      rw [accruing_of_present _ _ stored] at exact fits
      obtain ⟨elapsed, since, seconds⟩ := elapsedSeconds_of_le StdError (started entry stored)
      refine bind_eq_ok.mpr ⟨elapsed, since, ?_⟩
      rw [calculateRewardApr_eq_ok, seconds]
      exact ⟨fits, exact⟩

/-- The query foretells the payout of the same block. -/
theorem queryReward_of_payout {user : Addr} {entry : StakeInfo}
    (valid : api.addrValidate user.text = .ok user)
    (payout : Payout storage env.block.time user entry reward) :
    queryReward api storage env user.text = .ok reward := by
  have started : ∀ other, storage.stakes.mayLoad user = some other →
      other.stakeTime.seconds.toNat ≤ env.block.time.seconds.toNat := by
    intro other present
    cases payout.present.symm.trans present
    exact payout.started
  refine queryReward_eq_ok.mpr ⟨valid, started, ?_⟩
  rw [accrued, accruing_of_present _ _ payout.present]
  exact ⟨payout.representable, payout.exact⟩

end Query

section Lockup

variable {storage : Storage} {env : Env} {info : MessageInfo} {amount : Uint128}

/-- An Unstake is refused as locked exactly when its entry covers it and is too young. -/
theorem executeUnstake_locked :
    executeUnstake storage env info amount = .error (.error .lockupNotExpired) ↔
      ∃ entry, storage.stakes.mayLoad info.sender = some entry ∧ amount.toNat ≤ entry.amount.toNat ∧
        entry.stakeTime.seconds.toNat ≤ env.block.time.seconds.toNat ∧
        env.block.time.seconds.toNat - entry.stakeTime.seconds.toNat <
          storage.config.lockupPeriod.toNat := by
  unfold executeUnstake
  constructor
  · intro fails
    rcases bind_eq_error.mp fails with missing | ⟨entry, present, fails⟩
    · cases stored : storage.stakes.mayLoad info.sender <;> simp [loadStake, stored, okOr, into] at missing
    rw [loadStake_eq_ok] at present
    split at fails
    next => simp at fails
    next covered =>
      rcases bind_eq_error.mp fails with early | ⟨elapsed, since, fails⟩
      · exact (unwrap_ne_error early).elim
      rw [elapsedSeconds_eq_ok] at since
      split at fails
      next locked => exact ⟨entry, present, by omega, by omega, by omega⟩
      next =>
        exfalso
        rcases bind_eq_error.mp fails with unpriced | ⟨reward, _, fails⟩
        · exact calculateRewardApr_ne_error unpriced
        rcases bind_eq_error.mp fails with short | ⟨rest, _, fails⟩
        · exact unwrap_ne_error short
        rcases bind_eq_error.mp fails with overflow | ⟨total, _, impossible⟩
        · cases left : storage.totalStaked.checkedSub amount <;> simp [left, okOr, into] at overflow
        · cases impossible
  · rintro ⟨entry, present, covered, started, locked⟩
    obtain ⟨elapsed, since, seconds⟩ := elapsedSeconds_of_le ContractError started
    rw [← seconds] at locked
    unfold loadStake
    simp only [present, okOr, into, since, bind, Except.bind, if_neg (Nat.not_lt.mpr covered),
      if_pos locked]

end Lockup

section Change

variable {before next : Storage} {newApr newLockupPeriod : Word 64}

theorem queryReward_congr {api : Api} (stakes : next.stakes = before.stakes)
    (rate : next.config.apr = before.config.apr) (env : Env) (address : String) :
    queryReward api next env address = queryReward api before env address := by
  unfold queryReward
  rw [stakes, rate]

/-- A ChangeConfig writes the two terms and nothing else. -/
theorem changeConfig_effect {now : Timestamp} {contract sender : Addr} {messages : List CosmosMsg}
    (effect : Effect before now contract sender (.changeConfig newApr newLockupPeriod) next messages) :
    next =
      { before with
        config :=
          { tokenAddress := before.config.tokenAddress,
            apr := newApr,
            lockupPeriod := newLockupPeriod } } := by
  cases effect with
  | reconfigured => rfl

end Change

/-- What a ChangeConfig does within its own block, in any state. Entries, total, token and
owner stay. Interest that has run but was not paid is repriced at the new rate over all of
its time, so that a reward reported before is reported again if the rate is the same, does
not fall if the rate rises and does not rise if it falls. An Unstake that had passed the
lockup check passes it again exactly if its entry is as old as the new lockup. -/
theorem reconfiguration_reprices (api : Api) (ownable : Package) (contract owner : Addr)
    (before next : Storage) (block : BlockInfo) (newApr newLockupPeriod : Word 64) (dispatched : Bool)
    (out : Response)
    (commits : (machine api ownable contract).exec before
      ⟨block, owner, .changeConfig newApr newLockupPeriod, dispatched⟩ = .ok (next, out)) :
    (next.stakes = before.stakes ∧ next.totalStaked = before.totalStaked ∧
      next.ownership = before.ownership ∧
      next.config.tokenAddress = before.config.tokenAddress) ∧
    (newApr = before.config.apr → ∀ address,
      queryReward api next ⟨block, contract⟩ address = queryReward api before ⟨block, contract⟩ address) ∧
    (∀ address old, queryReward api before ⟨block, contract⟩ address = .ok old →
      old.toNat = accrued before before.config.apr.toNat block.time.seconds.toNat ⟨address⟩ ∧
      ((∃ new, queryReward api next ⟨block, contract⟩ address = .ok new) ↔
        accruing before newApr.toNat block.time.seconds.toNat ⟨address⟩ < 2 ^ 128) ∧
      ∀ new, queryReward api next ⟨block, contract⟩ address = .ok new →
        new.toNat = accrued before newApr.toNat block.time.seconds.toNat ⟨address⟩ ∧
        (before.config.apr.toNat ≤ newApr.toNat → old.toNat ≤ new.toNat) ∧
        (newApr.toNat ≤ before.config.apr.toNat → new.toNat ≤ old.toNat)) ∧
    ∀ user amount entry, PassesLockup before block.time user amount entry →
      (PassesLockup next block.time user amount entry ↔
        newLockupPeriod.toNat ≤ block.time.seconds.toNat - entry.stakeTime.seconds.toNat) ∧
      (executeUnstake next ⟨block, contract⟩ ⟨user⟩ amount = .error (.error .lockupNotExpired) ↔
        block.time.seconds.toNat - entry.stakeTime.seconds.toNat < newLockupPeriod.toNat) := by
  obtain rfl := changeConfig_effect (commit_effect commits)
  refine ⟨⟨rfl, rfl, rfl, rfl⟩, ?_, ?_, ?_⟩
  · intro same address
    apply queryReward_congr
    · rfl
    · exact same
  · intro address old answered
    obtain ⟨valid, started, _, price⟩ := queryReward_eq_ok.mp answered
    refine ⟨price, ?_, ?_⟩
    · constructor
      · rintro ⟨new, repriced⟩
        exact (queryReward_eq_ok.mp repriced).2.2.1
      · intro fits
        have small : accrued before newApr.toNat block.time.seconds.toNat ⟨address⟩ < 2 ^ 128 :=
          Nat.lt_of_le_of_lt (Nat.div_le_self _ _) fits
        exact ⟨⟨_, small⟩, queryReward_eq_ok.mpr ⟨valid, started, fits, rfl⟩⟩
    · intro new repriced
      have newPrice : new.toNat = accrued before newApr.toNat block.time.seconds.toNat ⟨address⟩ :=
        (queryReward_eq_ok.mp repriced).2.2.2
      rw [newPrice, price]
      exact ⟨rfl, fun raised => accrued_mono before raised _ _,
        fun lowered => accrued_mono before lowered _ _⟩
  · intro user amount entry passed
    constructor
    · exact ⟨fun again => again.unlocked,
        fun unlocked => ⟨passed.present, passed.covered, passed.started, unlocked⟩⟩
    · rw [executeUnstake_locked]
      constructor
      · rintro ⟨other, present, _, _, locked⟩
        cases passed.present.symm.trans present
        exact locked
      · exact fun locked => ⟨entry, passed.present, passed.covered, passed.started, locked⟩

/-- A deposit as old as the lockup, and in its block a doubled rate and a doubled lockup. -/
def unlockedDeposit : List Tx := [⟨blockAt 100, ⟨"user1"⟩, .stake (word 100000), true⟩]

def doubledTerms : Tx :=
  ⟨blockAt 2592100, ⟨"owner"⟩, .changeConfig (word 2000) (word 5184000), true⟩

/-- The reward for the thirty days behind it doubles, and an Unstake that would have gone
through is refused. -/
theorem doubledTerms_reach_back :
    instantiate Api.accepting Package.documented testMsg = .ok (testPool, testResponse) ∧
    (machine Api.accepting Package.documented ⟨"staking"⟩).Commits
      ((machine Api.accepting Package.documented ⟨"staking"⟩).run testPool unlockedDeposit) doubledTerms ∧
    queryReward Api.accepting
        ((machine Api.accepting Package.documented ⟨"staking"⟩).run testPool unlockedDeposit)
        ⟨blockAt 2592100, ⟨"staking"⟩⟩ "user1" = .ok (word 821) ∧
    queryReward Api.accepting
        ((machine Api.accepting Package.documented ⟨"staking"⟩).run testPool
          (unlockedDeposit ++ [doubledTerms]))
        ⟨blockAt 2592100, ⟨"staking"⟩⟩ "user1" = .ok (word 1643) ∧
    (machine Api.accepting Package.documented ⟨"staking"⟩).Commits
      ((machine Api.accepting Package.documented ⟨"staking"⟩).run testPool unlockedDeposit)
      ⟨blockAt 2592100, ⟨"user1"⟩, .unstake (word 100000), true⟩ ∧
    ¬(machine Api.accepting Package.documented ⟨"staking"⟩).Commits
      ((machine Api.accepting Package.documented ⟨"staking"⟩).run testPool
        (unlockedDeposit ++ [doubledTerms]))
      ⟨blockAt 2592100, ⟨"user1"⟩, .unstake (word 100000), true⟩ :=
  ⟨rfl, by decide, by decide, by decide, by decide, by decide⟩

theorem reconfiguration_reprices_doubledTerms :
    (word 1643 : Uint128).toNat =
      accrued ((machine Api.accepting Package.documented ⟨"staking"⟩).run testPool unlockedDeposit)
        (word 2000 : Word 64).toNat 2592100 ⟨"user1"⟩ :=
  (((reconfiguration_reprices Api.accepting Package.documented ⟨"staking"⟩ ⟨"owner"⟩
    ((machine Api.accepting Package.documented ⟨"staking"⟩).run testPool unlockedDeposit)
    ((machine Api.accepting Package.documented ⟨"staking"⟩).run testPool
      (unlockedDeposit ++ [doubledTerms]))
    (blockAt 2592100) (word 2000) (word 5184000) true _ rfl).2.2.1 "user1" (word 821) (by decide)).2.2
      (word 1643) (by decide)).1

end CosmwasmContracts.Staking
