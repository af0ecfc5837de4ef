import CosmwasmContracts.System.Operations
import CosmwasmContracts.Staking.Isolation
import CosmwasmContracts.Staking.Reconfiguration

/-! Entries that cannot be paid. A payout computes and mints its reward before the principal
is released, so an entry whose product exceeds 128 bits is shut, and so is one with a reward
due when the token has given up its minter. Time and deposits only make the product larger:
the entry stays shut until the owner of the contract sets another rate. -/

namespace CosmwasmContracts.System
open Library.CheckedWord Library.FiniteMap Library.TransactionMachine CosmwasmStd CwOwnable Staking

/-- The entry that was found has at most been added to, its clock still runs, and its product
at the rate of that time has come to `bound` by now. -/
structure Outgrown (bound : Nat) (found : StakeInfo) (rate : Word 64) (now : Nat) (user : Addr)
    (storage : Staking.Storage) : Prop where
  present : ∃ kept, storage.stakes.mayLoad user = some kept ∧
    found.amount.toNat ≤ kept.amount.toNat ∧ kept.stakeTime = found.stakeTime
  rated : storage.config.apr = rate
  exceeds : bound ≤ found.amount.toNat * rate.toNat * (now - found.stakeTime.seconds.toNat)

/-- Who set new terms by a transaction. -/
def repricings (_ : World) (tx : Tx) (_ : Response) : List Addr := if tx.Reconfigures then [tx.sender] else []

theorem fixed_of_silent {world : World} {tx : Tx} {response : Response}
    (silent : repricings world tx response = []) : ¬tx.Reconfigures := by
  intro reconfigures
  rw [repricings, if_pos reconfigures] at silent
  cases silent

section Step

variable {bound : Nat} {found : StakeInfo} {rate : Word 64} {now : Nat} {user : Addr}
variable {before after : Staking.Storage} {time : Timestamp} {contract sender : Addr}
variable {msg : Staking.ExecuteMsg} {messages : List CosmosMsg} {entry : StakeInfo} {reward : Uint128}

/-- A payout would be priced by a product at least as large. -/
theorem Outgrown.product (outgrown : Outgrown bound found rate now user before)
    (later : now ≤ time.seconds.toNat) (payout : Payout before time user entry reward) :
    bound ≤ entry.amount.toNat * before.config.apr.toNat *
      (time.seconds.toNat - entry.stakeTime.seconds.toNat) := by
  obtain ⟨kept, present, grown, same⟩ := outgrown.present
  have stored : entry = kept := Option.some.inj (payout.present.symm.trans present)
  rw [stored, outgrown.rated, same]
  calc
    bound ≤ found.amount.toNat * rate.toNat * (now - found.stakeTime.seconds.toNat) := outgrown.exceeds
    _ ≤ kept.amount.toNat * rate.toNat * (time.seconds.toNat - found.stakeTime.seconds.toNat) :=
      Nat.mul_le_mul (Nat.mul_le_mul_right _ grown) (Nat.sub_le_sub_right later _)

/-- A message that pays the entry nothing and sets no rate leaves it so. -/
theorem Outgrown.step (outgrown : Outgrown bound found rate now user before)
    (fixed : ¬msg.ChangesConfig) (effect : Effect before time contract sender msg after messages)
    (unpaid : ¬(sender = user ∧ msg.Pays)) : Outgrown bound found rate now user after := by
  obtain ⟨entry, present, grown, same⟩ := outgrown.present
  obtain ⟨_, lost, clock⟩ := effect_quiet effect unpaid
  have config := effect_config effect fixed
  refine ⟨?_, by rw [config, outgrown.rated], outgrown.exceeds⟩
  cases stored : after.stakes.mayLoad user with
  | none => cases present.symm.trans (lost stored)
  | some kept =>
    have moved := effect_amount effect user
    rw [stakedAmount_of_present stored, stakedAmount_of_present present, withdrawn_of_unpaid unpaid] at moved
    refine ⟨kept, rfl, by omega, ?_⟩
    rcases clock kept stored with ⟨old, entered, ticks⟩ | ⟨absent, _⟩
    · cases present.symm.trans entered
      exact ticks.trans same
    · cases present.symm.trans absent

end Step

section Payouts

variable {host : Host} {before after : Staking.Storage} {token next : Cw20Token.Storage} {time : Timestamp}
variable {sender : Addr} {msg : Staking.ExecuteMsg} {messages : List CosmosMsg}

/-- What any payout needs at the token: a reward of zero, or the right to mint. -/
theorem payout_authority (effect : Effect before time host.staking sender msg after messages)
    (pays : msg.Pays) (sent : dispatch host token messages = .ok next) :
    ∃ entry reward, Payout before time sender entry reward ∧
      (reward.toNat ≠ 0 → token.tokenInfo.minter = some host.staking) := by
  cases effect with
  | reduced amount rest reward total entry payout positive parts remains
  | closed amount reward total entry payout all remains =>
    obtain ⟨middle, minted, _⟩ := dispatch_append.mp sent
    exact ⟨entry, reward, payout, (reward_effect minted).1⟩
  | claimed reward entry payout positive =>
    rw [← rewardMsgs_of_positive before sender positive] at sent
    exact ⟨entry, reward, payout, (reward_effect sent).1⟩
  | opened | toppedUp | reconfigured | reowned => exact pays.elim

end Payouts

section Runs

variable {host : Host} {world next : World} {tx : Tx} {response : Response}
variable {bound : Nat} {found : StakeInfo} {rate : Word 64} {now : Nat} {user : Addr}

theorem exec_outgrown (outgrown : Outgrown bound found rate now user world.staking) (fixed : ¬tx.Reconfigures)
    (commits : (system host).exec world tx = .ok (next, response))
    (unpaid : ∀ msg, tx.msg = .staking msg → ¬(tx.sender = user ∧ msg.Pays)) :
    Outgrown bound found rate now user next.staking := by
  cases asked : tx.msg with
  | token msg =>
    rw [exec_token asked] at commits
    rw [commits.2]
    exact outgrown
  | staking msg =>
    rw [exec_staking asked] at commits
    exact outgrown.step (fun changes => fixed (Tx.reconfigures_of asked changes)) (execute_effect commits.1)
      (unpaid msg asked)

/-- A product beyond 128 bits cannot be priced. -/
theorem overflow_unpaid (outgrown : Outgrown (2 ^ 128) found rate now user world.staking)
    (later : now ≤ blockSeconds tx) (commits : (system host).exec world tx = .ok (next, response)) :
    ∀ msg, tx.msg = .staking msg → ¬(tx.sender = user ∧ msg.Pays) := by
  rintro msg asked ⟨own, pays⟩
  rw [exec_staking asked] at commits
  obtain ⟨entry, reward, payout, _, _⟩ := effect_payment (execute_effect commits.1) pays
  have owned : Payout world.staking tx.block.time user entry reward := own ▸ payout
  exact absurd (outgrown.product later owned) (Nat.not_le.mpr owned.representable)

variable (host) in
theorem run_overflow (outgrown : Outgrown (2 ^ 128) found rate now user world.staking) {txs earlier : List Tx}
    (within : earlier <+: txs) (waits : ∀ tx ∈ txs, now ≤ blockSeconds tx)
    (fixed : (system host).observe repricings world txs = []) :
    Outgrown (2 ^ 128) found rate now user ((system host).run world earlier).staking := by
  refine Machine.silent_rule _
    (motive := fun state : World => Outgrown (2 ^ 128) found rate now user state.staking)
    (fun tx => now ≤ blockSeconds tx) ?_ outgrown within waits fixed
  exact fun before tx after response shut waiting silent commits =>
    exec_outgrown shut (fixed_of_silent silent) commits (overflow_unpaid shut waiting commits)

/-- A token without a minter, and an entry that a unit is due on. -/
structure Unmintable (found : StakeInfo) (rate : Word 64) (now : Nat) (user : Addr) (world : World) : Prop where
  outgrown : Outgrown rewardUnit found rate now user world.staking
  renounced : world.token.tokenInfo.minter = none

theorem exec_renounced (renounced : world.token.tokenInfo.minter = none)
    (commits : (system host).exec world tx = .ok (next, response)) :
    next.token.tokenInfo.minter = none := by
  have replayed : (Cw20Token.machine host.api).run world.token ((tokenSide host).replay world tx response) =
      next.token := (tokenSide host).commits world tx next response commits
  rw [← replayed]
  exact (Cw20Token.run_renounced host.api renounced _).1

/-- A reward that is due cannot be minted. -/
theorem Unmintable.unpaid (unmintable : Unmintable found rate now user world)
    (later : now ≤ blockSeconds tx) (commits : (system host).exec world tx = .ok (next, response)) :
    ∀ msg, tx.msg = .staking msg → ¬(tx.sender = user ∧ msg.Pays) := by
  rintro msg asked ⟨own, pays⟩
  rw [exec_staking asked] at commits
  obtain ⟨entry, reward, payout, authority⟩ := payout_authority (execute_effect commits.1) pays commits.2
  have owned : Payout world.staking tx.block.time user entry reward := own ▸ payout
  have due : 0 < reward.toNat := by
    rw [owned.exact]
    exact Nat.div_pos (unmintable.outgrown.product later owned) (by decide)
  cases unmintable.renounced.symm.trans (authority due.ne')

variable (host) in
theorem run_unmintable (unmintable : Unmintable found rate now user world) {txs earlier : List Tx}
    (within : earlier <+: txs) (waits : ∀ tx ∈ txs, now ≤ blockSeconds tx)
    (fixed : (system host).observe repricings world txs = []) :
    Unmintable found rate now user ((system host).run world earlier) := by
  refine Machine.silent_rule _ (motive := Unmintable found rate now user) (fun tx => now ≤ blockSeconds tx)
    ?_ unmintable within waits fixed
  exact fun before tx after response shut waiting silent commits =>
    ⟨exec_outgrown shut.outgrown (fixed_of_silent silent) commits (shut.unpaid waiting commits),
      exec_renounced shut.renounced commits⟩

/-- What the terms ask of a withdrawal from an entry, and what its reward asks of the token. -/
structure Releases (host : Host) (world : World) (apr lockupPeriod : Word 64) (kept : StakeInfo)
    (exit : BlockInfo) (amount : Uint128) : Prop where
  covered : amount.toNat ≤ kept.amount.toNat
  started : kept.stakeTime.seconds.toNat ≤ exit.time.seconds.toNat
  unlocked : lockupPeriod.toNat ≤ exit.time.seconds.toNat - kept.stakeTime.seconds.toNat
  representable :
    kept.amount.toNat * apr.toNat * (exit.time.seconds.toNat - kept.stakeTime.seconds.toNat) < 2 ^ 128
  minted :
    exactReward kept.amount.toNat apr.toNat (exit.time.seconds.toNat - kept.stakeTime.seconds.toNat) = 0 ∨
      world.token.tokenInfo.minter = some host.staking ∧
        world.token.tokenInfo.totalSupply.toNat + exactReward kept.amount.toNat apr.toNat
          (exit.time.seconds.toNat - kept.stakeTime.seconds.toNat) < 2 ^ 128

/-- After a ChangeConfig, a withdrawal is judged by the new terms, and its reward, where there
is one, by whether the contract may mint it within the supply's 128 bits. -/
theorem reopened (healthy : Healthy host world) {block : BlockInfo} {owner : Addr}
    (external : owner ≠ host.staking) {newApr newLockupPeriod : Word 64}
    (commits : (system host).exec world ⟨block, owner, .staking (.changeConfig newApr newLockupPeriod)⟩ =
      .ok (next, response)) {kept : StakeInfo}
    (present : world.staking.stakes.mayLoad user = some kept) (exit : BlockInfo) (amount : Uint128) :
    (system host).Commits next ⟨exit, user, .staking (.unstake amount)⟩ ↔
      Releases host world newApr newLockupPeriod kept exit amount := by
  have outside : Tx.External host ⟨block, owner, .staking (.changeConfig newApr newLockupPeriod)⟩ := external
  have after := exec_healthy healthy outside commits
  rw [exec_staking rfl] at commits
  have effect := execute_effect commits.1
  have changed := changeConfig_effect effect
  have token : next.token = world.token := by
    have sent := commits.2
    rw [effect_silent effect trivial] at sent
    exact (Except.ok.inj sent).symm
  have remains : next.staking.stakes.mayLoad user = some kept := by
    rw [changed]
    exact present
  have apr : next.staking.config.apr = newApr := by rw [changed]
  have lockup : next.staking.config.lockupPeriod = newLockupPeriod := by rw [changed]
  refine (unstake_commits_iff after).trans ?_
  rw [token]
  constructor
  · rintro ⟨entry, reward, payout, covered, paid⟩
    cases remains.symm.trans payout.present
    have unlocked := payout.unlocked
    have fits := payout.representable
    have price := payout.exact
    rw [lockup] at unlocked
    rw [apr] at fits price
    rw [price] at paid
    exact ⟨covered, payout.started, unlocked, fits, paid⟩
  · rintro ⟨covered, started, unlocked, fits, paid⟩
    have small : exactReward kept.amount.toNat newApr.toNat
        (exit.time.seconds.toNat - kept.stakeTime.seconds.toNat) < 2 ^ 128 :=
      Nat.lt_of_le_of_lt (Nat.div_le_self _ _) fits
    refine ⟨kept, ⟨_, small⟩, ⟨remains, started, ?_, ?_, ?_⟩, covered, paid⟩
    · rw [lockup]
      exact unlocked
    · rw [apr]
      exact fits
    · rw [apr]

theorem run_run_healthy (launched : Launched host world) {txs later : List Tx}
    (external : ∀ tx ∈ txs, tx.External host) (outside : ∀ tx ∈ later, tx.External host) :
    Healthy host ((system host).run ((system host).run world txs) later) := by
  rw [← Machine.run_append]
  refine run_healthy launched fun tx member => ?_
  rcases List.mem_append.mp member with old | new
  · exact external tx old
  · exact outside tx new

end Runs

/-- An entry whose product has outgrown 128 bits is shut until the rate changes. In any reachable
state, through any messages from then on by which nobody sets new terms: no Unstake of any amount
and no ClaimRewards of its address commits, at any point; the entry keeps its clock and at least
its amount. After the owner's next ChangeConfig a withdrawal commits just when the new terms let
it and the reward that they make is zero, or the contract is the minter and the supply has room
for it. -/
theorem outgrown_until_repriced (host : Host) (world : World) (launched : Launched host world)
    (txs : List Tx) (external : ∀ tx ∈ txs, tx.External host) (state : World)
    (arrived : state = (system host).run world txs) (user : Addr) (entry : StakeInfo)
    (present : state.staking.stakes.mayLoad user = some entry) (now : Nat)
    (exceeds : 2 ^ 128 ≤ entry.amount.toNat * state.staking.config.apr.toNat *
      (now - entry.stakeTime.seconds.toNat))
    (later : List Tx) (outside : ∀ tx ∈ later, tx.External host) (waits : ∀ tx ∈ later, now ≤ blockSeconds tx)
    (fixed : (system host).observe repricings state later = []) :
    (∀ earlier, earlier <+: later → ∀ block : BlockInfo, now ≤ block.time.seconds.toNat →
      ∀ msg : Staking.ExecuteMsg, msg.Pays →
        ¬(system host).Commits ((system host).run state earlier) ⟨block, user, .staking msg⟩) ∧
    ∃ kept, ((system host).run state later).staking.stakes.mayLoad user = some kept ∧
      entry.amount.toNat ≤ kept.amount.toNat ∧ kept.stakeTime = entry.stakeTime ∧
      ∀ block owner newApr newLockupPeriod next response, owner ≠ host.staking →
        (system host).exec ((system host).run state later)
            ⟨block, owner, .staking (.changeConfig newApr newLockupPeriod)⟩ = .ok (next, response) →
        ∀ (exit : BlockInfo) (amount : Uint128),
          (system host).Commits next ⟨exit, user, .staking (.unstake amount)⟩ ↔
            Releases host ((system host).run state later) newApr newLockupPeriod kept exit amount := by
  have outgrown : Outgrown (2 ^ 128) entry state.staking.config.apr now user state.staking :=
    ⟨⟨entry, present, le_rfl, rfl⟩, rfl, exceeds⟩
  constructor
  · rintro earlier part block fromNow msg pays ⟨next, response, commits⟩
    have shut := run_overflow host outgrown part waits fixed
    have waiting : now ≤ blockSeconds ⟨block, user, .staking msg⟩ := fromNow
    exact overflow_unpaid shut waiting commits msg rfl ⟨rfl, pays⟩
  · obtain ⟨kept, remains, grown, same⟩ := (run_overflow host outgrown (List.prefix_refl _) waits fixed).present
    refine ⟨kept, remains, grown, same, ?_⟩
    intro block owner newApr newLockupPeriod next response outsider commits exit amount
    exact reopened (arrived ▸ run_run_healthy launched external outside) outsider commits remains exit amount

/-- Eleven years after a stake of a billion tokens: attempts to take it out, on terms of its
owner's own as well, and more added. -/
def elevenYears : List Tx :=
  [⟨Staking.blockAt 346896100, ⟨"user1"⟩, .staking .claimRewards⟩,
    ⟨Staking.blockAt 346896150, ⟨"user1"⟩, .staking (.changeConfig (word 0) (word 0))⟩,
    ⟨Staking.blockAt 346896200, ⟨"user1"⟩, .staking (.stake (word 7))⟩,
    ⟨Staking.blockAt 346896300, ⟨"user1"⟩, .staking (.unstake (word 0))⟩,
    ⟨Staking.blockAt 346896400, ⟨"user1"⟩, .token (.transfer "user2" (word 5))⟩]

/-- Without interest, all of it comes out. -/
theorem outgrown_until_repriced_elevenYears :
    (∀ block : BlockInfo, 346896100 ≤ block.time.seconds.toNat →
      ¬(system testHost).Commits ((system testHost).run ((system testHost).run testWorld billionStake) elevenYears)
        ⟨block, ⟨"user1"⟩, .staking (.unstake (word 1))⟩) ∧
    (system testHost).Commits
      ((system testHost).run ((system testHost).run testWorld billionStake)
        (elevenYears ++ [⟨Staking.blockAt 346900000, ⟨"owner"⟩, .staking (.changeConfig (word 0) (word 60))⟩]))
      ⟨Staking.blockAt 346900060, ⟨"user1"⟩, .staking (.unstake (word 1000000000000000000000000007))⟩ := by
  obtain ⟨shut, kept, remains, _, _, reopens⟩ :=
    outgrown_until_repriced testHost testWorld testWorld_launched billionStake (by decide) _ rfl ⟨"user1"⟩
      billionEntry (by decide) 346896100 (by decide) elevenYears (by decide) (by decide)
      (by decide)
  have held : kept = { amount := word 1000000000000000000000000007, stakeTime := (Staking.blockAt 100).time } :=
    Option.some.inj (remains.symm.trans (by decide))
  subst held
  constructor
  · exact fun block after => shut elevenYears (List.prefix_refl _) block after (.unstake (word 1)) trivial
  · exact (reopens (Staking.blockAt 346900000) ⟨"owner"⟩ (word 0) (word 60) _ _ (by decide) rfl
      (Staking.blockAt 346900060) (word 1000000000000000000000000007)).mpr
        ⟨by decide, by decide, by decide, by decide, by decide⟩

/-- When the token has no minter any more, an entry with a reward due is shut for good unless the
rate changes. In any reachable state, through any messages from then on by which nobody sets new
terms: no Unstake of any amount and no ClaimRewards of its address commits; the entry keeps its
clock and at least its amount; and after the owner's next ChangeConfig it comes out just as long
as nothing is due on it. -/
theorem unmintable_until_repriced (host : Host) (world : World) (launched : Launched host world)
    (txs : List Tx) (external : ∀ tx ∈ txs, tx.External host) (state : World)
    (arrived : state = (system host).run world txs) (renounced : state.token.tokenInfo.minter = none)
    (user : Addr) (entry : StakeInfo) (present : state.staking.stakes.mayLoad user = some entry) (now : Nat)
    (due : exactReward entry.amount.toNat state.staking.config.apr.toNat
      (now - entry.stakeTime.seconds.toNat) ≠ 0)
    (later : List Tx) (outside : ∀ tx ∈ later, tx.External host) (waits : ∀ tx ∈ later, now ≤ blockSeconds tx)
    (fixed : (system host).observe repricings state later = []) :
    (∀ earlier, earlier <+: later → ∀ block : BlockInfo, now ≤ block.time.seconds.toNat →
      ∀ msg : Staking.ExecuteMsg, msg.Pays →
        ¬(system host).Commits ((system host).run state earlier) ⟨block, user, .staking msg⟩) ∧
    ∃ kept, ((system host).run state later).staking.stakes.mayLoad user = some kept ∧
      entry.amount.toNat ≤ kept.amount.toNat ∧ kept.stakeTime = entry.stakeTime ∧
      ∀ block owner newApr newLockupPeriod next response, owner ≠ host.staking →
        (system host).exec ((system host).run state later)
            ⟨block, owner, .staking (.changeConfig newApr newLockupPeriod)⟩ = .ok (next, response) →
        ∀ (exit : BlockInfo) (amount : Uint128),
          (system host).Commits next ⟨exit, user, .staking (.unstake amount)⟩ ↔
            amount.toNat ≤ kept.amount.toNat ∧
            kept.stakeTime.seconds.toNat ≤ exit.time.seconds.toNat ∧
            newLockupPeriod.toNat ≤ exit.time.seconds.toNat - kept.stakeTime.seconds.toNat ∧
            exactReward kept.amount.toNat newApr.toNat
              (exit.time.seconds.toNat - kept.stakeTime.seconds.toNat) = 0 := by
  have unmintable : Unmintable entry state.staking.config.apr now user state := by
    refine ⟨⟨⟨entry, present, le_rfl, rfl⟩, rfl, ?_⟩, renounced⟩
    by_contra short
    exact due (Nat.div_eq_of_lt (Nat.not_le.mp short))
  constructor
  · rintro earlier part block fromNow msg pays ⟨next, response, commits⟩
    have shut := run_unmintable host unmintable part waits fixed
    have waiting : now ≤ blockSeconds ⟨block, user, .staking msg⟩ := fromNow
    exact shut.unpaid waiting commits msg rfl ⟨rfl, pays⟩
  · have shut := run_unmintable host unmintable (List.prefix_refl _) waits fixed
    obtain ⟨kept, remains, grown, same⟩ := shut.outgrown.present
    refine ⟨kept, remains, grown, same, ?_⟩
    intro block owner newApr newLockupPeriod next response outsider commits exit amount
    refine (reopened (arrived ▸ run_run_healthy launched external outside) outsider commits remains exit
      amount).trans ?_
    constructor
    · rintro ⟨covered, started, unlocked, _, minted⟩
      refine ⟨covered, started, unlocked, minted.resolve_right ?_⟩
      rintro ⟨minter, _⟩
      cases shut.renounced.symm.trans minter
    · rintro ⟨covered, started, unlocked, nothing⟩
      have fits : kept.amount.toNat * newApr.toNat *
          (exit.time.seconds.toNat - kept.stakeTime.seconds.toNat) < rewardUnit :=
        (Nat.div_eq_zero_iff.mp nothing).resolve_left (by decide)
      exact ⟨covered, started, unlocked, fits.trans (by decide), Or.inl nothing⟩

/-- The token's own history, at whose end it gives up its minter. -/
def farewell : List Cw20Token.Tx :=
  [⟨⟨"owner"⟩, .mint "user1" (word 2000000)⟩,
    ⟨⟨"user1"⟩, .approve "staking" (word 2000000)⟩,
    ⟨⟨"owner"⟩, .updateMinter none⟩]

def mintlessWorld : World where
  token := (Cw20Token.machine Api.accepting).run Cw20Token.testToken farewell
  staking := Staking.testPool

theorem mintlessWorld_launched : Launched testHost mintlessWorld where
  token := ⟨Cw20Token.testMsg, Cw20Token.testToken, _, farewell, rfl, by decide, rfl⟩
  staking := ⟨Staking.testMsg, Staking.testResponse, rfl, rfl⟩

def millionStake : List Tx := [⟨Staking.blockAt 100, ⟨"user1"⟩, .staking (.stake (word 1000000))⟩]

/-- An attempt to take the stake out, a deposit into it, and one to mint again. -/
def stuckMonth : List Tx :=
  [⟨Staking.blockAt 2592100, ⟨"user1"⟩, .staking (.unstake (word 1000000))⟩,
    ⟨Staking.blockAt 2592200, ⟨"user1"⟩, .staking (.stake (word 3))⟩,
    ⟨Staking.blockAt 2592300, ⟨"owner"⟩, .token (.updateMinter (some "staking"))⟩]

theorem unmintable_until_repriced_stuckMonth :
    ¬(system testHost).Commits ((system testHost).run ((system testHost).run mintlessWorld millionStake) stuckMonth)
        ⟨Staking.blockAt 99999999, ⟨"user1"⟩, .staking .claimRewards⟩ ∧
    (system testHost).Commits
      ((system testHost).run ((system testHost).run mintlessWorld millionStake)
        (stuckMonth ++ [⟨Staking.blockAt 2600000, ⟨"owner"⟩, .staking (.changeConfig (word 0) (word 60))⟩]))
      ⟨Staking.blockAt 2600001, ⟨"user1"⟩, .staking (.unstake (word 1000003))⟩ := by
  obtain ⟨shut, kept, remains, _, _, reopens⟩ :=
    unmintable_until_repriced testHost mintlessWorld mintlessWorld_launched millionStake (by decide) _ rfl
      (by decide) ⟨"user1"⟩ { amount := word 1000000, stakeTime := (Staking.blockAt 100).time } (by decide)
      2592100 (by decide) stuckMonth (by decide) (by decide) (by decide)
  have held : kept = { amount := word 1000003, stakeTime := (Staking.blockAt 100).time } :=
    Option.some.inj (remains.symm.trans (by decide))
  subst held
  constructor
  · exact shut stuckMonth (List.prefix_refl _) (Staking.blockAt 99999999) (by decide) .claimRewards trivial
  · exact (reopens (Staking.blockAt 2600000) ⟨"owner"⟩ (word 0) (word 60) _ _ (by decide) rfl
      (Staking.blockAt 2600001) (word 1000003)).mpr (by decide)

end CosmwasmContracts.System
