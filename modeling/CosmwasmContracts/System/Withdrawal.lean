import CosmwasmContracts.System.Solvency

/-! Withdrawals end to end. An Unstake of a covered amount goes through exactly when the
product behind its reward fits 128 bits and the token can mint the reward; nothing that
others do in between changes what it pays. -/

namespace CosmwasmContracts.System
open Library.CheckedWord Library.FiniteMap Library.TransactionMachine Library.TokenLedger
  CosmwasmStd CwOwnable Staking

variable {host : Host} {world next : World} {user : Addr}

section Success

variable {block : BlockInfo} {entry : StakeInfo} {amount reward : Uint128}

/-- The contract's guards, the token's authority and room, and the pool's solvency are all
that a withdrawal needs. -/
theorem unstake_commits (sound : Sound host world)
    (solvent : world.staking.totalStaked.toNat ≤ poolBalance host world)
    (payout : Payout world.staking block.time user entry reward)
    (covered : amount.toNat ≤ entry.amount.toNat)
    (valid : host.api.addrValidate user.text = .ok user)
    (authority : reward.toNat ≠ 0 → world.token.tokenInfo.minter = some host.staking)
    (room : world.token.tokenInfo.totalSupply.toNat + reward.toNat < 2 ^ 128) :
    (system host).Commits world ⟨block, user, .staking (.unstake amount)⟩ := by
  have within := entry_le_total sound.counted payout.present
  have accepted : ∃ after response, executeUnstake world.staking ⟨block, host.staking⟩ ⟨user⟩ amount =
      .ok (after, response) := executeUnstake_succeeds payout covered (covered.trans within)
  obtain ⟨after, response, accepted⟩ := accepted
  obtain ⟨_, _, again, _, _, messages⟩ := unstake_effect_messages (executeUnstake_effect accepted)
  rw [(payout.unique again).2] at messages
  obtain ⟨middle, minted⟩ :=
    dispatch_reward_succeeds sound.addressed sound.conserved valid authority room
  have conserved : (Cw20Token.view middle).Conserved := dispatch_conserved sound.conserved minted
  have backed : amount.toNat ≤ (Cw20Token.view middle).balance host.staking := by
    have kept := reward_balance minted host.staking
    change amount.toNat ≤ Cw20Token.balanceOf middle host.staking
    change _ ≤ Cw20Token.balanceOf world.token host.staking at solvent
    omega
  obtain ⟨token, paid⟩ := dispatch_withdraw_succeeds sound.addressed conserved valid backed
  have asked : Tx.msg ⟨block, user, .staking (.unstake amount)⟩ = .staking (.unstake amount) := rfl
  refine ⟨{ token := token, staking := after }, response, (exec_staking asked).mpr ⟨accepted, ?_⟩⟩
  rw [messages]
  exact dispatch_append.mpr ⟨middle, minted, paid⟩

/-- A withdrawal that went through was a payout, sent to an address the host accepts. -/
theorem unstake_committed
    (success : (system host).Commits world ⟨block, user, .staking (.unstake amount)⟩) :
    ∃ entry reward, Payout world.staking block.time user entry reward ∧
      amount.toNat ≤ entry.amount.toNat ∧ host.api.addrValidate user.text = .ok user := by
  obtain ⟨next, response, commits⟩ := success
  have asked : Tx.msg ⟨block, user, .staking (.unstake amount)⟩ = .staking (.unstake amount) := rfl
  obtain ⟨accepted, sent⟩ := (exec_staking asked).mp commits
  obtain ⟨entry, reward, payout, covered, _, messages⟩ :=
    unstake_effect_messages (execute_effect accepted)
  rw [messages] at sent
  obtain ⟨middle, _, paid⟩ := dispatch_append.mp sent
  exact ⟨entry, reward, payout, covered, (dispatch_withdraw paid).1⟩

end Success

section Waiting

/-- A withdrawal that would go through now goes through later, as long as the token has
room for the exact reward, if and only if the product of amount, rate and seconds fits
128 bits before it is divided. -/
theorem waiting_keeps_withdrawal (host : Host) (world : World) (launched : Launched host world)
    (txs : List Tx) (external : ∀ tx ∈ txs, tx.External host)
    (minter : ((system host).run world txs).token.tokenInfo.minter = some host.staking)
    (user : Addr) (entry : StakeInfo)
    (present : ((system host).run world txs).staking.stakes.mayLoad user = some entry)
    (amount : Uint128) (block later : BlockInfo) (ordered : block.time.nanos.toNat ≤ later.time.nanos.toNat)
    (success : (system host).Commits ((system host).run world txs)
      ⟨block, user, .staking (.unstake amount)⟩)
    (room : ((system host).run world txs).token.tokenInfo.totalSupply.toNat +
      exactReward entry.amount.toNat ((system host).run world txs).staking.config.apr.toNat
        (later.time.seconds.toNat - entry.stakeTime.seconds.toNat) < 2 ^ 128) :
    (system host).Commits ((system host).run world txs) ⟨later, user, .staking (.unstake amount)⟩ ↔
      entry.amount.toNat * ((system host).run world txs).staking.config.apr.toNat *
        (later.time.seconds.toNat - entry.stakeTime.seconds.toNat) < 2 ^ 128 := by
  have sound := run_sound (launched_sound launched) external
  have solvent := run_solvent launched external
  constructor
  · intro goes
    obtain ⟨other, reward, payout, _, _⟩ := unstake_committed goes
    cases present.symm.trans payout.present
    exact payout.representable
  · intro fits
    obtain ⟨other, earlier, payout, covered, valid⟩ := unstake_committed success
    cases present.symm.trans payout.present
    have advance := Timestamp.seconds_mono ordered
    have started := payout.started
    have unlocked := payout.unlocked
    have small : exactReward entry.amount.toNat ((system host).run world txs).staking.config.apr.toNat
        (later.time.seconds.toNat - entry.stakeTime.seconds.toNat) < 2 ^ 128 := by omega
    have patient : Payout ((system host).run world txs).staking later.time user entry ⟨_, small⟩ :=
      ⟨present, by omega, by omega, fits, rfl⟩
    exact unstake_commits sound solvent patient covered valid (fun _ => minter) room

/-- A billion tokens of eighteen decimals, as one stake. -/
def billionStake : List Tx :=
  [⟨Staking.blockAt 100, ⟨"user1"⟩, .staking (.stake (word 1000000000000000000000000000))⟩]

/-- It can leave after thirty days, and cannot after eleven years, though the reward for
them and the supply with it fit 128 bits. -/
theorem waiting_loses_billionStake :
    (∀ tx ∈ billionStake, tx.External testHost) ∧
    ((system testHost).run testWorld billionStake).token.tokenInfo.minter = some testHost.staking ∧
    ((system testHost).run testWorld billionStake).staking.stakes.mayLoad ⟨"user1"⟩ =
      some { amount := word 1000000000000000000000000000, stakeTime := (Staking.blockAt 100).time } ∧
    (system testHost).Commits ((system testHost).run testWorld billionStake)
      ⟨Staking.blockAt 2592100, ⟨"user1"⟩, .staking (.unstake (word 1000000000000000000000000000))⟩ ∧
    ((system testHost).run testWorld billionStake).token.tokenInfo.totalSupply.toNat +
      exactReward 1000000000000000000000000000 1000 346896000 < 2 ^ 128 ∧
    ¬(system testHost).Commits ((system testHost).run testWorld billionStake)
      ⟨Staking.blockAt 346896100, ⟨"user1"⟩, .staking (.unstake (word 1000000000000000000000000000))⟩ := by
  decide

def billionEntry : StakeInfo :=
  { amount := word 1000000000000000000000000000, stakeTime := (Staking.blockAt 100).time }

theorem waiting_keeps_withdrawal_billionStake :
    (system testHost).Commits ((system testHost).run testWorld billionStake)
        ⟨Staking.blockAt 31536100, ⟨"user1"⟩, .staking (.unstake (word 5000))⟩ ↔
      billionEntry.amount.toNat *
          ((system testHost).run testWorld billionStake).staking.config.apr.toNat *
        ((Staking.blockAt 31536100).time.seconds.toNat - billionEntry.stakeTime.seconds.toNat) < 2 ^ 128 :=
  waiting_keeps_withdrawal testHost testWorld testWorld_launched billionStake (by decide) (by decide)
    ⟨"user1"⟩ billionEntry (by decide) (word 5000) (Staking.blockAt 2592100) (Staking.blockAt 31536100)
    (by decide) (by decide) (by decide)

end Waiting

section Interleaving

/-- What others do leaves an address's entry alone. -/
theorem run_frame {txs : List Tx} (others : ∀ tx ∈ txs, tx.sender ≠ user) :
    ((system host).run world txs).staking.stakes.mayLoad user = world.staking.stakes.mayLoad user := by
  refine Machine.run_invariant _
    (motive := fun state : World =>
      state.staking.stakes.mayLoad user = world.staking.stakes.mayLoad user)
    (fun tx => tx.sender ≠ user) ?_ rfl others
  intro before tx after response kept other commits
  cases asked : tx.msg with
  | token msg =>
    rw [exec_token asked] at commits
    rw [commits.2]
    exact kept
  | staking msg =>
    rw [exec_staking asked] at commits
    rw [effect_frame (execute_effect commits.1) other.symm]
    exact kept

/-- A deposit opened by `user`, any messages by others after it, and a withdrawal of all
of it a lockup or more later: it goes through and pays the deposit with its exact reward
at the rate then in force. -/
theorem deposit_comes_back (host : Host) (world : World) (launched : Launched host world)
    (earlier between : List Tx) (external : ∀ tx ∈ earlier, tx.External host)
    (user : Addr) (outside : user ≠ host.staking) (amount : Uint128) (opening closing : BlockInfo)
    (absent : ((system host).run world earlier).staking.stakes.mayLoad user = none)
    (staked : (system host).Commits ((system host).run world earlier)
      ⟨opening, user, .staking (.stake amount)⟩)
    (others : ∀ tx ∈ between, tx.External host ∧ tx.sender ≠ user)
    (state : World)
    (reached : state = (system host).run world
      (earlier ++ [⟨opening, user, .staking (.stake amount)⟩] ++ between))
    (minter : state.token.tokenInfo.minter = some host.staking)
    (elapsed : Nat) (timed : opening.time.seconds.toNat + elapsed = closing.time.seconds.toNat)
    (unlocked : state.staking.config.lockupPeriod.toNat ≤ elapsed)
    (fits : amount.toNat * state.staking.config.apr.toNat * elapsed < 2 ^ 128)
    (room : state.token.tokenInfo.totalSupply.toNat +
      exactReward amount.toNat state.staking.config.apr.toNat elapsed < 2 ^ 128) :
    ∃ next response, (system host).exec state ⟨closing, user, .staking (.unstake amount)⟩ =
        .ok (next, response) ∧
      Cw20Token.balanceOf next.token user = Cw20Token.balanceOf state.token user + amount.toNat +
        exactReward amount.toNat state.staking.config.apr.toNat elapsed ∧
      next.staking.stakes.mayLoad user = none ∧
      next.staking.totalStaked.toNat + amount.toNat = state.staking.totalStaked.toNat ∧
      poolBalance host next + amount.toNat = poolBalance host state := by
  obtain ⟨opened, response, commits⟩ := staked
  have asked : Tx.msg ⟨opening, user, .staking (.stake amount)⟩ = .staking (.stake amount) := rfl
  obtain ⟨accepted, sent⟩ := (exec_staking asked).mp commits
  obtain ⟨entered, messages⟩ := stake_effect_opens (execute_effect accepted) absent
  rw [messages] at sent
  have valid := (dispatch_deposit sent).1
  have present : state.staking.stakes.mayLoad user = some { amount := amount, stakeTime := opening.time } := by
    rw [reached, Machine.run_append, Machine.run_snoc, Machine.deliver_ok _ commits,
      run_frame fun tx member => (others tx member).2]
    exact entered
  have all : ∀ tx ∈ earlier ++ [⟨opening, user, .staking (.stake amount)⟩] ++ between,
      tx.External host := by
    intro tx member
    rcases List.mem_append.mp member with past | later
    · rcases List.mem_append.mp past with old | own
      · exact external tx old
      · rw [List.mem_singleton.mp own]
        exact outside
    · exact (others tx later).1
  have sound := run_sound (launched_sound launched) all
  have solvent := run_solvent launched all
  rw [← reached] at sound solvent
  have small : exactReward amount.toNat state.staking.config.apr.toNat elapsed < 2 ^ 128 := by omega
  have span : closing.time.seconds.toNat - opening.time.seconds.toNat = elapsed := by omega
  have payout : Payout state.staking closing.time user { amount := amount, stakeTime := opening.time }
      ⟨_, small⟩ := by
    refine ⟨present, ?_, ?_, ?_, ?_⟩
    · change opening.time.seconds.toNat ≤ _
      omega
    · change _ ≤ _ - opening.time.seconds.toNat
      omega
    · rw [span]
      exact fits
    · rw [span]
  have covered : amount.toNat ≤ amount.toNat := le_rfl
  obtain ⟨next, out, withdrawn⟩ := unstake_commits sound solvent payout covered valid (fun _ => minter) room
  have taken : Tx.msg ⟨closing, user, .staking (.unstake amount)⟩ = .staking (.unstake amount) := rfl
  obtain ⟨executed, paid⟩ := (exec_staking taken).mp withdrawn
  have effect := execute_effect executed
  obtain ⟨_, reward, again, _, remains, parts⟩ := unstake_effect_messages effect
  rw [parts, (payout.unique again).2] at paid
  obtain ⟨pool, own⟩ := payout_balance outside paid
  exact ⟨next, out, withdrawn, own, unstake_effect_closes effect present rfl, remains, pool⟩

/-- Others trade, stake and burn between the deposit and the withdrawal. -/
def busyMonth : List Tx :=
  [⟨Staking.blockAt 200, ⟨"owner"⟩, .token (.mint "owner" (word 9))⟩,
    ⟨Staking.blockAt 300, ⟨"user2"⟩, .staking (.stake (word 0))⟩,
    ⟨Staking.blockAt 400, ⟨"user2"⟩, .token (.transferFrom "staking" "user2" (word 100000))⟩,
    ⟨Staking.blockAt 500, ⟨"user2"⟩, .staking (.unstake (word 100000))⟩,
    ⟨Staking.blockAt 600, ⟨"user2"⟩, .token (.burn (word 0))⟩]

theorem deposit_comes_back_busyMonth :
    ∃ next response, (system testHost).exec
        ((system testHost).run testWorld
          ([] ++ [⟨Staking.blockAt 100, ⟨"user1"⟩, .staking (.stake (word 100000))⟩] ++ busyMonth))
        ⟨Staking.blockAt 2592100, ⟨"user1"⟩, .staking (.unstake (word 100000))⟩ = .ok (next, response) ∧
      next.staking.stakes.mayLoad ⟨"user1"⟩ = none := by
  obtain ⟨next, response, commits, _, removed, _⟩ :=
    deposit_comes_back testHost testWorld testWorld_launched [] busyMonth (by decide) ⟨"user1"⟩
      (by decide) (word 100000) (Staking.blockAt 100) (Staking.blockAt 2592100) (by decide) (by decide)
      (by decide) _ rfl (by decide) 2592000 (by decide) (by decide) (by decide) (by decide)
  exact ⟨next, response, commits, removed⟩

end Interleaving

end CosmwasmContracts.System
