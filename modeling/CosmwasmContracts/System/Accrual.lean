import CosmwasmContracts.System.Invariants
import CosmwasmContracts.Staking.Lockup

/-! Rewards against what was earned. The integral of an address's stake over time is what
interest is due on; as long as nothing is added to an entry that is already running,
what the contract owes it and what it has minted to it stay under that integral. -/

namespace CosmwasmContracts.System
open Library.CheckedWord Library.FiniteMap Library.TransactionMachine Library.TimedHistory
  CosmwasmStd CwOwnable Staking

/-- The interest running on an entry, before it is divided. -/
def owed (rate : Nat) (user : Addr) (storage : Staking.Storage) (now : Nat) : Nat :=
  rate * (stakedAmount storage user * (now - resumes storage now user))

section Step

variable {before next : Staking.Storage} {contract : Addr} {tx : Staking.Tx}
variable {messages : List CosmosMsg} {user : Addr} {rate now : Nat}

theorem owed_of_absent (rate now : Nat) {storage : Staking.Storage}
    (absent : storage.stakes.mayLoad user = none) : owed rate user storage now = 0 := by
  rw [owed, stakedAmount_of_absent absent, Nat.zero_mul, Nat.mul_zero]

theorem owed_of_present (rate now : Nat) {storage : Staking.Storage} {entry : StakeInfo}
    (present : storage.stakes.mayLoad user = some entry) : owed rate user storage now =
      rate * (entry.amount.toNat * (now - entry.stakeTime.seconds.toNat)) := by
  rw [owed, stakedAmount_of_present present, resumes_of_present _ present]

theorem owed_congr (rate now : Nat) {first second : Staking.Storage}
    (same : first.stakes.mayLoad user = second.stakes.mayLoad user) :
    owed rate user first now = owed rate user second now := by
  unfold owed resumes stakedAmount Map.value
  rw [same]

theorem owed_restarted (rate : Nat) {storage : Staking.Storage} {time : Timestamp}
    (restarted : ∀ kept, storage.stakes.mayLoad user = some kept → kept.stakeTime = time) :
    owed rate user storage time.seconds.toNat = 0 := by
  rw [owed, resumes_restarted restarted, Nat.sub_self, Nat.mul_zero, Nat.mul_zero]

theorem owed_elapses (rate : Nat) (user : Addr) (storage : Staking.Storage) (now later : Nat) :
    owed rate user storage later ≤
      owed rate user storage now + rate * (stakedAmount storage user * (later - now)) := by
  cases stored : storage.stakes.mayLoad user with
  | none =>
    rw [owed_of_absent _ _ stored]
    exact Nat.zero_le _
  | some entry =>
    rw [owed_of_present _ _ stored, owed_of_present _ _ stored, stakedAmount_of_present stored,
      ← Nat.mul_add, ← Nat.mul_add]
    apply Nat.mul_le_mul_left
    apply Nat.mul_le_mul_left
    omega

/-- One message: what it mints to an address comes off what the address is owed, unless
it adds tokens to an entry that has been running. -/
theorem effect_owed
    (effect : Effect before tx.block.time contract tx.sender tx.msg next messages)
    (current : before.config.apr.toNat = rate) {response : Response}
    (prompt : rate = 0 ∨ lateTopUps user before tx response = []) :
    rewardUnit * mintedTo user messages + owed rate user next (seconds tx) ≤
      owed rate user before (seconds tx) := by
  by_cases paid : tx.sender = user ∧ tx.msg.Pays
  · obtain ⟨rfl, pays⟩ := paid
    obtain ⟨entry, reward, payout, minted, restarted⟩ := effect_payment effect pays
    have settled : owed rate tx.sender next (seconds tx) = 0 := owed_restarted rate restarted
    rw [settled, minted, payout.exact, owed_of_present _ _ payout.present, Nat.add_zero, current]
    -- The floor of the quotient, multiplied out again, is at most the interest that has run.
    calc
      rewardUnit * exactReward entry.amount.toNat rate (seconds tx - entry.stakeTime.seconds.toNat) ≤
          entry.amount.toNat * rate * (seconds tx - entry.stakeTime.seconds.toNat) :=
        exactReward_mul_le _ _ _
      _ = rate * (entry.amount.toNat * (seconds tx - entry.stakeTime.seconds.toNat)) := by
        rw [Nat.mul_comm entry.amount.toNat rate, Nat.mul_assoc]
  · rw [(effect_quiet effect paid).1, Nat.mul_zero, Nat.zero_add]
    by_cases own : tx.sender = user
    · obtain ⟨block, sender, msg, dispatched⟩ := tx
      subst own
      cases effect with
      | opened amount total absent sum =>
        rw [owed_of_present _ _ (Map.mayLoad_save_self _ _ _)]
        change rate * (amount.toNat * (block.time.seconds.toNat - block.time.seconds.toNat)) ≤ _
        rw [Nat.sub_self, Nat.mul_zero, Nat.mul_zero]
        exact Nat.zero_le _
      | toppedUp amount held total entry present grown sum =>
        rw [owed_of_present _ _ (Map.mayLoad_save_self _ _ _), owed_of_present _ _ present]
        rcases prompt with free | prompt
        · rw [free, Nat.zero_mul, Nat.zero_mul]
        · rcases lateTopUps_eq_nil prompt rfl rfl present with nothing | together
          · rw [grown, nothing, Nat.add_zero]
          · rw [together, Nat.sub_self, Nat.mul_zero]
            exact Nat.zero_le _
      | reduced | closed | claimed => exact (paid ⟨rfl, trivial⟩).elim
      | reconfigured | reowned => exact le_rfl
    · have frame := effect_frame effect (Ne.symm own)
      exact (owed_congr rate _ frame).le

end Step

/-- What a message to the staking contract mints to an address. -/
def rewardedBy (user : Addr) (_ : World) (tx : Tx) (response : Response) : Nat :=
  match tx.msg with
  | .token _ => 0
  | .staking _ => mintedTo user response.messages

/-- Deposits of something into an entry that has been running since an earlier second. -/
def lateDeposits (user : Addr) (world : World) (tx : Tx) (response : Response) : List (Nat × Nat) :=
  match tx.msg with
  | .token _ => []
  | .staking msg => lateTopUps user world.staking ⟨tx.block, tx.sender, msg, true⟩ response

def blockSeconds (tx : Tx) : Nat := tx.block.time.seconds.toNat

def blockNanos (tx : Tx) : Nat := tx.block.time.nanos.toNat

section Run

variable {host : Host} {world next : World} {tx : Tx} {response : Response} {user : Addr} {rate : Nat}

theorem exec_owed (current : world.staking.config.apr.toNat = rate)
    (prompt : rate = 0 ∨ lateDeposits user world tx response = [])
    (commits : (system host).exec world tx = .ok (next, response)) :
    rewardUnit * rewardedBy user world tx response + owed rate user next.staking (blockSeconds tx) ≤
      owed rate user world.staking (blockSeconds tx) := by
  unfold rewardedBy
  unfold lateDeposits at prompt
  cases asked : tx.msg with
  | token msg =>
    rw [exec_token asked] at commits
    rw [commits.2, Nat.mul_zero, Nat.zero_add]
  | staking msg =>
    rw [asked] at prompt
    rw [exec_staking asked] at commits
    have effect : Effect world.staking (Staking.Tx.block ⟨tx.block, tx.sender, msg, true⟩).time
        host.staking (Staking.Tx.sender ⟨tx.block, tx.sender, msg, true⟩)
        (Staking.Tx.msg ⟨tx.block, tx.sender, msg, true⟩) next.staking response.messages :=
      execute_effect commits.1
    exact effect_owed effect current prompt

/-- Over any run at one rate in which an address adds nothing to an entry that has been
running since an earlier second: what the contract mints to the address stays under the
rate times the integral of its stake. -/
theorem rewards_earned (host : Host) (world : World) (launched : Launched host world) (genesis : Nat)
    (txs : List Tx) (constant : ∀ tx ∈ txs, ¬tx.Reconfigures) (user : Addr)
    (prompt : world.staking.config.apr.toNat = 0 ∨
      (system host).observe (lateDeposits user) world txs = []) :
    rewardUnit * (system host).tally (rewardedBy user) world txs ≤
      world.staking.config.apr.toNat *
        integral (system host) blockSeconds (fun state => stakedAmount state.staking user)
          genesis world txs := by
  have absent : world.staking.stakes.mayLoad user = none := by
    obtain ⟨msg, response, made, _⟩ := launched.staking
    rw [(instantiate_empty made).1, Map.mayLoad_empty]
  have bound := tally_le_integral (system host) blockSeconds (fun state => stakedAmount state.staking user)
    rewardUnit world.staking.config.apr.toNat (rewardedBy user)
    (fun state now => owed world.staking.config.apr.toNat user state.staking now)
    genesis world txs (owed_of_absent _ _ absent)
    (fun state now later => owed_elapses _ user state.staking now later) ?_
  · omega
  · intro earlier tx next response within commits
    have before : ∀ other ∈ earlier, ¬other.Reconfigures := fun other member =>
      constant other (within.subset (List.mem_append_left _ member))
    refine exec_owed (congrArg (fun config => config.apr.toNat) (run_config before)) ?_ commits
    exact prompt.imp_right fun silent => Machine.see_eq_nil_of_prefix _ _ silent within commits

end Run

/-- One token staked for thirty days, and a million more just before its reward is claimed. -/
def lateMillion : List Tx :=
  [⟨Staking.blockAt 100, ⟨"user1"⟩, .staking (.stake (word 1))⟩,
    ⟨Staking.blockAt 2592100, ⟨"user1"⟩, .staking (.stake (word 1000000))⟩,
    ⟨Staking.blockAt 2592100, ⟨"user1"⟩, .staking .claimRewards⟩]

/-- The million is paid for thirty days it was not there. -/
theorem lateMillion_not_earned :
    Ordered blockNanos 0 lateMillion ∧ (∀ tx ∈ lateMillion, tx.External testHost) ∧
    (∀ tx ∈ lateMillion, ¬tx.Reconfigures) ∧
    ¬rewardUnit * (system testHost).tally (rewardedBy ⟨"user1"⟩) testWorld lateMillion ≤
      testWorld.staking.config.apr.toNat *
        integral (system testHost) blockSeconds (fun state => stakedAmount state.staking ⟨"user1"⟩)
          0 testWorld lateMillion := by
  decide

/-- Two deposits in one block, and everything paid out in three steps. -/
def promptMillion : List Tx :=
  [⟨Staking.blockAt 100, ⟨"user1"⟩, .staking (.stake (word 1))⟩,
    ⟨Staking.blockAt 100, ⟨"user1"⟩, .staking (.stake (word 1000000))⟩,
    ⟨Staking.blockAt 2592100, ⟨"user1"⟩, .staking .claimRewards⟩,
    ⟨Staking.blockAt 2592200, ⟨"user1"⟩, .token (.transfer "user2" (word 3))⟩,
    ⟨Staking.blockAt 5184100, ⟨"user1"⟩, .staking (.unstake (word 400000))⟩,
    ⟨Staking.blockAt 9000000, ⟨"user1"⟩, .staking (.unstake (word 600001))⟩]

theorem rewards_earned_promptMillion :
    rewardUnit * (system testHost).tally (rewardedBy ⟨"user1"⟩) testWorld promptMillion ≤
      testWorld.staking.config.apr.toNat *
        integral (system testHost) blockSeconds (fun state => stakedAmount state.staking ⟨"user1"⟩)
          0 testWorld promptMillion :=
  rewards_earned testHost testWorld testWorld_launched 0 promptMillion (by decide) ⟨"user1"⟩
    (Or.inr (by decide))

example : (system testHost).tally (rewardedBy ⟨"user1"⟩) testWorld promptMillion = 23698 := by decide

end CosmwasmContracts.System
