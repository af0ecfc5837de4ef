import CosmwasmContracts.System.Health
import CosmwasmContracts.Staking.Windows
import CosmwasmContracts.Library.RoundedShares

/-! The interest account of an address, in tokens times seconds. What its stake gathers over
time, with what its later deposits are credited for the time before them, is either settled
by a payout, at the rate in force then, or still outstanding. -/

namespace CosmwasmContracts.System
open Library.CheckedWord Library.FiniteMap Library.TransactionMachine Library.TimedHistory
  Library.RoundedShares CosmwasmStd CwOwnable Staking

/-- A payout: the rate it is made at and the tokens times seconds that it settles. -/
structure Settlement where
  rate : Nat
  volume : Nat
  deriving DecidableEq

def Settlement.exact (settlement : Settlement) : Nat := settlement.rate * settlement.volume

def Settlement.price (settlement : Settlement) : Nat := settlement.exact / rewardUnit

/-- What has gathered on an entry since its time. -/
def outstanding (user : Addr) (storage : Staking.Storage) (now : Nat) : Nat :=
  stakedAmount storage user * (now - resumes storage now user)

def settlements (user : Addr) (world : World) (tx : Tx) (_ : Response) : List Settlement :=
  match tx.msg with
  | .token _ => []
  | .staking msg =>
      if tx.sender = user ∧ msg.Pays then
        [{ rate := world.staking.config.apr.toNat,
           volume := outstanding user world.staking (blockSeconds tx) }]
      else []

def settledVolume (user : Addr) (world : World) (tx : Tx) (response : Response) : Nat :=
  ((settlements user world tx response).map Settlement.volume).sum

/-- What a deposit is credited for the time before it, from the time of the entry it joins. -/
def backdated (user : Addr) (world : World) (tx : Tx) (_ : Response) : Nat :=
  match tx.msg with
  | .token _ => 0
  | .staking msg =>
      deposited user tx.sender msg * (blockSeconds tx - resumes world.staking (blockSeconds tx) user)

section Outstanding

variable {storage : Staking.Storage} {user : Addr}

theorem outstanding_of_present (now : Nat) {entry : StakeInfo}
    (present : storage.stakes.mayLoad user = some entry) :
    outstanding user storage now = entry.amount.toNat * (now - entry.stakeTime.seconds.toNat) := by
  rw [outstanding, stakedAmount_of_present present, resumes_of_present _ present]

theorem outstanding_of_absent (now : Nat) (absent : storage.stakes.mayLoad user = none) :
    outstanding user storage now = 0 := by
  rw [outstanding, stakedAmount_of_absent absent, Nat.zero_mul]

theorem outstanding_congr {other : Staking.Storage} (now : Nat)
    (same : other.stakes.mayLoad user = storage.stakes.mayLoad user) :
    outstanding user other now = outstanding user storage now := by
  unfold outstanding resumes stakedAmount Map.value
  rw [same]

theorem outstanding_restarted {time : Timestamp}
    (restarted : ∀ kept, storage.stakes.mayLoad user = some kept → kept.stakeTime = time) :
    outstanding user storage time.seconds.toNat = 0 := by
  rw [outstanding, resumes_restarted restarted, Nat.sub_self, Nat.mul_zero]

/-- With no clock ahead, time adds the stake for every second. -/
theorem outstanding_elapses {nanos later : Nat} (times : TimesReached storage nanos)
    (ordered : wholeSeconds nanos ≤ later) :
    outstanding user storage later =
      outstanding user storage (wholeSeconds nanos) +
        stakedAmount storage user * (later - wholeSeconds nanos) := by
  cases stored : storage.stakes.mayLoad user with
  | none =>
    rw [outstanding_of_absent _ stored, outstanding_of_absent _ stored, stakedAmount_of_absent stored,
      Nat.zero_mul]
  | some entry =>
    have started : entry.stakeTime.seconds.toNat ≤ wholeSeconds nanos :=
      wholeSeconds_mono (times user entry stored)
    rw [outstanding_of_present _ stored, outstanding_of_present _ stored, stakedAmount_of_present stored,
      ← Nat.mul_add]
    congr 1
    omega

end Outstanding

section Step

variable {before after : Staking.Storage} {now : Timestamp} {contract sender user : Addr}
variable {msg : Staking.ExecuteMsg} {messages : List CosmosMsg}

/-- A deposit joins the clock of its entry, and starts one where there is none. -/
theorem stake_outstanding {amount : Uint128}
    (effect : Effect before now contract sender (.stake amount) after messages) :
    outstanding sender after now.seconds.toNat =
      outstanding sender before now.seconds.toNat +
        amount.toNat * (now.seconds.toNat - resumes before now.seconds.toNat sender) := by
  cases effect with
  | opened _ total absent sum =>
    rw [outstanding_of_present _ (Map.mayLoad_save_self _ _ _), outstanding_of_absent _ absent,
      resumes_of_absent _ absent, Nat.zero_add]
  | toppedUp _ held total entry present grown sum =>
    rw [outstanding_of_present _ (Map.mayLoad_save_self _ _ _), outstanding_of_present _ present,
      resumes_of_present _ present, grown, Nat.add_mul]

/-- Whatever pays nothing to an address leaves what is outstanding, deposits apart. -/
theorem unpaid_outstanding (effect : Effect before now contract sender msg after messages)
    (unpaid : ¬(sender = user ∧ msg.Pays)) :
    outstanding user after now.seconds.toNat =
      outstanding user before now.seconds.toNat + deposited user sender msg *
        (now.seconds.toNat - resumes before now.seconds.toNat user) := by
  by_cases own : sender = user
  · subst own
    cases msg with
    | stake amount =>
      rw [stake_outstanding effect]
      simp only [deposited, if_true]
    | changeConfig | updateOwnership =>
      change _ = _ + 0 * _
      rw [Nat.zero_mul, Nat.add_zero]
      cases effect
      rfl
    | unstake | claimRewards => exact (unpaid ⟨rfl, trivial⟩).elim
  · rw [deposited_of_ne own, Nat.zero_mul, Nat.add_zero]
    exact outstanding_congr _ (effect_frame effect (Ne.symm own))

end Step

section Run

variable {host : Host} {world next : World} {tx : Tx} {response : Response} {user : Addr}

/-- A payout settles all that is outstanding; a deposit adds what it is credited for. -/
theorem exec_settles (commits : (system host).exec world tx = .ok (next, response)) :
    settledVolume user world tx response + outstanding user next.staking (blockSeconds tx) =
      outstanding user world.staking (blockSeconds tx) + backdated user world tx response := by
  unfold settledVolume settlements backdated
  cases asked : tx.msg with
  | token msg =>
    rw [exec_token asked] at commits
    rw [commits.2]
    exact Nat.zero_add _
  | staking msg =>
    rw [exec_staking asked] at commits
    have effect := execute_effect commits.1
    by_cases paid : tx.sender = user ∧ msg.Pays
    · simp only [if_pos paid, List.map_singleton, List.sum_singleton]
      obtain ⟨own, pays⟩ := paid
      obtain ⟨entry, reward, payout, _, restarted⟩ := effect_payment effect pays
      have settled : outstanding tx.sender next.staking (blockSeconds tx) = 0 :=
        outstanding_restarted restarted
      rw [deposited_of_pays pays, Nat.zero_mul, Nat.add_zero, ← own, settled, Nat.add_zero]
    · simp only [if_neg paid, List.map_nil, List.sum_nil, Nat.zero_add]
      exact unpaid_outstanding effect paid

/-- What a message mints to an address is the price of what it settles. -/
theorem exec_price (commits : (system host).exec world tx = .ok (next, response)) :
    ((settlements user world tx response).map Settlement.price).sum = rewardedBy user world tx response := by
  unfold settlements rewardedBy
  cases asked : tx.msg with
  | token msg => rfl
  | staking msg =>
    rw [exec_staking asked] at commits
    have effect := execute_effect commits.1
    by_cases paid : tx.sender = user ∧ msg.Pays
    · simp only [if_pos paid, List.map_singleton, List.sum_singleton]
      obtain ⟨own, pays⟩ := paid
      obtain ⟨entry, reward, payout, minted, _⟩ := effect_payment effect pays
      change mintedTo tx.sender response.messages = reward.toNat at minted
      rw [← own, minted, payout.exact, Settlement.price, Settlement.exact,
        outstanding_of_present _ payout.present, exactReward, ← Nat.mul_assoc,
        Nat.mul_comm world.staking.config.apr.toNat]
      rfl
    · simp only [if_neg paid, List.map_nil, List.sum_nil]
      exact (effect_quiet effect paid).1.symm

end Run

/-- The interest account of an address over any run: with rates that change, deposits at any
time and payouts of any size. What was minted to it is the sum of the prices of its
settlements. What they settle, with what is outstanding, is the integral of its stake with
what its deposits were credited for the time before them: no token-second is lost and none
is settled twice. Rounding costs the address less than one base unit for each payout. -/
theorem interest_accounted (host : Host) (world : World) (launched : Launched host world) (genesis : Nat)
    (txs : List Tx) (ordered : Ordered blockNanos genesis txs) (user : Addr)
    (paid : List Settlement) (seen : paid = (system host).observe (settlements user) world txs) :
    (system host).tally (rewardedBy user) world txs = (paid.map Settlement.price).sum ∧
    (paid.map Settlement.volume).sum +
        outstanding user ((system host).run world txs).staking (wholeSeconds (reached blockNanos genesis txs)) =
      integral (system host) blockSeconds (fun state => stakedAmount state.staking user)
          (wholeSeconds genesis) world txs +
        (system host).tally (backdated user) world txs ∧
    rewardUnit * (system host).tally (rewardedBy user) world txs ≤ (paid.map Settlement.exact).sum ∧
    (paid.map Settlement.exact).sum + paid.length ≤
      rewardUnit * ((system host).tally (rewardedBy user) world txs + paid.length) := by
  have priced : (system host).tally (rewardedBy user) world txs = (paid.map Settlement.price).sum := by
    rw [seen]
    exact (Machine.sum_observe _ _ _ Settlement.price (fun _ _ _ _ commits => exec_price commits) world txs).symm
  have volumes : (paid.map Settlement.volume).sum =
      (system host).tally (settledVolume user) world txs := by
    rw [seen]
    exact Machine.sum_map_observe _ _ _ Settlement.volume (fun _ _ _ => rfl) world txs
  have rounded : Rounded rewardUnit (paid.map Settlement.exact).sum
      (paid.map Settlement.price).sum paid.length := by
    have divisible : 0 < rewardUnit := by decide
    have each := Rounded.list divisible (paid.map Settlement.exact)
    rw [List.map_map, List.length_map] at each
    exact each
  refine ⟨priced, ?_, ?_, ?_⟩
  · have absent : world.staking.stakes.mayLoad user = none := by
      obtain ⟨msg, response, made, _⟩ := launched.staking
      rw [(instantiate_empty made).1, Map.mayLoad_empty]
    have coarse : reached blockSeconds (wholeSeconds genesis) txs = wholeSeconds (reached blockNanos genesis txs) :=
      reached_map blockNanos wholeSeconds genesis txs
    rw [volumes, ← coarse]
    apply accounts_balance (system host) blockSeconds _ (settledVolume user) (backdated user)
      (fun state now => outstanding user state.staking now)
    · exact outstanding_of_absent _ absent
    · intro earlier tx within
      obtain ⟨past, later⟩ := (ordered_snoc blockNanos genesis earlier tx).mp (ordered_earlier _ ordered within)
      have times := run_clocks launched past
      have before : reached blockSeconds (wholeSeconds genesis) earlier =
          wholeSeconds (reached blockNanos genesis earlier) := reached_map blockNanos wholeSeconds genesis earlier
      rw [before]
      exact outstanding_elapses times (wholeSeconds_mono later)
    · exact fun earlier tx next output _ commits => exec_settles commits
  · rw [priced]
    exact rounded.below
  · rw [priced]
    exact rounded.above

/-- A deposit, a doubled rate, more added to the running entry, a claim and half of it out. -/
def doubledOnTheWay : List Tx :=
  [⟨Staking.blockAt 100, ⟨"user1"⟩, .staking (.stake (word 1000000))⟩,
    ⟨Staking.blockAt 1000100, ⟨"owner"⟩, .staking (.changeConfig (word 2000) (word 3600))⟩,
    ⟨Staking.blockAt 2000100, ⟨"user1"⟩, .staking (.stake (word 500000))⟩,
    ⟨Staking.blockAt 3000100, ⟨"user1"⟩, .staking .claimRewards⟩,
    ⟨Staking.blockAt 3000200, ⟨"user1"⟩, .staking .claimRewards⟩,
    ⟨Staking.blockAt 4000100, ⟨"user1"⟩, .staking (.unstake (word 700000))⟩,
    ⟨Staking.blockAt 5000100, ⟨"user1"⟩, .token (.transfer "user2" (word 9))⟩]

theorem interest_accounted_doubledOnTheWay :
    (system testHost).tally (rewardedBy ⟨"user1"⟩) testWorld doubledOnTheWay = 28538 + 9512 ∧
    (4500000000000 + 1500000000000) +
        outstanding ⟨"user1"⟩ ((system testHost).run testWorld doubledOnTheWay).staking 5000100 =
      integral (system testHost) blockSeconds (fun state => stakedAmount state.staking ⟨"user1"⟩)
          0 testWorld doubledOnTheWay + 1000000000000 := by
  have accounted := interest_accounted testHost testWorld testWorld_launched 0 doubledOnTheWay (by decide)
    ⟨"user1"⟩ [⟨2000, 4500000000000⟩, ⟨2000, 1500000000000⟩] (by decide)
  have credited : (system testHost).tally (backdated ⟨"user1"⟩) testWorld doubledOnTheWay = 1000000000000 := by
    decide
  rw [credited] at accounted
  exact ⟨accounted.1, accounted.2.1⟩

end CosmwasmContracts.System
