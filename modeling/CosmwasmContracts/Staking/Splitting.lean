import CosmwasmContracts.Library.RoundedShares
import CosmwasmContracts.Staking.Payouts

/-! Splitting a principal among addresses, or its time among payouts, gains nothing. The
windows of an address that leaves its deposit alone are adjacent, so that its payouts are
shares, each rounded down once, of one exact reward. -/

namespace CosmwasmContracts.Staking
open Library.CheckedWord Library.FiniteMap Library.TransactionMachine Library.TimedHistory
  Library.RoundedShares CosmwasmStd CwOwnable

/-- The messages by which an address deals with its own entry. -/
def ExecuteMsg.OfStaker : ExecuteMsg → Prop
  | .stake _ => True
  | .unstake _ => True
  | .claimRewards => True
  | _ => False

instance decidableOfStaker : (msg : ExecuteMsg) → Decidable msg.OfStaker
  | .stake _ => .isTrue trivial
  | .unstake _ => .isTrue trivial
  | .claimRewards => .isTrue trivial
  | .changeConfig _ _ => .isFalse id
  | .updateOwnership _ => .isFalse id

/-- The payouts that leave the principal: ClaimRewards and an Unstake of nothing. -/
def ExecuteMsg.KeepsPrincipal (msg : ExecuteMsg) : Prop :=
  msg = .claimRewards ∨ msg = .unstake Word.zero

instance decidableKeepsPrincipal (msg : ExecuteMsg) : Decidable msg.KeepsPrincipal :=
  inferInstanceAs (Decidable (msg = .claimRewards ∨ msg = .unstake Word.zero))

/-- An address's own dealings, seen in order. -/
def dealings (user : Addr) (_ : Storage) (tx : Tx) (_ : Response) : List Tx :=
  if tx.sender = user ∧ tx.msg.OfStaker then [tx] else []

section Step

variable {before next : Storage} {now : Timestamp} {contract sender user : Addr} {msg : ExecuteMsg}
variable {messages : List CosmosMsg}

theorem ExecuteMsg.OfStaker.of_pays (pays : msg.Pays) : msg.OfStaker := by
  cases msg with
  | unstake | claimRewards => trivial
  | stake | changeConfig | updateOwnership => exact pays.elim

theorem ExecuteMsg.KeepsPrincipal.pays (keeps : msg.KeepsPrincipal) : msg.Pays := by
  rcases keeps with rfl | rfl
  · trivial
  · trivial

/-- Whatever is none of an address's dealings leaves its entry and pays it nothing. -/
theorem effect_uninvolved (effect : Effect before now contract sender msg next messages)
    (uninvolved : ¬(sender = user ∧ msg.OfStaker)) :
    next.stakes.mayLoad user = before.stakes.mayLoad user ∧ mintedTo user messages = 0 := by
  have quiet : ¬(sender = user ∧ msg.Pays) :=
    fun paid => uninvolved ⟨paid.1, ExecuteMsg.OfStaker.of_pays paid.2⟩
  refine ⟨?_, (effect_quiet effect quiet).1⟩
  by_cases own : sender = user
  · cases effect with
    | reconfigured | reowned => rfl
    | opened | toppedUp | reduced | closed | claimed => exact (uninvolved ⟨own, trivial⟩).elim
  · exact effect_frame effect (Ne.symm own)

/-- A payout that keeps the principal restarts the entry's clock and nothing else. -/
theorem effect_kept (effect : Effect before now contract sender msg next messages)
    (keeps : msg.KeepsPrincipal) {entry : StakeInfo} (held : before.stakes.mayLoad sender = some entry)
    (positive : entry.amount.toNat ≠ 0) :
    next.stakes.mayLoad sender = some { amount := entry.amount, stakeTime := now } := by
  cases effect with
  | claimed reward other payout paid =>
    cases held.symm.trans payout.present
    exact Map.mayLoad_save_self _ _ _
  | reduced amount rest reward total other payout remaining parts =>
    cases held.symm.trans payout.present
    obtain rfl : amount = Word.zero := by
      rcases keeps with impossible | same
      · cases impossible
      · exact ExecuteMsg.unstake.inj same
    obtain rfl : rest = entry.amount := Word.ext parts
    exact Map.mayLoad_save_self _ _ _
  | closed amount reward total other payout all =>
    cases held.symm.trans payout.present
    rcases keeps with impossible | same
    · cases impossible
    · cases ExecuteMsg.unstake.inj same
      exact (positive all.symm).elim
  | opened | toppedUp | reconfigured | reowned => exact keeps.pays.elim

end Step

section Kept

/-- Nothing yet, or a deposit in second `began` and payouts that keep it. -/
def LeftAlone (amount : Uint128) (began : Nat) : List Tx → Prop
  | [] => True
  | opening :: payouts =>
      opening.msg = .stake amount ∧ seconds opening = began ∧ ∀ tx ∈ payouts, tx.msg.KeepsPrincipal

/-- What a deposit that is left alone has earned: nothing before it is made, and then every
payout rounds down its share of the interest from the deposit to the entry's time. -/
def Earned (amount : Uint128) (rate began : Nat) (storage : Storage) (user : Addr) (total : Nat) :
    List Tx → Prop
  | [] => storage.stakes.mayLoad user = none ∧ total = 0
  | _ :: payouts =>
      ∃ entry, storage.stakes.mayLoad user = some entry ∧ entry.amount = amount ∧
        entry.stakeTime.seconds.toNat = reached seconds began payouts ∧
        began ≤ reached seconds began payouts ∧
        Rounded rewardUnit (amount.toNat * rate * (reached seconds began payouts - began)) total
          payouts.length

variable {amount : Uint128} {rate began total : Nat} {storage next : Storage} {user : Addr} {seen : List Tx}
variable {tx : Tx} {contract : Addr} {messages : List CosmosMsg}

theorem LeftAlone.earlier (alone : LeftAlone amount began (seen ++ [tx])) : LeftAlone amount began seen := by
  cases seen with
  | nil => trivial
  | cons opening payouts =>
    obtain ⟨staked, second, kept⟩ := alone
    exact ⟨staked, second, fun other member => kept other (List.mem_append_left _ member)⟩

theorem Earned.frame (earned : Earned amount rate began storage user total seen)
    (same : next.stakes.mayLoad user = storage.stakes.mayLoad user) :
    Earned amount rate began next user total seen := by
  cases seen with
  | nil => exact ⟨same.trans earned.1, earned.2⟩
  | cons opening payouts =>
    obtain ⟨entry, present, rest⟩ := earned
    exact ⟨entry, same.trans present, rest⟩

/-- The next dealing: the deposit itself, or a payout for the window since the last one. -/
theorem Earned.deal (earned : Earned amount rate began storage tx.sender total seen)
    (alone : LeftAlone amount began (seen ++ [tx])) (positive : amount.toNat ≠ 0)
    (constant : storage.config.apr.toNat = rate)
    (effect : Effect storage tx.block.time contract tx.sender tx.msg next messages) :
    Earned amount rate began next tx.sender (total + mintedTo tx.sender messages) (seen ++ [tx]) := by
  cases seen with
  | nil =>
    obtain ⟨absent, nothing⟩ := earned
    obtain ⟨staked, second, _⟩ := alone
    rw [staked] at effect
    have unpaid : mintedTo tx.sender messages = 0 := (effect_quiet effect fun paid => paid.2).1
    refine ⟨_, (stake_effect_opens effect absent).1, rfl, second, le_rfl, ?_⟩
    change Rounded rewardUnit (amount.toNat * rate * (began - began)) _ 0
    rw [Nat.sub_self, Nat.mul_zero, nothing, unpaid]
    exact Rounded.nothing rewardUnit
  | cons opening payouts =>
    obtain ⟨entry, present, rfl, timed, later, rounded⟩ := earned
    obtain ⟨_, _, kept⟩ := alone
    have keeps : tx.msg.KeepsPrincipal := kept tx (List.mem_append_right _ (List.mem_singleton.mpr rfl))
    obtain ⟨other, reward, payout, minted, _⟩ := effect_payment effect keeps.pays
    cases present.symm.trans payout.present
    have started : reached seconds began payouts ≤ seconds tx := timed ▸ payout.started
    have price : reward.toNat =
        entry.amount.toNat * rate * (seconds tx - reached seconds began payouts) / rewardUnit := by
      rw [payout.exact, constant, timed]
      rfl
    have window : seconds tx - began =
        reached seconds began payouts - began + (seconds tx - reached seconds began payouts) := by omega
    rw [List.cons_append]
    refine ⟨_, effect_kept effect keeps present positive, rfl, ?_, ?_, ?_⟩
    · exact (reached_snoc seconds began payouts tx).symm
    · rw [reached_snoc]
      exact later.trans started
    · rw [reached_snoc, window, Nat.mul_add, List.length_append, minted, price]
      exact rounded.add (Rounded.share (by decide) _)

end Kept

section Run

variable (machine : Machine Storage Tx TxError Response) (start : Storage) (txs : List Tx)

/-- The rate is the same in every state of a history. -/
def ConstantApr (rate : Nat) : Prop :=
  ∀ earlier, earlier <+: txs → (machine.run start earlier).config.apr.toNat = rate

instance decidableConstantApr (rate : Nat) : Decidable (ConstantApr machine start txs rate) :=
  decidable_of_iff (∀ earlier ∈ txs.inits, (machine.run start earlier).config.apr.toNat = rate) (by
    simp only [List.mem_inits, ConstantApr])

theorem ConstantApr.earlier {machine : Machine Storage Tx TxError Response} {start : Storage} {txs : List Tx}
    {tx : Tx} {rate : Nat} (constant : ConstantApr machine start (txs ++ [tx]) rate) :
    ConstantApr machine start txs rate :=
  fun _ within => constant _ (within.trans (List.prefix_append txs [tx]))

theorem ConstantApr.reached {machine : Machine Storage Tx TxError Response} {start : Storage} {txs : List Tx}
    {tx : Tx} {rate : Nat} (constant : ConstantApr machine start (txs ++ [tx]) rate) :
    (machine.run start txs).config.apr.toNat = rate := constant txs (List.prefix_append txs [tx])

/-- An address without an entry at the start makes one deposit, in second `began`, and then
payouts that keep it, the last of them in second `ended`. -/
structure KeepsDeposit (user : Addr) (amount : Uint128) (began ended : Nat) (payouts : List Tx) : Prop where
  fresh : start.stakes.mayLoad user = none
  positive : amount.toNat ≠ 0
  deals : ∃ opening, machine.observe (dealings user) start txs = opening :: payouts ∧
    opening.msg = .stake amount ∧ seconds opening = began
  paid : payouts ≠ []
  keeps : ∀ tx ∈ payouts, tx.msg.KeepsPrincipal
  last : reached seconds began payouts = ended

end Run

theorem run_earned (api : Api) (ownable : Package) (contract : Addr) {start : Storage} {user : Addr}
    {amount : Uint128} {rate : Nat} (began : Nat) (fresh : start.stakes.mayLoad user = none)
    (positive : amount.toNat ≠ 0) (txs : List Tx)
    (constant : ConstantApr (machine api ownable contract) start txs rate)
    (alone : LeftAlone amount began ((machine api ownable contract).observe (dealings user) start txs)) :
    Earned amount rate began ((machine api ownable contract).run start txs) user
      ((machine api ownable contract).tally (rewardedTo user) start txs)
      ((machine api ownable contract).observe (dealings user) start txs) := by
  revert constant alone
  apply Machine.history_rule (machine api ownable contract)
    (motive := fun txs storage => ConstantApr (machine api ownable contract) start txs rate →
      LeftAlone amount began ((machine api ownable contract).observe (dealings user) start txs) →
        Earned amount rate began storage user
          ((machine api ownable contract).tally (rewardedTo user) start txs)
          ((machine api ownable contract).observe (dealings user) start txs)) start
  · exact fun _ _ => ⟨fresh, rfl⟩
  · intro txs tx next response ih commits constant alone
    have effect := commit_effect commits
    rw [Machine.observe_snoc_ok _ _ commits] at alone ⊢
    rw [Machine.tally_snoc_ok _ _ commits]
    by_cases own : tx.sender = user ∧ tx.msg.OfStaker
    · have seen : dealings user ((machine api ownable contract).run start txs) tx response = [tx] :=
        if_pos own
      obtain ⟨rfl, _⟩ := own
      rw [seen] at alone ⊢
      exact (ih constant.earlier alone.earlier).deal alone positive constant.reached effect
    · have unseen : dealings user ((machine api ownable contract).run start txs) tx response = [] :=
        if_neg own
      obtain ⟨same, unpaid⟩ := effect_uninvolved effect own
      rw [unseen, List.append_nil] at alone ⊢
      rw [rewardedTo, unpaid, Nat.add_zero]
      exact (ih constant.earlier alone).frame same
  · intro txs tx reason ih fails constant alone
    rw [Machine.observe_snoc_error _ _ fails] at alone ⊢
    rw [Machine.tally_snoc_error _ _ fails]
    exact ih constant.earlier alone

/-- One address: its payouts are so many rounded shares of the interest on its deposit. -/
theorem KeepsDeposit.rounded {api : Api} {ownable : Package} {contract : Addr} {start : Storage}
    {txs payouts : List Tx} {user : Addr} {amount : Uint128} {rate began elapsed : Nat}
    (keeps : KeepsDeposit (machine api ownable contract) start txs user amount began (began + elapsed) payouts)
    (constant : ConstantApr (machine api ownable contract) start txs rate) :
    Rounded rewardUnit (amount.toNat * rate * elapsed)
      ((machine api ownable contract).tally (rewardedTo user) start txs) payouts.length := by
  obtain ⟨opening, seen, staked, second⟩ := keeps.deals
  have earned := run_earned api ownable contract began keeps.fresh keeps.positive txs constant
  rw [seen] at earned
  obtain ⟨_, _, _, _, _, rounded⟩ := earned ⟨staked, second, keeps.keeps⟩
  rw [keeps.last, Nat.add_sub_cancel_left] at rounded
  exact rounded

/-- However a principal is split among addresses and its time among payouts, the total reward
is at most that of the whole, and short of it by at most one token for each payout beyond
the first. -/
theorem splitting_gains_nothing (api : Api) (ownable : Package) (contract : Addr) (start : Storage)
    (txs : List Tx) (rate began elapsed : Nat)
    (constant : ConstantApr (machine api ownable contract) start txs rate) (members : Finset Addr)
    (some : members.Nonempty) (amount : Addr → Uint128) (payouts : Addr → List Tx)
    (keep : ∀ user ∈ members, KeepsDeposit (machine api ownable contract) start txs user (amount user) began
      (began + elapsed) (payouts user)) :
    exactReward (∑ user ∈ members, (amount user).toNat) rate elapsed -
        ((∑ user ∈ members, (payouts user).length) - 1) ≤
      ∑ user ∈ members, (machine api ownable contract).tally (rewardedTo user) start txs ∧
    ∑ user ∈ members, (machine api ownable contract).tally (rewardedTo user) start txs ≤
      exactReward (∑ user ∈ members, (amount user).toNat) rate elapsed := by
  have rounded := Rounded.sum fun user member => (keep user member).rounded constant
  rw [← Finset.sum_mul, ← Finset.sum_mul] at rounded
  have paid : 0 < ∑ user ∈ members, (payouts user).length := by
    apply Finset.sum_pos ?_ some
    intro user member
    exact List.length_pos_of_ne_nil (keep user member).paid
  constructor
  · rw [Nat.sub_le_iff_le_add]
    exact rounded.div_le (by decide) paid
  · exact rounded.total_le (by decide)

def holding (user : Addr) : Uint128 := if user = ⟨"user1"⟩ then word 100000 else word 250000

def openingBy (user : Addr) : Tx := ⟨blockAt 100, user, .stake (holding user), true⟩

/-- One holder claims in two parts, once too early; the other withdraws nothing. -/
def twoHolders : List Tx :=
  [openingBy ⟨"user1"⟩, openingBy ⟨"user2"⟩,
    ⟨blockAt 200, ⟨"user1"⟩, .claimRewards, true⟩,
    ⟨blockAt 2592100, ⟨"user1"⟩, .claimRewards, true⟩,
    ⟨blockAt 5184100, ⟨"user1"⟩, .claimRewards, true⟩,
    ⟨blockAt 5184100, ⟨"user2"⟩, .unstake (word 0), true⟩]

def holderPayouts (user : Addr) : List Tx :=
  if user = ⟨"user1"⟩ then
    [⟨blockAt 2592100, ⟨"user1"⟩, .claimRewards, true⟩, ⟨blockAt 5184100, ⟨"user1"⟩, .claimRewards, true⟩]
  else [⟨blockAt 5184100, ⟨"user2"⟩, .unstake (word 0), true⟩]

theorem splitting_gains_nothing_twoHolders :
    ∑ user ∈ ({⟨"user1"⟩, ⟨"user2"⟩} : Finset Addr),
        (machine Api.accepting Package.documented ⟨"staking"⟩).tally (rewardedTo user) testPool
          twoHolders ≤
      exactReward (∑ user ∈ ({⟨"user1"⟩, ⟨"user2"⟩} : Finset Addr), (holding user).toNat) 1000
        5184000 := by
  refine (splitting_gains_nothing Api.accepting Package.documented ⟨"staking"⟩ testPool twoHolders
    1000 100 5184000 (by decide) {⟨"user1"⟩, ⟨"user2"⟩} ⟨⟨"user1"⟩, by decide⟩ holding holderPayouts ?_).2
  intro user member
  rcases Finset.mem_insert.mp member with rfl | other
  · exact ⟨rfl, by decide, ⟨openingBy ⟨"user1"⟩, by decide, rfl, by decide⟩, by decide, by decide,
      by decide⟩
  · obtain rfl := Finset.mem_singleton.mp other
    exact ⟨rfl, by decide, ⟨openingBy ⟨"user2"⟩, by decide, rfl, by decide⟩, by decide, by decide,
      by decide⟩

end CosmwasmContracts.Staking
