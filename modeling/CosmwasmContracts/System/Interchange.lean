import CosmwasmContracts.System.EndToEnd
import CosmwasmContracts.Staking.Reconfiguration

/-! What stakers may rely on about the order and the shape of their messages: messages of
different stakers commute within a block, claiming is withdrawing nothing, and stakes made
one after another in a block are one stake. -/

namespace CosmwasmContracts.System
open Library.CheckedWord Library.FiniteMap Library.TransactionMachine Library.LocalAction
  CosmwasmStd CwOwnable Staking

variable {host : Host} {world next : World} {block : BlockInfo} {user other : Addr}
variable {operation reaction : Operation} {response : Response}

/-- What a message comes to: nothing, or a success with the reward it mints to its sender. -/
def outcome (host : Host) (world : World) (tx : Tx) : Option Nat :=
  match (system host).exec world tx with
  | .ok (_, response) => some (mintedTo tx.sender response.messages)
  | .error _ => none

theorem outcome_of_ok {tx : Tx} (commits : (system host).exec world tx = .ok (next, response)) :
    outcome host world tx = some (mintedTo tx.sender response.messages) := by
  rw [outcome, commits]

theorem outcome_of_error {tx : Tx} {reason : Failure SystemError}
    (fails : (system host).exec world tx = .error reason) : outcome host world tx = none := by
  rw [outcome, fails]

theorem outcome_eq_none {tx : Tx} (refused : outcome host world tx = none) :
    (system host).deliver world tx = world := by
  cases result : (system host).exec world tx with
  | error reason => exact Machine.deliver_error _ result
  | ok value =>
    rw [outcome_of_ok result] at refused
    cases refused

theorem outcome_eq_some {tx : Tx} {reward : Nat} (done : outcome host world tx = some reward) :
    ∃ next response, (system host).exec world tx = .ok (next, response) ∧
      reward = mintedTo tx.sender response.messages := by
  cases result : (system host).exec world tx with
  | error reason =>
    rw [outcome_of_error result] at done
    cases done
  | ok value =>
    rw [outcome_of_ok result] at done
    exact ⟨value.1, value.2, rfl, (Option.some.inj done).symm⟩

/-- The terms of one block are the same before and after a staker's message. -/
theorem operation_keeps_terms (outside : other ≠ host.staking)
    (commits : (system host).exec world (operationTx block other reaction) = .ok (next, response)) :
    terms host next = terms host world := by
  have kept := undisturbed_of_view (operation_view outside commits).1
  have minter : next.token.tokenInfo.minter = world.token.tokenInfo.minter := by
    rw [kept.tokenInfo]
  unfold terms
  rw [kept.config, minter]

section Two

variable (healthy : Healthy host world) (outside : user ≠ host.staking)
include healthy outside

/-- The reward an operation posts, where it goes through. -/
theorem operation_outcome {reward : Nat}
    (done : outcome host world (operationTx block user operation) = some reward) :
    ((terms host world).action block.time user operation).Ready (position host world user) ∧
      reward = (((terms host world).action block.time user operation).posting
        (position host world user)).minted := by
  obtain ⟨next, response, commits, minted⟩ := outcome_eq_some done
  have ready := ((operation_commits_iff healthy outside).mp ⟨next, response, commits⟩).1
  exact ⟨ready, minted.trans (operation_view outside commits).2⟩

theorem outcome_of_ready
    (ready : ((terms host world).action block.time user operation).Ready (position host world user))
    (room : world.token.tokenInfo.totalSupply.toNat +
      (((terms host world).action block.time user operation).posting
        (position host world user)).minted < 2 ^ 128) :
    outcome host world (operationTx block user operation) =
      some (((terms host world).action block.time user operation).posting
        (position host world user)).minted := by
  obtain ⟨next, response, commits⟩ := (operation_commits_iff healthy outside).mpr ⟨ready, room⟩
  rw [outcome_of_ok commits]
  exact congrArg some (operation_view outside commits).2

/-- Another staker's message in the same block changes nothing about an operation but the
room there is for its reward. -/
theorem outcome_stable (otherOutside : other ≠ host.staking) (different : user ≠ other)
    (commits : (system host).exec world (operationTx block other reaction) = .ok (next, response))
    (room : world.token.tokenInfo.totalSupply.toNat +
      (outcome host world (operationTx block other reaction)).getD 0 +
      (outcome host world (operationTx block user operation)).getD 0 < 2 ^ 128) :
    outcome host next (operationTx block user operation) =
      outcome host world (operationTx block user operation) := by
  have external : (operationTx block other reaction).External host := otherOutside
  have healthyNext := exec_healthy healthy external commits
  have equal := (operation_view otherOutside commits).1
  have own : position host next user = position host world user := by
    have positions := congrFun (congrArg State.own equal) user
    rw [perform_own_of_ne _ _ _ different] at positions
    exact positions
  have same := operation_keeps_terms otherOutside commits
  have supply : next.token.tokenInfo.totalSupply.toNat =
      world.token.tokenInfo.totalSupply.toNat + mintedTo other response.messages := by
    rw [(operation_view otherOutside commits).2]
    exact congrArg (fun state => Totals.supply (State.shared state)) equal
  rw [outcome_of_ok commits, Option.getD_some] at room
  change _ + mintedTo other response.messages + _ < _ at room
  rw [← supply] at room
  cases done : outcome host world (operationTx block user operation) with
  | some reward =>
    obtain ⟨ready, price⟩ := operation_outcome healthy outside done
    rw [done, Option.getD_some] at room
    rw [price, ← own, ← same] at room ⊢
    rw [← own, ← same] at ready
    exact outcome_of_ready healthyNext outside ready room
  | none =>
    cases now : outcome host next (operationTx block user operation) with
    | none => rfl
    | some reward =>
      obtain ⟨later, latest, goes, _⟩ := outcome_eq_some now
      obtain ⟨ready, space⟩ :=
        (operation_commits_iff healthyNext outside).mp ⟨later, latest, goes⟩
      rw [own, same] at ready space
      rw [outcome_of_ready healthy outside ready (by omega)] at done
      cases done

end Two

/-- Messages of two stakers in one block, when the token has room for what they mint: each
comes to the same in either order, and both orders end in the same state. -/
theorem stakers_commute (host : Host) (world : World) (launched : Launched host world) (txs : List Tx)
    (external : ∀ tx ∈ txs, tx.External host) (state : World)
    (arrived : state = (system host).run world txs) (block : BlockInfo) (user other : Addr)
    (outside : user ≠ host.staking) (otherOutside : other ≠ host.staking) (different : user ≠ other)
    (operation reaction : Operation)
    (room : state.token.tokenInfo.totalSupply.toNat +
      (outcome host state (operationTx block user operation)).getD 0 +
      (outcome host state (operationTx block other reaction)).getD 0 < 2 ^ 128) :
    outcome host ((system host).deliver state (operationTx block other reaction))
        (operationTx block user operation) =
      outcome host state (operationTx block user operation) ∧
    outcome host ((system host).deliver state (operationTx block user operation))
        (operationTx block other reaction) =
      outcome host state (operationTx block other reaction) ∧
    ((system host).run state [operationTx block user operation, operationTx block other reaction]).Same
      ((system host).run state [operationTx block other reaction, operationTx block user operation]) := by
  have healthy : Healthy host state := arrived ▸ run_healthy launched external
  have turned : state.token.tokenInfo.totalSupply.toNat +
      (outcome host state (operationTx block other reaction)).getD 0 +
      (outcome host state (operationTx block user operation)).getD 0 < 2 ^ 128 := by omega
  simp only [Machine.run_cons, Machine.run_nil]
  cases first : (system host).exec state (operationTx block user operation) with
  | error reason =>
    have refused := outcome_of_error first
    rw [Machine.deliver_error _ first]
    cases second : (system host).exec state (operationTx block other reaction) with
    | error reason' =>
      rw [Machine.deliver_error _ second, Machine.deliver_error _ first]
      exact ⟨rfl, rfl, World.Same.refl _⟩
    | ok value =>
      have stable := outcome_stable healthy outside otherOutside different second turned
      rw [Machine.deliver_ok _ second, outcome_eq_none (stable.trans refused)]
      exact ⟨stable, rfl, World.Same.refl _⟩
  | ok value =>
    have otherStable := outcome_stable healthy otherOutside outside different.symm first room
    rw [Machine.deliver_ok _ first]
    cases second : (system host).exec state (operationTx block other reaction) with
    | error reason =>
      have refused := outcome_of_error second
      rw [Machine.deliver_error _ second, outcome_eq_none (otherStable.trans refused),
        Machine.deliver_ok _ first]
      exact ⟨rfl, otherStable, World.Same.refl _⟩
    | ok value' =>
      have stable := outcome_stable healthy outside otherOutside different second turned
      rw [Machine.deliver_ok _ second]
      obtain ⟨last, out, reacted, _⟩ := outcome_eq_some (otherStable.trans (outcome_of_ok second))
      obtain ⟨last', out', acted, _⟩ := outcome_eq_some (stable.trans (outcome_of_ok first))
      rw [Machine.deliver_ok _ reacted, Machine.deliver_ok _ acted]
      have equal : view host last = view host last' := by
        rw [(operation_view otherOutside reacted).1, (operation_view outside acted).1,
          operation_keeps_terms outside first, operation_keeps_terms otherOutside second,
          (operation_view outside first).1, (operation_view otherOutside second).1]
        exact perform_comm Totals.post Totals.post_comm different _ _ _
      exact ⟨stable, otherStable, same_of_view equal⟩

/-- Two holders with a stake each. -/
def twoStakers : List Tx :=
  [⟨Staking.blockAt 50, ⟨"user1"⟩, .token (.transfer "user2" (word 300000))⟩,
    ⟨Staking.blockAt 60, ⟨"user2"⟩, .token (.approve "staking" (word 300000))⟩,
    ⟨Staking.blockAt 100, ⟨"user1"⟩, .staking (.stake (word 100000))⟩,
    ⟨Staking.blockAt 100, ⟨"user2"⟩, .staking (.stake (word 200000))⟩]

theorem stakers_commute_twoStakers :
    ((system testHost).run ((system testHost).run testWorld twoStakers)
        [operationTx (Staking.blockAt 2592100) ⟨"user1"⟩ (.unstake (word 40000)),
          operationTx (Staking.blockAt 2592100) ⟨"user2"⟩ .claim]).Same
      ((system testHost).run ((system testHost).run testWorld twoStakers)
        [operationTx (Staking.blockAt 2592100) ⟨"user2"⟩ .claim,
          operationTx (Staking.blockAt 2592100) ⟨"user1"⟩ (.unstake (word 40000))]) :=
  (stakers_commute testHost testWorld testWorld_launched twoStakers (by decide) _ rfl
    (Staking.blockAt 2592100) ⟨"user1"⟩ ⟨"user2"⟩ (by decide) (by decide) (by decide)
    (.unstake (word 40000)) .claim (by decide)).2.2

section Claiming

/-- A deposit that a withdrawal of nothing leaves is the same deposit from now on. -/
theorem decreased_zero {deposit : Deposit} (now : Timestamp) (positive : deposit.amount ≠ 0) :
    Terms.decreased now 0 deposit = some { deposit with since := now } := by
  rw [Terms.decreased, if_neg positive, Nat.sub_zero]

theorem reward_zero (terms : Terms) (now : Timestamp) {deposit : Deposit} (nothing : deposit.amount = 0) :
    terms.reward now deposit = 0 := by
  rw [Terms.reward, nothing, exactReward, Nat.zero_mul, Nat.zero_mul, Nat.zero_div]

/-- Where a reward is due, claiming it and withdrawing nothing are one operation. -/
theorem claim_eq_unstake {terms : Terms} {now : Timestamp} {user : Addr}
    {state : State Addr Position Totals} {deposit : Deposit}
    (held : (state.own user).deposit = some deposit) (earned : terms.reward now deposit ≠ 0) :
    perform Totals.post user (terms.action now user .claim) state =
      perform Totals.post user (terms.action now user (.unstake Word.zero)) state := by
  have positive : deposit.amount ≠ 0 := fun nothing => earned (reward_zero terms now nothing)
  apply perform_congr
  · have left : (state.own user).deposit.map (fun deposit => { deposit with since := now }) =
        (state.own user).deposit.bind (Terms.decreased now 0) := by
      rw [held, Option.map_some, Option.bind_some, decreased_zero now positive]
    change Position.mk _ _ _ = Position.mk _ _ _
    rw [left]
    rfl
  · rfl

end Claiming

/-- In every reachable state: ClaimRewards goes through exactly when Unstake of nothing goes
through with a reward; both then end in the same state, and what either mints is what the
reward query answered in that block just before. -/
theorem claim_is_empty_unstake (host : Host) (world : World) (launched : Launched host world)
    (txs : List Tx) (external : ∀ tx ∈ txs, tx.External host) (state : World)
    (arrived : state = (system host).run world txs) (block : BlockInfo) (user : Addr)
    (outside : user ≠ host.staking) :
    ((system host).Commits state ⟨block, user, .staking .claimRewards⟩ ↔
      ∃ next response,
        (system host).exec state ⟨block, user, .staking (.unstake Word.zero)⟩ = .ok (next, response) ∧
          mintedTo user response.messages ≠ 0) ∧
    ∀ claimed claimResponse left leftResponse,
      (system host).exec state ⟨block, user, .staking .claimRewards⟩ = .ok (claimed, claimResponse) →
      (system host).exec state ⟨block, user, .staking (.unstake Word.zero)⟩ = .ok (left, leftResponse) →
        claimed.Same left ∧
        ∃ reward, queryReward host.api state.staking ⟨block, host.staking⟩ user.text = .ok reward ∧
          mintedTo user claimResponse.messages = reward.toNat ∧
          mintedTo user leftResponse.messages = reward.toNat ∧
          claimed.token.tokenInfo.totalSupply.toNat =
            state.token.tokenInfo.totalSupply.toNat + reward.toNat := by
  have healthy : Healthy host state := arrived ▸ run_healthy launched external
  have claim_iff : (system host).Commits state (operationTx block user .claim) ↔ _ :=
    claim_commits_iff healthy
  have unstake_iff : (system host).Commits state (operationTx block user (.unstake Word.zero)) ↔ _ :=
    unstake_commits_iff healthy
  constructor
  · constructor
    · intro claims
      obtain ⟨entry, reward, payout, positive, room⟩ := claim_iff.mp claims
      obtain ⟨next, response, commits⟩ :=
        unstake_iff.mpr ⟨entry, reward, payout, Nat.zero_le _, Or.inr room⟩
      refine ⟨next, response, commits, ?_⟩
      rw [(unstake_view outside commits).2, due_of_payout payout]
      exact positive
    · rintro ⟨next, response, commits, positive⟩
      obtain ⟨entry, reward, payout, _, paid⟩ := unstake_iff.mp ⟨next, response, commits⟩
      rw [(unstake_view outside commits).2, due_of_payout payout] at positive
      exact claim_iff.mpr ⟨entry, reward, payout, positive, paid.resolve_left positive⟩
  · intro claimed claimResponse left leftResponse claims leaves
    obtain ⟨entry, reward, payout, positive, _⟩ := claim_iff.mp ⟨claimed, claimResponse, claims⟩
    obtain ⟨deposit, held, _, _, price⟩ := matured_of_payout host payout
    obtain ⟨claimedView, claimedReward⟩ := claim_view outside claims
    obtain ⟨leftView, leftReward⟩ := unstake_view outside leaves
    rw [due_of_payout payout] at claimedReward leftReward
    have equal : view host claimed = view host left := by
      rw [claimedView, leftView]
      exact claim_eq_unstake held (price ▸ positive)
    have supply : claimed.token.tokenInfo.totalSupply.toNat =
        state.token.tokenInfo.totalSupply.toNat +
          (terms host state).due block.time (position host state user) :=
      congrArg (fun state => Totals.supply (State.shared state)) claimedView
    rw [due_of_payout payout] at supply
    have answered : queryReward host.api state.staking ⟨block, host.staking⟩ user.text = .ok reward :=
      queryReward_of_payout (healthy.accepted user entry payout.present) payout
    exact ⟨same_of_view equal, reward, answered, claimedReward, leftReward, supply⟩

theorem claim_is_empty_unstake_twoStakers :
    (system testHost).Commits ((system testHost).run testWorld twoStakers)
        ⟨Staking.blockAt 2592100, ⟨"user1"⟩, .staking .claimRewards⟩ ↔
      ∃ next response, (system testHost).exec ((system testHost).run testWorld twoStakers)
          ⟨Staking.blockAt 2592100, ⟨"user1"⟩, .staking (.unstake Word.zero)⟩ = .ok (next, response) ∧
        mintedTo ⟨"user1"⟩ response.messages ≠ 0 :=
  (claim_is_empty_unstake testHost testWorld testWorld_launched twoStakers (by decide) _ rfl
    (Staking.blockAt 2592100) ⟨"user1"⟩ (by decide)).1

section Splitting

variable {middle once : World} {first second both amount : Uint128} {response' whole : Response}

/-- A Stake writes the balances of its sender and the pool and the allowance between them. -/
theorem stake_keys
    (commits : (system host).exec world (operationTx block user (.stake amount)) = .ok (next, response)) :
    (∀ account, account ∈ next.token.balances ↔
      account = host.staking ∨ account = user ∨ account ∈ world.token.balances) ∧
    ∀ pair, pair ∈ next.token.allowances ↔
      pair = (user, host.staking) ∨ pair ∈ world.token.allowances := by
  obtain ⟨accepted, sent⟩ := exec_operation.mp commits
  rw [(stake_effect_deposit (execute_effect accepted)).1, dispatch_single] at sent
  obtain ⟨_, out, paid⟩ := deliverMsg_eq_ok.mp sent
  exact Cw20Token.transferFrom_keys paid

theorem increased_twice (now : Timestamp) (first second : Nat) (deposit : Option Deposit) :
    Terms.increased now second (some (Terms.increased now first deposit)) =
      Terms.increased now (first + second) deposit := by
  cases deposit with
  | none => rfl
  | some held =>
    have amounts : held.amount + first + second = held.amount + (first + second) := Nat.add_assoc _ _ _
    change Deposit.mk (held.amount + first + second) held.since = Deposit.mk _ _
    rw [amounts]

/-- Two stakes of one staker are one stake of their sum. -/
theorem stake_fuse (terms : Terms) (now : Timestamp) (user : Addr) (state : State Addr Position Totals)
    (sum : both.toNat = first.toNat + second.toNat) :
    perform Totals.post user (terms.action now user (.stake second))
        (perform Totals.post user (terms.action now user (.stake first)) state) =
      perform Totals.post user (terms.action now user (.stake both)) state := by
  apply perform_fuse
  · obtain ⟨deposit, balance, allowance⟩ := state.own user
    have allowances : (fun spender => allowance spender -
          (if spender = terms.pool then first.toNat else 0) -
          if spender = terms.pool then second.toNat else 0) =
        fun spender => allowance spender - if spender = terms.pool then both.toNat else 0 := by
      funext spender
      by_cases pool : spender = terms.pool
      · rw [if_pos pool, if_pos pool, if_pos pool, sum, Nat.sub_sub]
      · rw [if_neg pool, if_neg pool, if_neg pool]
        rfl
    have deposits := increased_twice now first.toNat second.toNat deposit
    have balances : balance - first.toNat - second.toNat = balance - both.toNat := by
      rw [sum, Nat.sub_sub]
    rw [← sum] at deposits
    change Position.mk (some (Terms.increased now second.toNat (some (Terms.increased now first.toNat
      deposit)))) (balance - first.toNat - second.toNat) _ = Position.mk _ _ _
    rw [deposits, balances]
    exact congrArg _ allowances
  · change Totals.post { principal := second.toNat, minted := 0 }
      (Totals.post { principal := first.toNat, minted := 0 } state.shared) =
        Totals.post { principal := both.toNat, minted := 0 } state.shared
    unfold Totals.post
    ext
    · change state.shared.staked + first.toNat + second.toNat = state.shared.staked + both.toNat
      omega
    · change state.shared.pool + first.toNat + second.toNat = state.shared.pool + both.toNat
      omega
    all_goals rfl

theorem stake_twice (outside : user ≠ host.staking) (sum : both.toNat = first.toNat + second.toNat)
    (begins : (system host).exec world (operationTx block user (.stake first)) = .ok (middle, response))
    (continues : (system host).exec middle (operationTx block user (.stake second)) =
      .ok (next, response'))
    (together : (system host).exec world (operationTx block user (.stake both)) = .ok (once, whole)) :
    next = once := by
  have equal : view host next = view host once := by
    rw [(operation_view outside continues).1, (operation_view outside begins).1,
      (operation_view outside together).1, operation_keeps_terms outside begins]
    exact stake_fuse _ _ user _ sum
  obtain ⟨balances, allowances⟩ := stake_keys continues
  obtain ⟨balances', allowances'⟩ := stake_keys begins
  obtain ⟨balances'', allowances''⟩ := stake_keys together
  refine (same_of_view equal).eq (fun account => ?_) (fun pair => ?_)
  · rw [balances, balances', balances'']
    tauto
  · rw [allowances, allowances', allowances'']
    tauto

/-- The second of two stakes goes through after the first exactly when both together do. -/
theorem stake_twice_commits (healthy : Healthy host world) (outside : user ≠ host.staking)
    (sum : both.toNat = first.toNat + second.toNat) :
    (∃ middle response,
        (system host).exec world (operationTx block user (.stake first)) = .ok (middle, response) ∧
          (system host).Commits middle (operationTx block user (.stake second))) ↔
      (system host).Commits world (operationTx block user (.stake both)) := by
  have external : (operationTx block user (.stake first)).External host := outside
  rw [stake_commits_iff healthy outside]
  constructor
  · rintro ⟨middle, response, begins, continues⟩
    obtain ⟨known, ownKnown, covered, allowed⟩ :=
      (stake_commits_iff healthy outside).mp ⟨middle, response, begins⟩
    obtain ⟨_, _, more, moreAllowed⟩ :=
      (stake_commits_iff (exec_healthy healthy external begins) outside).mp continues
    have done := stake_staked outside covered allowed begins
    have balance := done.balance
    have allowance := done.allowance
    exact ⟨known, ownKnown, by omega, by omega⟩
  · rintro ⟨known, ownKnown, covered, allowed⟩
    have firstCovered : first.toNat ≤ Cw20Token.balanceOf world.token user := by omega
    have firstAllowed : first.toNat ≤ Cw20Token.allowanceOf world.token user host.staking := by omega
    obtain ⟨middle, response, begins⟩ :=
      (stake_commits_iff healthy outside).mpr ⟨known, ownKnown, firstCovered, firstAllowed⟩
    have done := stake_staked outside firstCovered firstAllowed begins
    have balance := done.balance
    have allowance := done.allowance
    refine ⟨middle, response, begins, ?_⟩
    rw [stake_commits_iff (exec_healthy healthy external begins) outside]
    exact ⟨known, ownKnown, by omega, by omega⟩

/-- The Stake messages of one sender in one block. -/
def stakeTxs (block : BlockInfo) (user : Addr) (amounts : List Uint128) : List Tx :=
  amounts.map fun amount => operationTx block user (.stake amount)

/-- By induction on the list: the first stake and the sum of the others are two stakes. -/
theorem stakes_fuse (outside : user ≠ host.staking) {amounts : List Uint128} (nonempty : amounts ≠ [])
    {total : Uint128} (sum : total.toNat = (amounts.map Word.toNat).sum) (healthy : Healthy host world) :
    ((∃ last, (system host).execAll world (stakeTxs block user amounts) = .ok last) ↔
      (system host).Commits world (operationTx block user (.stake total))) ∧
    ∀ last once response, (system host).execAll world (stakeTxs block user amounts) = .ok last →
      (system host).exec world (operationTx block user (.stake total)) = .ok (once, response) →
        last = once := by
  induction amounts generalizing world total with
  | nil => exact absurd rfl nonempty
  | cons first rest ih =>
    rcases eq_or_ne rest [] with rfl | more
    · have same : total = first := Word.ext sum
      subst same
      change ((∃ last, (system host).execAll world [operationTx block user (.stake total)] = .ok last) ↔ _) ∧
        ∀ last once response, (system host).execAll world [operationTx block user (.stake total)] =
          .ok last → _
      simp only [Machine.execAll_single]
      refine ⟨Iff.rfl, ?_⟩
      rintro last once response ⟨response', commits⟩ commits'
      rw [commits] at commits'
      cases commits'
      rfl
    · rw [List.map_cons, List.sum_cons] at sum
      have bound := total.fits
      have small : (rest.map Word.toNat).sum < 2 ^ 128 := by omega
      have others : (⟨_, small⟩ : Uint128).toNat = (rest.map Word.toNat).sum := rfl
      have external : (operationTx block user (.stake first)).External host := outside
      rw [← others] at sum
      change ((∃ last, (system host).execAll world
          (operationTx block user (.stake first) :: stakeTxs block user rest) = .ok last) ↔ _) ∧
        ∀ last once response, (system host).execAll world
          (operationTx block user (.stake first) :: stakeTxs block user rest) = .ok last → _
      simp only [Machine.execAll_cons]
      constructor
      · rw [← stake_twice_commits healthy outside sum]
        constructor
        · rintro ⟨last, middle, response, begins, continues⟩
          obtain ⟨succeeds, _⟩ := ih more others (exec_healthy healthy external begins)
          exact ⟨middle, response, begins, succeeds.mp ⟨last, continues⟩⟩
        · rintro ⟨middle, response, begins, continues⟩
          obtain ⟨succeeds, _⟩ := ih more others (exec_healthy healthy external begins)
          obtain ⟨last, done⟩ := succeeds.mpr continues
          exact ⟨last, middle, response, begins, done⟩
      · rintro last once response ⟨middle, response', begins, continues⟩ together
        obtain ⟨succeeds, equal⟩ := ih more others (exec_healthy healthy external begins)
        obtain ⟨next, out, remaining⟩ := succeeds.mp ⟨last, continues⟩
        rw [equal last next out continues remaining]
        exact stake_twice outside sum begins remaining together

end Splitting

/-- In every reachable state the stakes that a sender makes in one block all go through
exactly when a single stake of their sum does, and end where it ends. -/
theorem stakes_add_up (host : Host) (world : World) (launched : Launched host world) (txs : List Tx)
    (external : ∀ tx ∈ txs, tx.External host) (state : World)
    (arrived : state = (system host).run world txs) (block : BlockInfo) (user : Addr)
    (outside : user ≠ host.staking) (amounts : List Uint128) (nonempty : amounts ≠ []) (total : Uint128)
    (sum : total.toNat = (amounts.map Word.toNat).sum) :
    ((∃ last, (system host).execAll state (stakeTxs block user amounts) = .ok last) ↔
      (system host).Commits state ⟨block, user, .staking (.stake total)⟩) ∧
    ∀ last once response, (system host).execAll state (stakeTxs block user amounts) = .ok last →
      (system host).exec state ⟨block, user, .staking (.stake total)⟩ = .ok (once, response) →
        last = once :=
  stakes_fuse outside nonempty sum (arrived ▸ run_healthy launched external)

theorem stakes_add_up_topUps :
    (∃ last, (system testHost).execAll ((system testHost).run testWorld twoStakers)
        (stakeTxs (Staking.blockAt 200) ⟨"user2"⟩ [word 30000, word 0, word 70000]) = .ok last) ↔
      (system testHost).Commits ((system testHost).run testWorld twoStakers)
        ⟨Staking.blockAt 200, ⟨"user2"⟩, .staking (.stake (word 100000))⟩ :=
  (stakes_add_up testHost testWorld testWorld_launched twoStakers (by decide) _ rfl
    (Staking.blockAt 200) ⟨"user2"⟩ (by decide) [word 30000, word 0, word 70000] (by decide)
    (word 100000) (by decide)).1

end CosmwasmContracts.System
