import CosmwasmContracts.System.Positions
import CosmwasmContracts.System.Withdrawal

/-! Stakers' messages refine the operations on positions. In a healthy state a message goes
through exactly when its sender's position is ready for the operation and the supply has
room for the reward, and then it does to the view what the operation does. -/

namespace CosmwasmContracts.System
open Library.CheckedWord Library.FiniteMap Library.TransactionMachine Library.TokenLedger
  Library.LocalAction CosmwasmStd CwOwnable Staking
open Cw20Token (Moved Spent)

section Deposits

variable {before after : Staking.Storage} {now : Timestamp} {contract sender : Addr} {amount : Uint128}
variable {messages : List CosmosMsg}

theorem depositOf_of_present {storage : Staking.Storage} {user : Addr} {entry : StakeInfo}
    (present : storage.stakes.mayLoad user = some entry) :
    depositOf storage user = some { amount := entry.amount.toNat, since := entry.stakeTime } := by
  rw [depositOf, present, Option.map_some]

theorem depositOf_of_absent {storage : Staking.Storage} {user : Addr}
    (absent : storage.stakes.mayLoad user = none) : depositOf storage user = none := by
  rw [depositOf, absent, Option.map_none]

theorem stake_effect_deposit
    (effect : Effect before now contract sender (.stake amount) after messages) :
    messages = [depositMsg before contract sender amount] ∧
      depositOf after sender = some (Terms.increased now amount.toNat (depositOf before sender)) ∧
      after.totalStaked.toNat = before.totalStaked.toNat + amount.toNat := by
  cases effect with
  | opened _ total absent sum =>
    refine ⟨rfl, ?_, sum⟩
    rw [depositOf_of_present (Map.mayLoad_save_self _ _ _), depositOf_of_absent absent]
    rfl
  | toppedUp _ held total entry present grown sum =>
    refine ⟨rfl, ?_, sum⟩
    rw [depositOf_of_present (Map.mayLoad_save_self _ _ _), depositOf_of_present present, grown]
    rfl

theorem unstake_effect_deposit
    (effect : Effect before now contract sender (.unstake amount) after messages) :
    depositOf after sender = (depositOf before sender).bind (Terms.decreased now amount.toNat) := by
  cases effect with
  | reduced _ rest reward total entry payout positive parts remains =>
    have part : entry.amount.toNat ≠ amount.toNat := by omega
    have left : rest.toNat = entry.amount.toNat - amount.toNat := by omega
    rw [depositOf_of_present (Map.mayLoad_save_self _ _ _), depositOf_of_present payout.present,
      Option.bind_some, Terms.decreased, if_neg part, left]
  | closed _ reward total entry payout all remains =>
    rw [depositOf_of_absent (Map.mayLoad_remove_self _ _), depositOf_of_present payout.present,
      Option.bind_some, Terms.decreased, if_pos all.symm]

theorem claim_effect_deposit (effect : Effect before now contract sender .claimRewards after messages) :
    ∃ entry reward, Payout before now sender entry reward ∧ reward.toNat ≠ 0 ∧
      messages = rewardMsgs before sender reward ∧ after.totalStaked = before.totalStaked ∧
      depositOf after sender =
        (depositOf before sender).map fun deposit => { deposit with since := now } := by
  cases effect with
  | claimed reward entry payout positive =>
    refine ⟨entry, reward, payout, positive, (rewardMsgs_of_positive before sender positive).symm, rfl, ?_⟩
    rw [depositOf_of_present (Map.mayLoad_save_self _ _ _), depositOf_of_present payout.present]
    rfl

end Deposits

section Payouts

variable {host : Host} {world : World} {now : Timestamp} {user : Addr}

variable (host) in
/-- A payout is a deposit that has matured, at the reward that is due. -/
theorem matured_of_payout {entry : StakeInfo} {reward : Uint128}
    (payout : Payout world.staking now user entry reward) :
    ∃ deposit, depositOf world.staking user = some deposit ∧ deposit.amount = entry.amount.toNat ∧
      (terms host world).Matured now deposit ∧ (terms host world).reward now deposit = reward.toNat :=
  ⟨_, depositOf_of_present payout.present, rfl,
    ⟨payout.started, payout.unlocked, payout.representable⟩, payout.exact.symm⟩

theorem payout_of_matured {deposit : Deposit} (held : depositOf world.staking user = some deposit)
    (matured : (terms host world).Matured now deposit) :
    ∃ entry reward, Payout world.staking now user entry reward ∧ entry.amount.toNat = deposit.amount ∧
      reward.toNat = (terms host world).reward now deposit := by
  obtain ⟨entry, present, rfl⟩ := Option.map_eq_some_iff.mp held
  have small : (terms host world).reward now
      { amount := entry.amount.toNat, since := entry.stakeTime } < 2 ^ 128 :=
    Nat.lt_of_le_of_lt (Nat.div_le_self _ _) matured.representable
  exact ⟨entry, ⟨_, small⟩,
    ⟨present, matured.started, matured.unlocked, matured.representable, rfl⟩, rfl, rfl⟩

theorem due_of_deposit {deposit : Deposit} (held : depositOf world.staking user = some deposit) :
    (terms host world).due now (position host world user) = (terms host world).reward now deposit := by
  change ((depositOf world.staking user).map _).getD 0 = _
  rw [held]
  rfl

theorem due_of_payout {entry : StakeInfo} {reward : Uint128}
    (payout : Payout world.staking now user entry reward) :
    (terms host world).due now (position host world user) = reward.toNat := by
  obtain ⟨deposit, held, _, _, price⟩ := matured_of_payout host payout
  exact (due_of_deposit held).trans price

end Payouts

section Success

variable {host : Host} {world : World} {block : BlockInfo} {user : Addr} {amount : Uint128}

theorem exec_operation {operation : Operation} {next : World} {response : Response} :
    (system host).exec world (operationTx block user operation) = .ok (next, response) ↔
      Staking.execute host.api host.ownable world.staking ⟨block, host.staking⟩ ⟨user⟩ operation.msg =
          .ok (next.staking, response) ∧
        dispatch host world.token response.messages = .ok next.token :=
  exec_staking rfl

/-- The supply after a reward, which the token keeps in 128 bits. -/
theorem reward_room {storage : Staking.Storage} {token : Cw20Token.Storage} {reward : Uint128}
    (sent : dispatch host world.token (rewardMsgs storage user reward) = .ok token) :
    reward.toNat = 0 ∨ world.token.tokenInfo.minter = some host.staking ∧
      world.token.tokenInfo.totalSupply.toNat + reward.toNat < 2 ^ 128 := by
  obtain ⟨authority, _, _, _, supply⟩ := reward_effect sent
  by_cases zero : reward.toNat = 0
  · exact Or.inl zero
  · exact Or.inr ⟨authority zero, supply ▸ token.tokenInfo.totalSupply.fits⟩

variable (healthy : Healthy host world)
include healthy

/-- The pool, the total and the entry have room for whatever the depositor's balance
covers: the pool backs the other two, and it shares the supply with the depositor. -/
theorem stake_room (outside : user ≠ host.staking)
    (covered : amount.toNat ≤ Cw20Token.balanceOf world.token user) :
    poolBalance host world + amount.toNat < 2 ^ 128 ∧
      world.staking.totalStaked.toNat + amount.toNat < 2 ^ 128 ∧
      stakedAmount world.staking user + amount.toNat < 2 ^ 128 := by
  have parts := debit_degree (Cw20Token.funds world.token.balances) user _ covered
  have part := Finsupp.le_degree host.staking
    (Cw20Token.funds world.token.balances - Finsupp.single user amount.toNat)
  rw [debit_apply, if_neg outside.symm, Nat.sub_zero] at part
  change poolBalance host world ≤ _ at part
  have bounded := Cw20Token.degree_bounded healthy.conserved
  have solvent := healthy.solvent
  have entry : stakedAmount world.staking user ≤ world.staking.totalStaked.toNat := by
    rw [healthy.counted]
    exact Map.value_le_total _ _ _
  omega

theorem stake_commits_iff (outside : user ≠ host.staking) :
    (system host).Commits world (operationTx block user (.stake amount)) ↔
      host.Accepts user ∧ host.Accepts host.staking ∧
        amount.toNat ≤ Cw20Token.balanceOf world.token user ∧
        amount.toNat ≤ Cw20Token.allowanceOf world.token user host.staking := by
  constructor
  · rintro ⟨next, response, commits⟩
    obtain ⟨accepted, sent⟩ := exec_operation.mp commits
    rw [(stake_effect_deposit (execute_effect accepted)).1] at sent
    have paid := (deposit_effect sent).1
    rw [Cw20Token.transferFrom_commits_iff healthy.conserved] at paid
    obtain ⟨owner, recipient, allowed, covered⟩ := paid
    exact ⟨owner, recipient, covered, allowed⟩
  · rintro ⟨owner, recipient, covered, allowed⟩
    obtain ⟨_, totalRoom, entryRoom⟩ := stake_room healthy outside covered
    have accepted : ∃ after response, executeStake world.staking ⟨block, host.staking⟩ ⟨user⟩ amount =
        .ok (after, response) := executeStake_succeeds entryRoom totalRoom
    obtain ⟨after, response, accepted⟩ := accepted
    have messages := (stake_effect_deposit (executeStake_effect accepted)).1
    obtain ⟨token, out, paid⟩ := (Cw20Token.transferFrom_commits_iff healthy.conserved).mpr
      ⟨owner, recipient, allowed, covered⟩
    refine ⟨{ token := token, staking := after }, response, exec_operation.mpr ⟨accepted, ?_⟩⟩
    rw [messages, dispatch_single]
    exact deliverMsg_eq_ok.mpr ⟨congrArg Addr.text healthy.addressed, out, paid⟩

theorem unstake_commits_iff :
    (system host).Commits world (operationTx block user (.unstake amount)) ↔
      ∃ entry reward, Payout world.staking block.time user entry reward ∧
        amount.toNat ≤ entry.amount.toNat ∧
        (reward.toNat = 0 ∨ world.token.tokenInfo.minter = some host.staking ∧
          world.token.tokenInfo.totalSupply.toNat + reward.toNat < 2 ^ 128) := by
  constructor
  · rintro ⟨next, response, commits⟩
    obtain ⟨accepted, sent⟩ := exec_operation.mp commits
    obtain ⟨entry, reward, payout, covered, _, messages⟩ :=
      unstake_effect_messages (execute_effect accepted)
    rw [messages] at sent
    obtain ⟨middle, minted, _⟩ := dispatch_append.mp sent
    exact ⟨entry, reward, payout, covered, reward_room minted⟩
  · rintro ⟨entry, reward, payout, covered, paid⟩
    have valid := healthy.accepted user entry payout.present
    have supply := world.token.tokenInfo.totalSupply.fits
    refine unstake_commits healthy.toSound healthy.solvent payout covered valid ?_ ?_
    · exact fun positive => (paid.resolve_left positive).1
    · rcases paid with zero | ⟨_, room⟩
      · rw [zero]
        exact supply
      · exact room

theorem claim_commits_iff : (system host).Commits world (operationTx block user .claim) ↔
    ∃ entry reward, Payout world.staking block.time user entry reward ∧ reward.toNat ≠ 0 ∧
      world.token.tokenInfo.minter = some host.staking ∧
      world.token.tokenInfo.totalSupply.toNat + reward.toNat < 2 ^ 128 := by
  constructor
  · rintro ⟨next, response, commits⟩
    obtain ⟨accepted, sent⟩ := exec_operation.mp commits
    obtain ⟨entry, reward, payout, positive, messages, _⟩ :=
      claim_effect_deposit (execute_effect accepted)
    rw [messages] at sent
    exact ⟨entry, reward, payout, positive, (reward_room sent).resolve_left positive⟩
  · rintro ⟨entry, reward, payout, positive, authority, room⟩
    have valid := healthy.accepted user entry payout.present
    have accepted : ∃ after response, executeClaimRewards world.staking ⟨block, host.staking⟩ ⟨user⟩ =
        .ok (after, response) := executeClaimRewards_succeeds payout positive
    obtain ⟨after, response, accepted⟩ := accepted
    obtain ⟨_, _, again, _, messages, _⟩ := claim_effect_deposit (executeClaimRewards_effect accepted)
    rw [(payout.unique again).2] at messages
    obtain ⟨token, minted⟩ := dispatch_reward_succeeds healthy.addressed healthy.conserved valid
      (fun _ => authority) room
    refine ⟨{ token := token, staking := after }, response, exec_operation.mpr ⟨accepted, ?_⟩⟩
    rw [messages]
    exact minted

end Success

section Refinement

variable {host : Host} {world next : World} {block : BlockInfo} {user : Addr} {amount : Uint128}
variable {response : Response}

theorem operation_terms {before after : Staking.Storage} {now : Timestamp} {contract sender : Addr}
    {operation : Operation} {messages : List CosmosMsg}
    (effect : Effect before now contract sender operation.msg after messages) :
    after.config = before.config ∧ after.ownership = before.ownership := by
  cases operation <;> cases effect <;> exact ⟨rfl, rfl⟩

/-- A step of the system is an operation when it leaves the other positions alone, moves
its sender's, and posts its part to the totals. -/
theorem view_perform {action : Action Position Posting}
    (others : ∀ other, other ≠ user → position host next other = position host world other)
    (own : position host next user = action.next (position host world user))
    (shared : totals host next = Totals.post (action.posting (position host world user)) (totals host world)) :
    view host next = perform Totals.post user action (view host world) := by
  have positions : position host next =
      Function.update (position host world) user (action.next (position host world user)) := by
    funext other
    by_cases same : other = user
    · subst same
      rw [own, Function.update_self]
    · rw [others other same, Function.update_of_ne same]
  rw [view, positions, shared]
  rfl

/-- The position of an address that neither sent the message nor is named in it. -/
theorem position_frame {now : Timestamp} {msg : Staking.ExecuteMsg} {messages : List CosmosMsg}
    {other : Addr} (effect : Effect world.staking now host.staking user msg next.staking messages)
    (different : other ≠ user)
    (balance : other ≠ host.staking →
      Cw20Token.balanceOf next.token other = Cw20Token.balanceOf world.token other)
    (allowance : ∀ spender, Cw20Token.allowanceOf next.token other spender =
      Cw20Token.allowanceOf world.token other spender) :
    position host next other = position host world other := by
  have deposit : depositOf next.staking other = depositOf world.staking other := by
    rw [depositOf, effect_frame effect different]
    rfl
  have tokens : (if other = host.staking then 0 else Cw20Token.balanceOf next.token other) =
      if other = host.staking then 0 else Cw20Token.balanceOf world.token other := by
    by_cases pool : other = host.staking
    · rw [if_pos pool, if_pos pool]
    · rw [if_neg pool, if_neg pool, balance pool]
  have allowances : Cw20Token.allowanceOf next.token other = Cw20Token.allowanceOf world.token other :=
    funext allowance
  rw [position, deposit, tokens, allowances]
  rfl

theorem stake_view (outside : user ≠ host.staking)
    (commits : (system host).exec world (operationTx block user (.stake amount)) = .ok (next, response)) :
    view host next =
      perform Totals.post user ((terms host world).action block.time user (.stake amount)) (view host world) := by
  obtain ⟨accepted, sent⟩ := exec_operation.mp commits
  have effect := execute_effect accepted
  obtain ⟨messages, deposit, total⟩ := stake_effect_deposit effect
  obtain ⟨config, ownership⟩ := operation_terms effect
  rw [messages] at sent
  obtain ⟨_, moved, spent, tokenInfo⟩ := deposit_effect sent
  apply view_perform
  · intro other different
    refine position_frame effect different (fun pool => ?_) (fun spender => ?_)
    · exact moved.frame (by simpa using different) (by simpa using pool)
    · exact spent.frame (fun same => different (congrArg Prod.fst (Option.some.inj same)))
  · have balance : Cw20Token.balanceOf next.token user =
        Cw20Token.balanceOf world.token user - amount.toNat := moved.taken (by simpa using outside)
    have allowances : Cw20Token.allowanceOf next.token user = fun spender =>
        Cw20Token.allowanceOf world.token user spender -
          if spender = host.staking then amount.toNat else 0 := by
      funext spender
      rw [spent user spender]
      simp only [Option.some.injEq, Prod.mk.injEq, true_and]
    rw [position, deposit, balance, allowances, if_neg outside]
    simp only [position, terms, Terms.action, if_neg outside]
    rfl
  · have pool : poolBalance host next = poolBalance host world + amount.toNat :=
      moved.given (by simpa using outside.symm)
    rw [totals, config, ownership, tokenInfo, total, pool]
    simp only [totals, Totals.post, terms, Terms.action, Nat.cast_add, Nat.add_zero]

/-- The token after a reward and a withdrawal, in one step. -/
theorem payout_effect {storage : Staking.Storage} {token after : Cw20Token.Storage} {reward : Uint128}
    (sent : dispatch host token (rewardMsgs storage user reward ++ [withdrawMsg storage user amount]) =
      .ok after) :
    (∀ other, other ≠ user → other ≠ host.staking →
        Cw20Token.balanceOf after other = Cw20Token.balanceOf token other) ∧
      Cw20Token.allowanceOf after = Cw20Token.allowanceOf token ∧
      after.tokenInfo = { token.tokenInfo with totalSupply := after.tokenInfo.totalSupply } ∧
      after.tokenInfo.totalSupply.toNat = token.tokenInfo.totalSupply.toNat + reward.toNat := by
  obtain ⟨middle, minted, paid⟩ := dispatch_append.mp sent
  obtain ⟨_, given, unspent, details, supply⟩ := reward_effect minted
  obtain ⟨moved, kept, tokenInfo⟩ := withdraw_effect paid
  refine ⟨fun other notUser notPool => ?_, ?_, ?_, ?_⟩
  · rw [moved.frame (by simpa using notPool) (by simpa using notUser),
      given.frame (by simp) (by simpa using notUser)]
  · funext owner spender
    rw [kept.frame (by simp), unspent.frame (by simp)]
  · rw [tokenInfo]
    exact details
  · rw [tokenInfo]
    exact supply

/-- A payout in the view, from what it did to both contracts: `principal` leaves the pool
and the stored total, and its sender gets it with the reward. -/
theorem payout_view {messages : List CosmosMsg} {operation : Operation} {reward principal : Nat}
    (outside : user ≠ host.staking)
    (effect : Effect world.staking block.time host.staking user operation.msg next.staking messages)
    (balances : ∀ other, other ≠ user → other ≠ host.staking →
      Cw20Token.balanceOf next.token other = Cw20Token.balanceOf world.token other)
    (allowances : Cw20Token.allowanceOf next.token = Cw20Token.allowanceOf world.token)
    (tokenInfo : next.token.tokenInfo =
      { world.token.tokenInfo with totalSupply := next.token.tokenInfo.totalSupply })
    (supply : next.token.tokenInfo.totalSupply.toNat =
      world.token.tokenInfo.totalSupply.toNat + reward)
    (own : Cw20Token.balanceOf next.token user =
      Cw20Token.balanceOf world.token user + principal + reward)
    (pool : poolBalance host next + principal = poolBalance host world)
    (total : next.staking.totalStaked.toNat + principal = world.staking.totalStaked.toNat)
    {action : Action Position Posting}
    (moves : action.next (position host world user) =
      { position host world user with
        deposit := depositOf next.staking user
        balance := (position host world user).balance + principal + reward })
    (posts : action.posting (position host world user) = { principal := -principal, minted := reward }) :
    view host next = perform Totals.post user action (view host world) := by
  obtain ⟨config, ownership⟩ := operation_terms effect
  apply view_perform
  · intro other different
    refine position_frame effect different (balances other different) (fun spender => ?_)
    rw [allowances]
  · rw [moves]
    simp only [position, allowances, own, if_neg outside]
  · rw [posts, totals, config, ownership, tokenInfo, supply]
    ext
    · change (next.staking.totalStaked.toNat : Int) = world.staking.totalStaked.toNat + -principal
      omega
    · change (poolBalance host next : Int) = poolBalance host world + -principal
      omega
    all_goals rfl

theorem unstake_view (outside : user ≠ host.staking)
    (commits : (system host).exec world (operationTx block user (.unstake amount)) = .ok (next, response)) :
    view host next =
        perform Totals.post user ((terms host world).action block.time user (.unstake amount))
          (view host world) ∧
      mintedTo user response.messages = (terms host world).due block.time (position host world user) := by
  obtain ⟨accepted, sent⟩ := exec_operation.mp commits
  have effect := execute_effect accepted
  have deposit : depositOf next.staking user =
      (depositOf world.staking user).bind (Terms.decreased block.time amount.toNat) :=
    unstake_effect_deposit effect
  obtain ⟨entry, reward, payout, _, total, messages⟩ := unstake_effect_messages effect
  have due : (terms host world).due block.time (position host world user) = reward.toNat :=
    due_of_payout payout
  rw [messages] at sent
  obtain ⟨pool, own⟩ := payout_balance outside sent
  obtain ⟨balances, allowances, tokenInfo, supply⟩ := payout_effect sent
  constructor
  · refine payout_view outside effect balances allowances tokenInfo supply own pool total ?_ ?_
    · change Position.mk _ _ _ = _
      rw [due, deposit]
      rfl
    · change Posting.mk _ _ = _
      rw [due]
  · rw [due, messages, mintedTo_append, mintedTo_rewardMsgs, mintedTo_withdrawMsg, Nat.add_zero]

theorem claim_view (outside : user ≠ host.staking)
    (commits : (system host).exec world (operationTx block user .claim) = .ok (next, response)) :
    view host next =
        perform Totals.post user ((terms host world).action block.time user .claim) (view host world) ∧
      mintedTo user response.messages = (terms host world).due block.time (position host world user) := by
  obtain ⟨accepted, sent⟩ := exec_operation.mp commits
  have effect := execute_effect accepted
  obtain ⟨entry, reward, payout, _, messages, total, deposit⟩ := claim_effect_deposit effect
  have due : (terms host world).due block.time (position host world user) = reward.toNat :=
    due_of_payout payout
  rw [messages] at sent
  obtain ⟨_, given, unspent, tokenInfo, supply⟩ := reward_effect sent
  have allowances : Cw20Token.allowanceOf next.token = Cw20Token.allowanceOf world.token := by
    funext owner spender
    exact unspent.frame (by simp)
  have balances : ∀ other, other ≠ user → other ≠ host.staking →
      Cw20Token.balanceOf next.token other = Cw20Token.balanceOf world.token other :=
    fun other different _ => given.frame (by simp) (by simpa using different)
  have own : Cw20Token.balanceOf next.token user =
      Cw20Token.balanceOf world.token user + 0 + reward.toNat := given.given (by simp)
  have pool : poolBalance host next + 0 = poolBalance host world :=
    given.frame (by simp) (by simpa using outside.symm)
  have staked : next.staking.totalStaked.toNat + 0 = world.staking.totalStaked.toNat :=
    congrArg Word.toNat total
  constructor
  · refine payout_view outside effect balances allowances tokenInfo supply own pool staked ?_ ?_
    · change Position.mk _ _ _ = _
      rw [due, deposit]
      rfl
    · change Posting.mk _ _ = _
      rw [due]
      rfl
  · rw [due, messages, mintedTo_rewardMsgs]

end Refinement

section Operations

variable {host : Host} {world next : World} {block : BlockInfo} {user : Addr} {operation : Operation}
variable {response : Response}

/-- A staker's message goes through exactly when its operation is ready and the supply has
room for what it mints. -/
theorem operation_commits_iff (healthy : Healthy host world) (outside : user ≠ host.staking) :
    (system host).Commits world (operationTx block user operation) ↔
      ((terms host world).action block.time user operation).Ready (position host world user) ∧
        world.token.tokenInfo.totalSupply.toNat +
          (((terms host world).action block.time user operation).posting
            (position host world user)).minted < 2 ^ 128 := by
  have supply := world.token.tokenInfo.totalSupply.fits
  cases operation with
  | stake amount =>
    rw [stake_commits_iff healthy outside]
    change _ ↔ (_ ∧ _ ∧ amount.toNat ≤ (if user = host.staking then 0 else _) ∧ _) ∧ _
    rw [if_neg outside]
    exact ⟨fun ready => ⟨ready, supply⟩, fun ready => ready.1⟩
  | unstake amount =>
    rw [unstake_commits_iff healthy]
    constructor
    · rintro ⟨entry, reward, payout, covered, paid⟩
      obtain ⟨deposit, held, same, matured, price⟩ := matured_of_payout host payout
      change (∃ _, _) ∧ _ + (terms host world).due block.time (position host world user) < _
      rw [due_of_deposit held, price]
      refine ⟨⟨deposit, held, same ▸ covered, matured, ?_⟩, ?_⟩
      · rw [price]
        exact paid.imp_right And.left
      · rcases paid with zero | ⟨_, room⟩
        · rw [zero]
          exact supply
        · exact room
    · rintro ⟨⟨deposit, held, covered, matured, paid⟩, room⟩
      change _ + (terms host world).due block.time (position host world user) < _ at room
      obtain ⟨entry, reward, payout, same, price⟩ := payout_of_matured held matured
      rw [due_of_deposit held, ← price] at room
      rw [← price] at paid
      exact ⟨entry, reward, payout, same ▸ covered, paid.imp_right fun mints => ⟨mints, room⟩⟩
  | claim =>
    rw [claim_commits_iff healthy]
    constructor
    · rintro ⟨entry, reward, payout, positive, mints, room⟩
      obtain ⟨deposit, held, _, matured, price⟩ := matured_of_payout host payout
      change (∃ _, _) ∧ _ + (terms host world).due block.time (position host world user) < _
      rw [due_of_deposit held, price]
      exact ⟨⟨deposit, held, matured, price ▸ positive, mints⟩, room⟩
    · rintro ⟨⟨deposit, held, matured, positive, mints⟩, room⟩
      change _ + (terms host world).due block.time (position host world user) < _ at room
      obtain ⟨entry, reward, payout, _, price⟩ := payout_of_matured held matured
      rw [due_of_deposit held, ← price] at room
      exact ⟨entry, reward, payout, price ▸ positive, mints, room⟩

/-- One that goes through does what its operation does, and mints what that posts. -/
theorem operation_view (outside : user ≠ host.staking)
    (commits : (system host).exec world (operationTx block user operation) = .ok (next, response)) :
    view host next =
        perform Totals.post user ((terms host world).action block.time user operation) (view host world) ∧
      mintedTo user response.messages =
        (((terms host world).action block.time user operation).posting
          (position host world user)).minted := by
  cases operation with
  | stake amount =>
    refine ⟨stake_view outside commits, ?_⟩
    obtain ⟨accepted, _⟩ := exec_operation.mp commits
    rw [(stake_effect_deposit (execute_effect accepted)).1]
    rfl
  | unstake amount => exact unstake_view outside commits
  | claim => exact claim_view outside commits

end Operations

end CosmwasmContracts.System
