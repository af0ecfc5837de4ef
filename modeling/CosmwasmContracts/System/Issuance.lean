import CosmwasmContracts.System.Settlement

/-! Issuance. The token mints only for its minter, and for ever nothing once that is given
up; once the staking contract is the minter it remains so, and each token minted from
then on is a reward that it computed for the sender of the message. -/

namespace CosmwasmContracts.System
open Library.CheckedWord Library.FiniteMap Library.TransactionMachine Library.TokenLedger
  CosmwasmStd CwOwnable Staking

/-- What a message to the token mints, and to whom. -/
def mints (_ : Cw20Token.Storage) (tx : Cw20Token.Tx) (_ : Response) : List (Addr × Nat) :=
  match tx.msg with
  | .mint recipient amount => [(⟨recipient⟩, amount.toNat)]
  | _ => []

/-- The reward that a message computes for its sender, where it is one that pays and the
reward is not zero. -/
def earnings (before : Staking.Storage) (now : Timestamp) (sender : Addr) (msg : Staking.ExecuteMsg) :
    List (Addr × Nat) :=
  if msg.Pays then
    match computedReward before now sender with
    | .ok reward => if reward.isZero then [] else [(sender, reward.toNat)]
    | .error _ => []
  else []

def earned (world : World) (tx : Tx) (_ : Response) : List (Addr × Nat) :=
  match tx.msg with
  | .token _ => []
  | .staking msg => earnings world.staking tx.block.time tx.sender msg

variable {host : Host} {world next : World} {tx : Tx} {response : Response}

theorem token_minter {token after : Cw20Token.Storage} {tx : Cw20Token.Tx} {out : Response} {minter : Addr}
    (current : token.tokenInfo.minter = some minter) (other : tx.sender ≠ minter)
    (accepted : (Cw20Token.machine host.api).exec token tx = .ok (after, out)) :
    after.tokenInfo.minter = some minter := by
  obtain ⟨permitted, effect⟩ := Cw20Token.execute_refines accepted
  have moved : after.tokenInfo.minter = ((Cw20Token.view token).apply (Cw20Token.toEvent tx)).minter :=
    congrArg Ledger.minter effect
  rw [moved]
  obtain ⟨sender, msg⟩ := tx
  cases msg with
  | updateMinter newMinter =>
    have authority : some minter = some sender := current.symm.trans permitted
    exact (other (Option.some.inj authority).symm).elim
  | transfer | burn | mint | approve | transferFrom => exact current

/-- No sub-message hands the minting right on. -/
theorem dispatch_minter {token after : Cw20Token.Storage} {messages : List CosmosMsg}
    (sent : dispatch host token messages = .ok after) :
    after.tokenInfo.minter = token.tokenInfo.minter := by
  induction messages generalizing token with
  | nil =>
    cases sent
    rfl
  | cons message rest ih =>
    obtain ⟨middle, first, later⟩ := dispatch_cons.mp sent
    have moved : middle.tokenInfo.minter =
        ((Cw20Token.view token).apply (Cw20Token.toEvent (tokenTx host message))).minter :=
      congrArg Ledger.minter (deliverMsg_refines first).2
    rw [ih later, moved]
    obtain ⟨contractAddr, msg⟩ := message
    cases msg <;> rfl

theorem exec_minter (minter : world.token.tokenInfo.minter = some host.staking) (external : tx.External host)
    (commits : (system host).exec world tx = .ok (next, response)) :
    next.token.tokenInfo.minter = some host.staking := by
  cases asked : tx.msg with
  | token msg =>
    rw [exec_token asked] at commits
    have outside : Cw20Token.Tx.sender ⟨tx.sender, msg⟩ ≠ host.staking := external
    exact token_minter minter outside commits.1
  | staking msg =>
    rw [exec_staking asked] at commits
    exact (dispatch_minter commits.2).trans minter

theorem run_minter (minter : world.token.tokenInfo.minter = some host.staking) {txs : List Tx}
    (external : ∀ tx ∈ txs, tx.External host) :
    ((system host).run world txs).token.tokenInfo.minter = some host.staking := by
  refine Machine.run_invariant _
    (motive := fun state : World => state.token.tokenInfo.minter = some host.staking)
    (fun tx => tx.External host) ?_ minter external
  exact fun before tx after out current outside commits => exec_minter current outside commits

/-- The mints among the sub-messages, when they all go through. -/
theorem dispatch_mints {token after : Cw20Token.Storage} {messages : List CosmosMsg}
    (sent : dispatch host token messages = .ok after) :
    (Cw20Token.machine host.api).observe mints token (messages.map (tokenTx host)) =
      messages.flatMap fun message => mints token (tokenTx host message) Response.new := by
  induction messages generalizing token with
  | nil => rfl
  | cons message rest ih =>
    obtain ⟨middle, first, later⟩ := dispatch_cons.mp sent
    obtain ⟨_, out, accepted⟩ := deliverMsg_eq_ok.mp first
    have seen := (Cw20Token.machine host.api).observe_append mints token [tokenTx host message]
      (rest.map (tokenTx host))
    rw [Machine.observe_single_ok _ _ accepted, Machine.run_cons, Machine.run_nil,
      Machine.deliver_ok _ accepted, ih later] at seen
    exact seen

theorem earnings_of_payout {before : Staking.Storage} {now : Timestamp} {sender : Addr}
    {msg : Staking.ExecuteMsg} {entry : StakeInfo} {reward : Uint128} (pays : msg.Pays)
    (payout : Payout before now sender entry reward) :
    earnings before now sender msg = if reward.isZero then [] else [(sender, reward.toNat)] := by
  rw [earnings, if_pos pays, computedReward_of_payout payout]

/-- A message to the staking contract mints the reward it computes, once, to its sender. -/
theorem effect_mints {before after : Staking.Storage} {now : Timestamp} {sender : Addr}
    {msg : Staking.ExecuteMsg} {messages : List CosmosMsg} (token : Cw20Token.Storage)
    (effect : Effect before now host.staking sender msg after messages) :
    (messages.flatMap fun message => mints token (tokenTx host message) Response.new) =
      earnings before now sender msg := by
  cases effect with
  | opened | toppedUp | reconfigured | reowned => rfl
  | reduced amount rest reward total entry payout positive parts remains
  | closed amount reward total entry payout all remains =>
    have pays : ExecuteMsg.Pays (.unstake amount) := trivial
    rw [earnings_of_payout pays payout, List.flatMap_append]
    unfold rewardMsgs
    cases zero : reward.isZero <;> simp [mints, tokenTx, decode, mintMsg, withdrawMsg]
  | claimed reward entry payout positive =>
    have pays : ExecuteMsg.Pays .claimRewards := trivial
    rw [← Word.isZero_eq_false] at positive
    rw [earnings_of_payout pays payout, positive]
    rfl

theorem exec_mints (minter : world.token.tokenInfo.minter = some host.staking) (external : tx.External host)
    (commits : (system host).exec world tx = .ok (next, response)) :
    (Cw20Token.machine host.api).observe mints world.token ((tokenSide host).replay world tx response) =
      earned world tx response := by
  unfold earned
  cases asked : tx.msg with
  | token msg =>
    rw [exec_token asked] at commits
    rw [tokenSide_replay_token host asked, Machine.observe_single_ok _ _ commits.1]
    cases msg with
    | mint recipient amount =>
      have authority := Cw20Token.mint_authorised commits.1 rfl
      exact (external (Option.some.inj (authority.symm.trans minter))).elim
    | transfer | burn | approve | transferFrom | updateMinter => rfl
  | staking msg =>
    rw [exec_staking asked] at commits
    rw [tokenSide_replay_staking host asked]
    exact (dispatch_mints commits.2).trans (effect_mints world.token (Staking.execute_effect commits.1))

/-- Once the staking contract is the minter, the token's mints are its rewards, in order. -/
theorem run_mints (minter : world.token.tokenInfo.minter = some host.staking) {txs : List Tx}
    (external : ∀ tx ∈ txs, tx.External host) :
    (Cw20Token.machine host.api).observe mints world.token ((tokenSide host).history world txs) =
      (system host).observe earned world txs := by
  apply (tokenSide host).observe_history
  intro earlier tx next response within commits
  have known : ∀ other ∈ earlier ++ [tx], other.External host :=
    fun other member => external other (within.subset member)
  have past : ∀ other ∈ earlier, other.External host :=
    fun other member => known other (List.mem_append_left _ member)
  exact exec_mints (run_minter minter past) (known tx (by simp)) commits

theorem mints_sum (token : Cw20Token.Storage) (tx : Cw20Token.Tx) (out : Response) :
    ((mints token tx out).map Prod.snd).sum = Cw20Token.mintedIn token tx out := by
  obtain ⟨sender, msg⟩ := tx
  cases msg <;> rfl

/-- The token alone: its supply is what was minted less what was burned, only the minter
in force mints, and without a minter it stays without one and never grows. With the
staking contract as its minter: that stays so, and from then on the token mints exactly
the rewards that the staking contract computes, each once and to the message's sender. -/
theorem issuance_controlled (host : Host) :
    (∀ msg storage response, Cw20Token.instantiate host.api msg = .ok (storage, response) →
      ∀ txs : List Cw20Token.Tx,
        ((Cw20Token.machine host.api).run storage txs).tokenInfo.totalSupply.toNat +
            (Cw20Token.machine host.api).tally Cw20Token.burnedIn storage txs =
          (Cw20Token.machine host.api).tally Cw20Token.mintedIn storage txs ∧
        (∀ tx next out recipient amount,
          (Cw20Token.machine host.api).exec ((Cw20Token.machine host.api).run storage txs) tx =
            .ok (next, out) → tx.msg = .mint recipient amount →
          ((Cw20Token.machine host.api).run storage txs).tokenInfo.minter = some tx.sender) ∧
        (((Cw20Token.machine host.api).run storage txs).tokenInfo.minter = none → ∀ more,
          ((Cw20Token.machine host.api).run storage (txs ++ more)).tokenInfo.minter = none ∧
          ((Cw20Token.machine host.api).run storage (txs ++ more)).tokenInfo.totalSupply.toNat ≤
            ((Cw20Token.machine host.api).run storage txs).tokenInfo.totalSupply.toNat)) ∧
    (∀ world, Launched host world → ∀ txs : List Tx, (∀ tx ∈ txs, tx.External host) →
      ((system host).run world txs).token.tokenInfo.minter = some host.staking →
      ∀ more : List Tx, (∀ tx ∈ more, tx.External host) →
        ((system host).run world (txs ++ more)).token.tokenInfo.minter = some host.staking ∧
        (Cw20Token.machine host.api).observe mints ((system host).run world txs).token
            ((tokenSide host).history ((system host).run world txs) more) =
          (system host).observe earned ((system host).run world txs) more ∧
        ((system host).run world (txs ++ more)).token.tokenInfo.totalSupply.toNat +
            (Cw20Token.machine host.api).tally Cw20Token.burnedIn ((system host).run world txs).token
              ((tokenSide host).history ((system host).run world txs) more) =
          ((system host).run world txs).token.tokenInfo.totalSupply.toNat +
            (((system host).observe earned ((system host).run world txs) more).map Prod.snd).sum) := by
  constructor
  · intro msg storage response made txs
    have conserved := Cw20Token.instantiate_conserved made
    have none : storage.tokenInfo.totalSupply.toNat = 0 :=
      congrArg Ledger.supply (Cw20Token.instantiate_view made)
    refine ⟨?_, fun tx next out recipient amount success mint =>
      Cw20Token.mint_authorised success mint, ?_⟩
    · have books := Cw20Token.run_supply host.api conserved txs
      omega
    · intro renounced more
      rw [Machine.run_append]
      obtain ⟨gone, nothing⟩ := Cw20Token.run_renounced host.api renounced more
      have later : (Cw20Token.view ((Cw20Token.machine host.api).run storage txs)).Conserved :=
        Cw20Token.run_conserved conserved txs
      have books := Cw20Token.run_supply host.api later more
      exact ⟨gone, by omega⟩
  · intro world launched txs external minter more outside
    have sound := run_sound (launched_sound launched) external
    have rewards := run_mints minter outside
    have books := Cw20Token.run_supply host.api sound.conserved
      ((tokenSide host).history ((system host).run world txs) more)
    rw [← run_token] at books
    refine ⟨?_, rewards, ?_⟩
    · rw [Machine.run_append]
      exact run_minter minter outside
    · rw [Machine.run_append, books, ← rewards, Machine.sum_map_observe _ _ _ _ mints_sum]

/-- A deposit, a claim, a burn and a withdrawal, after which two rewards have been minted. -/
def twoRewards : List Tx :=
  [⟨Staking.blockAt 100, ⟨"user1"⟩, .staking (.stake (word 100000))⟩,
    ⟨Staking.blockAt 2592100, ⟨"user1"⟩, .staking .claimRewards⟩,
    ⟨Staking.blockAt 2592101, ⟨"user1"⟩, .token (.burn (word 10))⟩,
    ⟨Staking.blockAt 5184100, ⟨"user1"⟩, .staking (.unstake (word 100000))⟩]

theorem issuance_controlled_twoRewards :
    ((Cw20Token.machine testHost.api).run Cw20Token.testToken
          Cw20Token.selfTransfers).tokenInfo.totalSupply.toNat +
        (Cw20Token.machine testHost.api).tally Cw20Token.burnedIn Cw20Token.testToken
          Cw20Token.selfTransfers =
      (Cw20Token.machine testHost.api).tally Cw20Token.mintedIn Cw20Token.testToken
        Cw20Token.selfTransfers ∧
    ((system testHost).run testWorld ([] ++ twoRewards)).token.tokenInfo.minter = some testHost.staking :=
  ⟨((issuance_controlled testHost).1 Cw20Token.testMsg Cw20Token.testToken
      (Response.new.addAttribute "action" "instatiate") rfl Cw20Token.selfTransfers).1,
    ((issuance_controlled testHost).2 testWorld testWorld_launched [] (by decide) (by decide) twoRewards
      (by decide)).1⟩

example : (system testHost).observe earned testWorld twoRewards =
    [(⟨"user1"⟩, 821), (⟨"user1"⟩, 821)] := by decide

end CosmwasmContracts.System
