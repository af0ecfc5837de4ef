import CosmwasmContracts.System.Accrual
import CosmwasmContracts.System.Solvency

/-! What an address owns in both contracts together. Staking and unstaking move its tokens
between the two; a reward adds to them; only the token's own messages take any away. -/

namespace CosmwasmContracts.System
open Library.CheckedWord Library.FiniteMap Library.TransactionMachine Library.TokenLedger
  CosmwasmStd CwOwnable Staking

/-- The tokens of an address and its stake. -/
def wealth (world : World) (user : Addr) : Nat :=
  Cw20Token.balanceOf world.token user + stakedAmount world.staking user

/-- What a message to the token takes out of an address. -/
def takenFrom (user : Addr) (tx : Cw20Token.Tx) : Nat :=
  match tx.msg with
  | .transfer _ amount => if tx.sender = user then amount.toNat else 0
  | .burn amount => if tx.sender = user then amount.toNat else 0
  | .transferFrom owner _ amount => if owner = user.text then amount.toNat else 0
  | _ => 0

def outgoing (user : Addr) (_ : World) (tx : Tx) (_ : Response) : Nat :=
  match tx.msg with
  | .token msg => takenFrom user ⟨tx.sender, msg⟩
  | .staking _ => 0

def incoming (user : Addr) (_ : World) (tx : Tx) (_ : Response) : Nat :=
  match tx.msg with
  | .token msg => sentTo user msg
  | .staking _ => 0

section Token

variable {host : Host} {token next : Cw20Token.Storage} {user : Addr}

theorem drawn_toEvent (user : Addr) (tx : Cw20Token.Tx) :
    (Cw20Token.toEvent tx).drawn user = takenFrom user tx := by
  obtain ⟨sender, msg⟩ := tx
  cases msg with
  | transferFrom => simp only [Cw20Token.toEvent, Event.drawn, takenFrom, Cw20Token.addr_eq_iff]
  | transfer | burn | mint | approve | updateMinter => rfl

/-- The statement of an account at the token. -/
theorem token_statement {tx : Cw20Token.Tx} {out : Response} (user : Addr)
    (accepted : (Cw20Token.machine host.api).exec token tx = .ok (next, out)) :
    Cw20Token.balanceOf next user + takenFrom user tx =
      Cw20Token.balanceOf token user + sentTo user tx.msg := by
  obtain ⟨permitted, effect⟩ := Cw20Token.execute_refines accepted
  have statement := Ledger.apply_balance_statement permitted user
  rw [← effect, drawn_toEvent, received_toEvent] at statement
  exact statement

/-- What the staking contract's messages take from an address and give to it. -/
theorem dispatch_statement {messages : List CosmosMsg} (user : Addr)
    (sent : dispatch host token messages = .ok next) :
    Cw20Token.balanceOf next user + (messages.map fun message => takenFrom user (tokenTx host message)).sum =
      Cw20Token.balanceOf token user +
        (messages.map fun message => sentTo user (decode message.msg)).sum := by
  induction messages generalizing token with
  | nil =>
    cases sent
    rfl
  | cons message rest ih =>
    obtain ⟨middle, first, later⟩ := dispatch_cons.mp sent
    obtain ⟨_, out, accepted⟩ := deliverMsg_eq_ok.mp first
    have here := token_statement user accepted
    have others := ih later
    rw [List.map_cons, List.sum_cons, List.map_cons, List.sum_cons]
    change _ = _ + sentTo user (decode message.msg) at here
    omega

end Token

section Effects

variable {host : Host} {before after : Staking.Storage} {now : Timestamp} {sender user : Addr}
variable {msg : Staking.ExecuteMsg} {messages : List CosmosMsg}

theorem deposit_flows (before : Staking.Storage) (sender : Addr) (amount : Uint128)
    (outside : user ≠ host.staking) :
    takenFrom user (tokenTx host (depositMsg before host.staking sender amount)) =
        deposited user sender (.stake amount) ∧
      sentTo user (decode (depositMsg before host.staking sender amount).msg) = 0 := by
  constructor
  · change (if sender.text = user.text then amount.toNat else 0) = if sender = user then amount.toNat else 0
    simp only [← Cw20Token.addr_eq_iff]
  · exact if_neg (text_ne outside.symm)

theorem reward_flows (host : Host) (before : Staking.Storage) (sender user : Addr) (reward : Uint128) :
    ((rewardMsgs before sender reward).map fun message => takenFrom user (tokenTx host message)).sum = 0 ∧
      ((rewardMsgs before sender reward).map fun message => sentTo user (decode message.msg)).sum =
        mintedTo user (rewardMsgs before sender reward) := by
  unfold rewardMsgs
  cases reward.isZero with
  | true => exact ⟨rfl, rfl⟩
  | false => exact ⟨rfl, rfl⟩

theorem withdraw_flows (before : Staking.Storage) (sender : Addr) (amount : Uint128)
    (outside : user ≠ host.staking) :
    takenFrom user (tokenTx host (withdrawMsg before sender amount)) = 0 ∧
      sentTo user (decode (withdrawMsg before sender amount).msg) =
        withdrawn user sender (.unstake amount) := by
  constructor
  · exact if_neg outside.symm
  · change (if sender.text = user.text then amount.toNat else 0) = if sender = user then amount.toNat else 0
    simp only [← Cw20Token.addr_eq_iff]

/-- An address gives what it stakes and is given what it unstakes and its reward. -/
theorem effect_flows (effect : Effect before now host.staking sender msg after messages)
    (outside : user ≠ host.staking) :
    (messages.map fun message => takenFrom user (tokenTx host message)).sum = deposited user sender msg ∧
      (messages.map fun message => sentTo user (decode message.msg)).sum =
        withdrawn user sender msg + mintedTo user messages := by
  cases effect with
  | opened amount total absent sum | toppedUp amount held total entry present grown sum =>
    obtain ⟨taken, given⟩ := deposit_flows before sender amount outside
    rw [List.map_singleton, List.sum_singleton, List.map_singleton, List.sum_singleton, taken, given,
      mintedTo_depositMsg]
    exact ⟨rfl, rfl⟩
  | reduced amount rest reward total entry payout positive parts remains
  | closed amount reward total entry payout all remains =>
    obtain ⟨kept, rewarded⟩ := reward_flows host before sender user reward
    obtain ⟨taken, given⟩ := withdraw_flows before sender amount outside
    rw [List.map_append, List.sum_append, List.map_append, List.sum_append, List.map_singleton,
      List.sum_singleton, List.map_singleton, List.sum_singleton, kept, rewarded, taken, given,
      mintedTo_append, mintedTo_withdrawMsg]
    exact ⟨rfl, Nat.add_comm _ _⟩
  | claimed reward entry payout positive => exact ⟨rfl, (Nat.zero_add _).symm⟩
  | reconfigured | reowned => exact ⟨rfl, rfl⟩

end Effects

section Run

variable {host : Host} {world next : World} {tx : Tx} {response : Response} {user : Addr}

theorem exec_wealth (outside : user ≠ host.staking)
    (commits : (system host).exec world tx = .ok (next, response)) :
    wealth next user + outgoing user world tx response =
      wealth world user + incoming user world tx response + rewardedBy user world tx response := by
  unfold wealth outgoing incoming rewardedBy
  cases asked : tx.msg with
  | token msg =>
    rw [exec_token asked] at commits
    have statement := token_statement user commits.1
    rw [commits.2]
    change _ = _ + sentTo user msg at statement
    change _ + _ + takenFrom user ⟨tx.sender, msg⟩ = _ + _ + sentTo user msg + 0
    omega
  | staking msg =>
    rw [exec_staking asked] at commits
    have effect := execute_effect commits.1
    have statement := dispatch_statement user commits.2
    obtain ⟨taken, given⟩ := effect_flows effect outside
    have staked := effect_amount effect user
    rw [taken, given] at statement
    change _ + _ + 0 = _ + _ + 0 + mintedTo user response.messages
    omega

end Run

/-- The wealth of an address, its tokens and its stake together, over any run. It is what it
was, with all that the token's messages brought and all the rewards, less all that the
token's messages took, however others stake, unstake, claim or reconfigure; and a message to
the staking contract, whoever sends it, only ever adds the reward that it mints. -/
theorem wealth_accounted (host : Host) (world : World) (txs : List Tx) (user : Addr)
    (outside : user ≠ host.staking) :
    wealth ((system host).run world txs) user + (system host).tally (outgoing user) world txs =
        wealth world user + (system host).tally (incoming user) world txs +
          (system host).tally (rewardedBy user) world txs ∧
    ∀ block sender msg next response,
      (system host).exec ((system host).run world txs) ⟨block, sender, .staking msg⟩ = .ok (next, response) →
        wealth next user = wealth ((system host).run world txs) user + mintedTo user response.messages := by
  constructor
  · apply (system host).history_rule (motive := fun txs state =>
      wealth state user + (system host).tally (outgoing user) world txs =
        wealth world user + (system host).tally (incoming user) world txs +
          (system host).tally (rewardedBy user) world txs)
    · rfl
    · intro txs tx next response earlier commits
      have step := exec_wealth outside commits
      rw [Machine.tally_snoc_ok _ _ commits, Machine.tally_snoc_ok _ _ commits,
        Machine.tally_snoc_ok _ _ commits]
      omega
    · intro txs tx reason earlier fails
      rw [Machine.tally_snoc_error _ _ fails, Machine.tally_snoc_error _ _ fails,
        Machine.tally_snoc_error _ _ fails]
      exact earlier
  · intro block sender msg next response commits
    exact exec_wealth outside commits

/-- A stake, a gift to it, tokens spent for it and a withdrawal with its reward. -/
theorem wealth_accounted_mixedHistory :
    wealth ((system testHost).run testWorld mixedHistory) ⟨"user1"⟩ + 7 =
      wealth testWorld ⟨"user1"⟩ + 0 + 821 := by
  have statement := (wealth_accounted testHost testWorld mixedHistory ⟨"user1"⟩ (by decide)).1
  have sent : (system testHost).tally (outgoing ⟨"user1"⟩) testWorld mixedHistory = 7 := by decide
  have brought : (system testHost).tally (incoming ⟨"user1"⟩) testWorld mixedHistory = 0 := by decide
  have rewarded : (system testHost).tally (rewardedBy ⟨"user1"⟩) testWorld mixedHistory = 821 := by decide
  rwa [sent, brought, rewarded] at statement

end CosmwasmContracts.System
