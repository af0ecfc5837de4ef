import CosmwasmContracts.System.Settlement

/-! Solvency of the pool. The staking contract's token balance covers every deposit, and
what it holds beyond them is exactly what others sent or minted to it. -/

namespace CosmwasmContracts.System
open Library.CheckedWord Library.FiniteMap Library.TransactionMachine Library.TokenLedger
  CosmwasmStd CwOwnable Staking

/-- The amount a message to the token gives to an address by its own wording. -/
def sentTo (recipient : Addr) : Cw20Token.ExecuteMsg → Nat
  | .transfer target amount => if target = recipient.text then amount.toNat else 0
  | .transferFrom _ target amount => if target = recipient.text then amount.toNat else 0
  | .mint target amount => if target = recipient.text then amount.toNat else 0
  | _ => 0

/-- What a message sent to the token gives directly to the staking contract. -/
def directDeposits (host : Host) (_ : World) (tx : Tx) (_ : Response) : Nat :=
  match tx.msg with
  | .token msg => sentTo host.staking msg
  | .staking _ => 0

def poolBalance (host : Host) (world : World) : Nat := Cw20Token.balanceOf world.token host.staking

/-- The pool's balance beyond the deposits on its books. -/
def surplus (host : Host) (world : World) : Int :=
  poolBalance host world - world.staking.totalStaked.toNat

variable {host : Host} {world next : World} {tx : Tx} {response : Response}

theorem received_toEvent (account : Addr) (tx : Cw20Token.Tx) :
    (Cw20Token.toEvent tx).received account = sentTo account tx.msg := by
  obtain ⟨sender, msg⟩ := tx
  cases msg with
  | transfer | transferFrom | mint =>
    simp only [Cw20Token.toEvent, Event.received, sentTo, Cw20Token.addr_eq_iff]
  | burn | approve | updateMinter => rfl

theorem actor_toEvent (tx : Cw20Token.Tx) : (Cw20Token.toEvent tx).actor = tx.sender := by
  obtain ⟨sender, msg⟩ := tx
  cases msg <;> rfl

/-- A message to the token gives the pool what it says and takes nothing from it. -/
theorem token_surplus {token token' : Cw20Token.Storage} {tx : Cw20Token.Tx} {out : Response}
    (outside : tx.sender ≠ host.staking)
    (unspendable : ∀ spender, Cw20Token.allowanceOf token host.staking spender = 0)
    (accepted : (Cw20Token.machine host.api).exec token tx = .ok (token', out)) :
    Cw20Token.balanceOf token' host.staking =
      Cw20Token.balanceOf token host.staking + sentTo host.staking tx.msg := by
  obtain ⟨permitted, effect⟩ := Cw20Token.execute_refines accepted
  have passive := Ledger.apply_balance_passive permitted
    (fun own => outside ((actor_toEvent tx).symm.trans own)) unspendable
  rw [← effect, received_toEvent] at passive
  exact passive

/-- The staking contract's messages move its balance and its total together. -/
theorem effect_surplus {before after : Staking.Storage} {now : Timestamp} {sender : Addr}
    {msg : Staking.ExecuteMsg} {messages : List CosmosMsg} {token token' : Cw20Token.Storage}
    (effect : Effect before now host.staking sender msg after messages)
    (outside : sender ≠ host.staking) (sent : dispatch host token messages = .ok token') :
    Cw20Token.balanceOf token' host.staking + before.totalStaked.toNat =
      Cw20Token.balanceOf token host.staking + after.totalStaked.toNat := by
  cases effect with
  | opened amount total absent sum | toppedUp amount held total entry present grown sum =>
    have paid := deposit_balance outside sent
    change _ = _ + total.toNat
    omega
  | reduced amount rest reward total entry payout positive parts remains
  | closed amount reward total entry payout all remains =>
    have paid := (payout_balance outside sent).1
    change _ = _ + total.toNat
    omega
  | claimed reward entry payout positive =>
    rw [← rewardMsgs_of_positive before sender positive] at sent
    have minted := reward_balance sent host.staking
    rw [if_neg outside.symm] at minted
    rw [minted]
    rfl
  | reconfigured | reowned =>
    cases sent
    rfl

theorem exec_surplus (sound : Sound host world) (external : tx.External host)
    (commits : (system host).exec world tx = .ok (next, response)) :
    poolBalance host next + world.staking.totalStaked.toNat =
      poolBalance host world + next.staking.totalStaked.toNat +
        directDeposits host world tx response := by
  unfold directDeposits
  cases asked : tx.msg with
  | token msg =>
    rw [exec_token asked] at commits
    have outside : Cw20Token.Tx.sender ⟨tx.sender, msg⟩ ≠ host.staking := external
    have moved := token_surplus outside sound.unspendable commits.1
    change poolBalance host next = poolBalance host world + sentTo host.staking msg at moved
    rw [moved, commits.2]
    change _ = _ + _ + sentTo host.staking msg
    omega
  | staking msg =>
    rw [exec_staking asked] at commits
    exact effect_surplus (Staking.execute_effect commits.1) external commits.2

/-- The pool's balance against its books and what was sent to it directly, over a run. -/
theorem run_surplus (sound : Sound host world) {txs : List Tx}
    (external : ∀ tx ∈ txs, tx.External host) :
    poolBalance host ((system host).run world txs) + world.staking.totalStaked.toNat =
      poolBalance host world + ((system host).run world txs).staking.totalStaked.toNat +
        (system host).tally (directDeposits host) world txs := by
  apply Machine.allowed_rule _ (motive := fun txs state =>
    poolBalance host state + world.staking.totalStaked.toNat =
      poolBalance host world + state.staking.totalStaked.toNat +
        (system host).tally (directDeposits host) world txs) (fun tx => tx.External host) world rfl ?_ ?_
    external
  · intro txs tx next response past outside earlier commits
    have step := exec_surplus (run_sound sound past) outside commits
    rw [Machine.tally_snoc_ok _ _ commits]
    omega
  · intro txs tx reason earlier fails
    rw [Machine.tally_snoc_error _ _ fails]
    exact earlier

theorem launched_empty (launched : Launched host world) : world.staking.totalStaked.toNat = 0 := by
  obtain ⟨msg, response, made, _⟩ := launched.staking
  exact (Staking.instantiate_empty made).2

theorem run_solvent (launched : Launched host world) {txs : List Tx}
    (external : ∀ tx ∈ txs, tx.External host) :
    ((system host).run world txs).staking.totalStaked.toNat ≤
      poolBalance host ((system host).run world txs) := by
  have books := run_surplus (launched_sound launched) external
  have zero := launched_empty launched
  omega

/-- In every state of every run: the pool covers its books, the surplus is what it held
at its launch and what others sent or minted to it since, and no continuation of the
run makes it smaller. -/
theorem pool_solvent (host : Host) (world : World) (launched : Launched host world) (txs : List Tx)
    (external : ∀ tx ∈ txs, tx.External host) :
    ((system host).run world txs).staking.totalStaked.toNat ≤
        poolBalance host ((system host).run world txs) ∧
    surplus host ((system host).run world txs) =
      poolBalance host world + (system host).tally (directDeposits host) world txs ∧
    ∀ more : List Tx, (∀ tx ∈ more, tx.External host) →
      surplus host ((system host).run world txs) ≤ surplus host ((system host).run world (txs ++ more)) := by
  have sound := launched_sound launched
  have zero := launched_empty launched
  have held : ∀ history : List Tx, (∀ tx ∈ history, tx.External host) →
      surplus host ((system host).run world history) =
        poolBalance host world + (system host).tally (directDeposits host) world history := by
    intro history outside
    have books := run_surplus sound outside
    unfold surplus
    omega
  have now := held txs external
  refine ⟨run_solvent launched external, now, ?_⟩
  intro more outside
  have all : ∀ tx ∈ txs ++ more, tx.External host := by
    intro tx member
    rcases List.mem_append.mp member with old | new
    · exact external tx old
    · exact outside tx new
  have later := held (txs ++ more) all
  rw [Machine.tally_append] at later
  omega

/-- A deposit, tokens sent to the pool by mistake, an attempt to spend for it, and a
withdrawal. -/
def mixedHistory : List Tx :=
  [⟨Staking.blockAt 100, ⟨"user1"⟩, .staking (.stake (word 100000))⟩,
    ⟨Staking.blockAt 101, ⟨"user1"⟩, .token (.transfer "staking" (word 7))⟩,
    ⟨Staking.blockAt 102, ⟨"user1"⟩, .token (.transferFrom "staking" "user1" (word 1))⟩,
    ⟨Staking.blockAt 2592100, ⟨"user1"⟩, .staking (.unstake (word 60000))⟩]

theorem pool_solvent_mixedHistory :
    surplus testHost ((system testHost).run testWorld mixedHistory) =
      poolBalance testHost testWorld +
        (system testHost).tally (directDeposits testHost) testWorld mixedHistory :=
  (pool_solvent testHost testWorld testWorld_launched mixedHistory (by decide)).2.1

example : poolBalance testHost ((system testHost).run testWorld mixedHistory) = 40012 := by decide

end CosmwasmContracts.System
