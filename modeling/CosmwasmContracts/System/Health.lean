import CosmwasmContracts.System.Accrual
import CosmwasmContracts.System.Solvency

/-! What every reachable state of the composed system has to offer a staker: it is sound
and solvent, whoever has an entry has an address that the host accepts, and no entry is
timed later than the last block. -/

namespace CosmwasmContracts.System
open Library.CheckedWord Library.FiniteMap Library.TransactionMachine Library.TimedHistory
  Library.TokenLedger CosmwasmStd CwOwnable Staking

/-- The host accepts an address in a message; every sender's and every contract's it does. -/
def Host.Accepts (host : Host) (addr : Addr) : Prop := host.api.addrValidate addr.text = .ok addr

structure Healthy (host : Host) (world : World) : Prop extends Sound host world where
  solvent : world.staking.totalStaked.toNat ≤ poolBalance host world
  accepted : ∀ user entry, world.staking.stakes.mayLoad user = some entry → host.Accepts user

variable {host : Host} {world next : World} {tx : Tx} {response : Response}

/-- Whoever has an entry after a message had one before it, or has just been accepted as
the owner of a deposit. -/
theorem effect_accepted {before after : Staking.Storage} {now : Timestamp} {sender user : Addr}
    {msg : Staking.ExecuteMsg} {messages : List CosmosMsg} {token token' : Cw20Token.Storage}
    {kept : StakeInfo} (effect : Effect before now host.staking sender msg after messages)
    (sent : dispatch host token messages = .ok token')
    (accepted : ∀ user entry, before.stakes.mayLoad user = some entry → host.Accepts user)
    (present : after.stakes.mayLoad user = some kept) : host.Accepts user := by
  by_cases own : user = sender
  · subst own
    cases effect with
    | opened amount total absent sum | toppedUp amount held total entry old grown sum =>
      exact (dispatch_deposit sent).1
    | reduced amount rest reward total entry payout positive parts remains
    | closed amount reward total entry payout all remains
    | claimed reward entry payout positive => exact accepted user entry payout.present
    | reconfigured | reowned => exact accepted user kept present
  · rw [effect_frame effect own] at present
    exact accepted user kept present

theorem exec_accepted
    (accepted : ∀ user entry, world.staking.stakes.mayLoad user = some entry → host.Accepts user)
    (commits : (system host).exec world tx = .ok (next, response)) :
    ∀ user entry, next.staking.stakes.mayLoad user = some entry → host.Accepts user := by
  intro user kept present
  cases asked : tx.msg with
  | token msg =>
    rw [exec_token asked] at commits
    rw [commits.2] at present
    exact accepted user kept present
  | staking msg =>
    rw [exec_staking asked] at commits
    exact effect_accepted (execute_effect commits.1) commits.2 accepted present

theorem exec_healthy (healthy : Healthy host world) (external : tx.External host)
    (commits : (system host).exec world tx = .ok (next, response)) : Healthy host next := by
  have sound := run_sound healthy.toSound (List.forall_mem_singleton.mpr external)
  rw [Machine.run_cons, Machine.run_nil, Machine.deliver_ok _ commits] at sound
  have books := exec_surplus healthy.toSound external commits
  have solvent := healthy.solvent
  exact ⟨sound, by omega, exec_accepted healthy.accepted commits⟩

theorem launched_healthy (launched : Launched host world) : Healthy host world := by
  refine ⟨launched_sound launched, ?_, ?_⟩
  · rw [launched_empty launched]
    exact Nat.zero_le _
  · intro user entry present
    obtain ⟨msg, out, made, _⟩ := launched.staking
    rw [(instantiate_empty made).1, Map.mayLoad_empty] at present
    cases present

theorem run_healthy (launched : Launched host world) {txs : List Tx}
    (external : ∀ tx ∈ txs, tx.External host) : Healthy host ((system host).run world txs) := by
  refine Machine.run_invariant _ (motive := fun state : World => Healthy host state)
    (fun tx => tx.External host) ?_ (launched_healthy launched) external
  exact fun before tx after out healthy outside commits => exec_healthy healthy outside commits

/-- The clocks of the entries never run ahead of the last block. -/
theorem run_clocks (launched : Launched host world) {genesis : Nat} {txs : List Tx}
    (ordered : Ordered blockNanos genesis txs) :
    TimesReached ((system host).run world txs).staking (reached blockNanos genesis txs) := by
  apply ordered_rule _ blockNanos
    (motive := fun txs state => TimesReached state.staking (reached blockNanos genesis txs)) genesis world
    ?_ ?_ ?_ ordered
  · intro user entry present
    obtain ⟨msg, out, made, _⟩ := launched.staking
    rw [(instantiate_empty made).1, Map.mayLoad_empty] at present
    cases present
  · intro txs tx next response later times commits
    rw [reached_snoc]
    cases asked : tx.msg with
    | token msg =>
      rw [exec_token asked] at commits
      rw [commits.2]
      exact fun user entry present => (times user entry present).trans later
    | staking msg =>
      rw [exec_staking asked] at commits
      exact effect_times (execute_effect commits.1) times later
  · intro txs tx reason later times fails
    rw [reached_snoc]
    exact fun user entry present => (times user entry present).trans later

end CosmwasmContracts.System
