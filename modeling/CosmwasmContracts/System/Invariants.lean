import CosmwasmContracts.System.Composition
import CosmwasmContracts.Cw20Token.Outflow

/-! What holds of the composed system in every state that external messages can reach:
the configuration names the token, the token's books balance, the staking contract
lets nobody spend for it, and its own books balance. -/

namespace CosmwasmContracts.System
open Library.CheckedWord Library.FiniteMap Library.TransactionMachine Library.TokenLedger
  CosmwasmStd CwOwnable

structure Sound (host : Host) (world : World) : Prop where
  addressed : world.staking.config.tokenAddress = host.token
  conserved : (Cw20Token.view world.token).Conserved
  unspendable : ∀ spender, Cw20Token.allowanceOf world.token host.staking spender = 0
  counted : world.staking.totalStaked.toNat = Staking.stakesTotal world.staking.stakes

variable {host : Host} {world : World}

/-- No sub-message approves anyone, and no external message does so for the contract. -/
theorem tokenSide_silent {txs : List Tx} (external : ∀ tx ∈ txs, tx.External host) (spender : Addr) :
    ∀ tx ∈ (tokenSide host).history world txs, ¬tx.Approves host.staking spender := by
  apply Machine.forall_mem_observe
  intro tx member before next response _ seen replayed
  have outside := external tx member
  obtain ⟨block, sender, msg⟩ := tx
  cases msg with
  | token msg =>
    rw [List.mem_singleton.mp replayed]
    cases msg with
    | approve target amount => exact fun approves => outside approves.1
    | transfer | burn | mint | transferFrom | updateMinter => exact id
  | staking msg =>
    obtain ⟨message, _, rfl⟩ := List.mem_map.mp replayed
    obtain ⟨contractAddr, sent⟩ := message
    cases sent with
    | transfer | transferFrom | mint => exact id

theorem unspendable_of_silent {token : Cw20Token.Storage} {txs : List Cw20Token.Tx} {owner spender : Addr}
    (none : Cw20Token.allowanceOf token owner spender = 0)
    (silent : ∀ tx ∈ txs, ¬tx.Approves owner spender) :
    Cw20Token.allowanceOf ((Cw20Token.machine host.api).run token txs) owner spender = 0 := by
  have bound := Cw20Token.run_allowance host.api token owner spender txs
  rw [none, Cw20Token.tally_approvedFor_eq_zero silent token] at bound
  omega

theorem approves_sender {tx : Cw20Token.Tx} {owner spender : Addr} (approves : tx.Approves owner spender) :
    tx.sender = owner := by
  obtain ⟨sender, msg⟩ := tx
  cases msg with
  | approve target amount => exact approves.1
  | transfer | burn | mint | transferFrom | updateMinter => exact approves.elim

theorem launched_sound (launched : Launched host world) : Sound host world := by
  obtain ⟨⟨msg, first, response, history, made, senders, reached⟩,
    ⟨stakingMsg, out, configured, named⟩⟩ := launched
  obtain ⟨empty, zero⟩ := Staking.instantiate_empty configured
  refine ⟨?_, ?_, ?_, ?_⟩
  · rw [Staking.instantiate_token configured, named]
  · rw [reached]
    exact Cw20Token.run_conserved (Cw20Token.instantiate_conserved made) history
  · intro spender
    rw [reached]
    refine unspendable_of_silent (Cw20Token.instantiate_allowance made host.staking spender) ?_
    exact fun tx member approves => senders tx member (approves_sender approves)
  · rw [zero, empty]
    exact (Map.total_empty _).symm

theorem exec_addressed {next : World} {tx : Tx} {response : Response}
    (addressed : world.staking.config.tokenAddress = host.token)
    (commits : (system host).exec world tx = .ok (next, response)) :
    next.staking.config.tokenAddress = host.token := by
  cases asked : tx.msg with
  | token msg =>
    rw [exec_token asked] at commits
    rw [commits.2]
    exact addressed
  | staking msg =>
    rw [exec_staking asked] at commits
    rw [Staking.effect_token (Staking.execute_effect commits.1)]
    exact addressed

theorem exec_config {next : World} {tx : Tx} {response : Response} (fixed : ¬tx.Reconfigures)
    (commits : (system host).exec world tx = .ok (next, response)) :
    next.staking.config = world.staking.config := by
  cases asked : tx.msg with
  | token msg =>
    rw [exec_token asked] at commits
    rw [commits.2]
  | staking msg =>
    rw [exec_staking asked] at commits
    exact Staking.effect_config (Staking.execute_effect commits.1)
      (fun changes => fixed (Tx.reconfigures_of asked changes))

theorem run_token (world : World) (txs : List Tx) :
    ((system host).run world txs).token =
      (Cw20Token.machine host.api).run world.token ((tokenSide host).history world txs) :=
  ((tokenSide host).run_history world txs).symm

theorem run_staking (world : World) (txs : List Tx) :
    ((system host).run world txs).staking =
      (Staking.machine host.api host.ownable host.staking).run world.staking
        ((stakingSide host).history world txs) :=
  ((stakingSide host).run_history world txs).symm

theorem run_config {txs : List Tx} (constant : ∀ tx ∈ txs, ¬tx.Reconfigures) :
    ((system host).run world txs).staking.config = world.staking.config := by
  refine Machine.run_invariant _
    (motive := fun state : World => state.staking.config = world.staking.config)
    (fun tx => ¬tx.Reconfigures) ?_ rfl constant
  intro before tx after out kept fixed commits
  exact (exec_config fixed commits).trans kept

theorem run_sound (sound : Sound host world) {txs : List Tx} (external : ∀ tx ∈ txs, tx.External host) :
    Sound host ((system host).run world txs) := by
  refine ⟨?_, ?_, ?_, ?_⟩
  · refine Machine.run_invariant _
      (motive := fun world : World => world.staking.config.tokenAddress = host.token)
      (fun _ => True) ?_ sound.addressed (fun _ _ => trivial)
    exact fun before tx next response addressed _ commits => exec_addressed addressed commits
  · rw [run_token]
    exact Cw20Token.run_conserved sound.conserved _
  · intro spender
    rw [run_token]
    exact unspendable_of_silent (sound.unspendable spender) (tokenSide_silent external spender)
  · rw [run_staking]
    exact Staking.run_counted host.api host.ownable host.staking sound.counted _

end CosmwasmContracts.System
