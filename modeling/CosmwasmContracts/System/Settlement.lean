import CosmwasmContracts.System.Invariants
import CosmwasmContracts.Cw20Token.Outcomes

/-! What the staking contract's sub-messages do at the token: a deposit comes in under
the depositor's allowance, a reward is minted to the sender, and a withdrawal is paid
out of the contract's own balance. -/

namespace CosmwasmContracts.System
open Library.CheckedWord Library.FiniteMap Library.TransactionMachine Library.TokenLedger
  CosmwasmStd CwOwnable Staking

variable {host : Host} {token next : Cw20Token.Storage} {storage : Staking.Storage} {sender : Addr}
variable {amount reward : Uint128}

theorem dispatch_single {message : CosmosMsg} :
    dispatch host token [message] = .ok next ↔ deliverMsg host token message = .ok next := by
  rw [dispatch_cons]
  constructor
  · rintro ⟨middle, sent, same⟩
    cases same
    exact sent
  · exact fun sent => ⟨next, sent, rfl⟩

theorem deliverMsg_refines {message : CosmosMsg} (sent : deliverMsg host token message = .ok next) :
    (Cw20Token.view token).Permits (Cw20Token.toEvent (tokenTx host message)) ∧
      Cw20Token.view next =
        (Cw20Token.view token).apply (Cw20Token.toEvent (tokenTx host message)) := by
  obtain ⟨_, out, accepted⟩ := deliverMsg_eq_ok.mp sent
  exact Cw20Token.execute_refines accepted

theorem dispatch_conserved (conserved : (Cw20Token.view token).Conserved) {messages : List CosmosMsg}
    (sent : dispatch host token messages = .ok next) : (Cw20Token.view next).Conserved := by
  rw [← dispatch_run sent]
  exact Cw20Token.run_conserved conserved _

theorem dispatch_deposit
    (sent : dispatch host token [depositMsg storage host.staking sender amount] = .ok next) :
    host.api.addrValidate sender.text = .ok sender ∧
      Cw20Token.view next = (Cw20Token.view token).apply
        (.transferFrom host.staking sender host.staking amount.toNat) := by
  rw [dispatch_single] at sent
  obtain ⟨_, out, accepted⟩ := deliverMsg_eq_ok.mp sent
  exact ⟨(Cw20Token.executeTranferFrom_ok accepted).1, (deliverMsg_refines sent).2⟩

/-- A reward of zero sends no message, and would mint nothing. -/
theorem dispatch_reward (sent : dispatch host token (rewardMsgs storage sender reward) = .ok next) :
    Cw20Token.view next =
      (Cw20Token.view token).apply (.mint host.staking sender reward.toNat) := by
  unfold rewardMsgs at sent
  split at sent
  next zero =>
    rw [Word.isZero_eq_true] at zero
    cases sent
    rw [zero]
    change _ = Ledger.mk (_ + Finsupp.single sender 0) _ _ _
    rw [Finsupp.single_zero, add_zero]
    rfl
  next positive =>
    rw [dispatch_single] at sent
    exact (deliverMsg_refines sent).2

theorem dispatch_withdraw (sent : dispatch host token [withdrawMsg storage sender amount] = .ok next) :
    host.api.addrValidate sender.text = .ok sender ∧
      amount.toNat ≤ (Cw20Token.view token).balance host.staking ∧
      Cw20Token.view next =
        (Cw20Token.view token).apply (.transfer host.staking sender amount.toNat) := by
  rw [dispatch_single] at sent
  obtain ⟨_, out, accepted⟩ := deliverMsg_eq_ok.mp sent
  have ⟨valid, covered, effect, _⟩ := Cw20Token.executeTranfer_ok accepted
  exact ⟨valid, covered, effect⟩

section Effects

open Cw20Token (Moved Spent)

/-- A deposit in full: its two guards, and all that it changes at the token. -/
theorem deposit_effect
    (sent : dispatch host token [depositMsg storage host.staking sender amount] = .ok next) :
    (Cw20Token.machine host.api).Commits token
        ⟨host.staking, .transferFrom sender.text host.staking.text amount⟩ ∧
      Moved token next (some sender) (some host.staking) amount.toNat ∧
      Spent token next (some (sender, host.staking)) amount.toNat ∧
      next.tokenInfo = token.tokenInfo := by
  rw [dispatch_single] at sent
  obtain ⟨_, out, accepted⟩ := deliverMsg_eq_ok.mp sent
  exact ⟨⟨next, out, accepted⟩, Cw20Token.transferFrom_effect accepted⟩

theorem withdraw_effect (sent : dispatch host token [withdrawMsg storage sender amount] = .ok next) :
    Moved token next (some host.staking) (some sender) amount.toNat ∧
      Spent token next none amount.toNat ∧ next.tokenInfo = token.tokenInfo := by
  rw [dispatch_single] at sent
  obtain ⟨_, out, accepted⟩ := deliverMsg_eq_ok.mp sent
  exact Cw20Token.transfer_effect accepted

/-- A reward in full. One of zero asks nothing of the token and changes nothing there. -/
theorem reward_effect (sent : dispatch host token (rewardMsgs storage sender reward) = .ok next) :
    (reward.toNat ≠ 0 → token.tokenInfo.minter = some host.staking) ∧
      Moved token next none (some sender) reward.toNat ∧ Spent token next none reward.toNat ∧
      next.tokenInfo = { token.tokenInfo with totalSupply := next.tokenInfo.totalSupply } ∧
      next.tokenInfo.totalSupply.toNat = token.tokenInfo.totalSupply.toNat + reward.toNat := by
  unfold rewardMsgs at sent
  split at sent
  next zero =>
    rw [Word.isZero_eq_true] at zero
    cases sent
    rw [zero]
    refine ⟨fun positive => (positive rfl).elim, ?_, ?_, rfl, rfl⟩
    · intro account
      simp only [ite_self, Nat.sub_zero, Nat.add_zero]
    · intro owner spender
      simp only [ite_self, Nat.sub_zero]
  next positive =>
    rw [dispatch_single] at sent
    obtain ⟨_, out, accepted⟩ := deliverMsg_eq_ok.mp sent
    exact ⟨fun _ => Cw20Token.mint_authorised accepted rfl, Cw20Token.mint_effect accepted⟩

end Effects

section Balances

theorem deposit_balance (outside : sender ≠ host.staking)
    (sent : dispatch host token [depositMsg storage host.staking sender amount] = .ok next) :
    Cw20Token.balanceOf next host.staking = Cw20Token.balanceOf token host.staking + amount.toNat := by
  have moved := DFunLike.congr_fun (congrArg Ledger.balance (dispatch_deposit sent).2) host.staking
  change _ = (move _ sender host.staking amount.toNat) host.staking at moved
  rw [move_apply, if_neg outside.symm, if_pos rfl, Nat.sub_zero] at moved
  exact moved

theorem reward_balance (sent : dispatch host token (rewardMsgs storage sender reward) = .ok next)
    (account : Addr) : Cw20Token.balanceOf next account =
      Cw20Token.balanceOf token account + if account = sender then reward.toNat else 0 := by
  have minted := DFunLike.congr_fun (congrArg Ledger.balance (dispatch_reward sent)) account
  change _ = (_ + Finsupp.single sender reward.toNat) account at minted
  rw [credit_apply] at minted
  exact minted

/-- A reward and a withdrawal together: the contract pays the principal, and the sender
gets both. -/
theorem payout_balance (outside : sender ≠ host.staking)
    (sent : dispatch host token (rewardMsgs storage sender reward ++ [withdrawMsg storage sender amount]) =
      .ok next) :
    Cw20Token.balanceOf next host.staking + amount.toNat = Cw20Token.balanceOf token host.staking ∧
      Cw20Token.balanceOf next sender =
        Cw20Token.balanceOf token sender + amount.toNat + reward.toNat := by
  obtain ⟨middle, minted, paid⟩ := dispatch_append.mp sent
  obtain ⟨_, covered, effect⟩ := dispatch_withdraw paid
  have moved := fun account => DFunLike.congr_fun (congrArg Ledger.balance effect) account
  change ∀ account, Cw20Token.balanceOf next account =
    (move _ host.staking sender amount.toNat) account at moved
  have pool := moved host.staking
  have own := moved sender
  rw [move_apply, if_pos rfl, if_neg outside.symm, Nat.add_zero] at pool
  rw [move_apply, if_pos rfl, if_neg outside, Nat.sub_zero] at own
  have untouched := reward_balance minted host.staking
  have rewarded := reward_balance minted sender
  rw [if_neg outside.symm, Nat.add_zero] at untouched
  rw [if_pos rfl] at rewarded
  change _ = Cw20Token.balanceOf middle host.staking - amount.toNat at pool
  change _ = Cw20Token.balanceOf middle sender + amount.toNat at own
  change amount.toNat ≤ Cw20Token.balanceOf middle host.staking at covered
  omega

end Balances

section Success

variable (addressed : storage.config.tokenAddress = host.token)
variable (conserved : (Cw20Token.view token).Conserved)
variable (valid : host.api.addrValidate sender.text = .ok sender)
include addressed conserved valid

theorem dispatch_reward_succeeds
    (authority : reward.toNat ≠ 0 → (Cw20Token.view token).minter = some host.staking)
    (room : (Cw20Token.view token).supply + reward.toNat < 2 ^ 128) :
    ∃ next, dispatch host token (rewardMsgs storage sender reward) = .ok next := by
  unfold rewardMsgs
  split
  next => exact ⟨token, rfl⟩
  next positive =>
    rw [Bool.not_eq_true, Word.isZero_eq_false] at positive
    have minted : ∃ next out,
        Cw20Token.executeMint host.api token ⟨host.staking⟩ sender.text reward = .ok (next, out) :=
      Cw20Token.executeMint_succeeds conserved valid (authority positive) room
    obtain ⟨next, out, accepted⟩ := minted
    refine ⟨next, dispatch_single.mpr (deliverMsg_eq_ok.mpr ⟨?_, out, accepted⟩)⟩
    exact congrArg Addr.text addressed

theorem dispatch_withdraw_succeeds
    (covered : amount.toNat ≤ (Cw20Token.view token).balance host.staking) :
    ∃ next, dispatch host token [withdrawMsg storage sender amount] = .ok next := by
  have paid : ∃ next out,
      Cw20Token.executeTranfer host.api token ⟨host.staking⟩ sender.text amount = .ok (next, out) :=
    Cw20Token.executeTranfer_succeeds conserved valid covered
  obtain ⟨next, out, accepted⟩ := paid
  refine ⟨next, dispatch_single.mpr (deliverMsg_eq_ok.mpr ⟨?_, out, accepted⟩)⟩
  exact congrArg Addr.text addressed

end Success

end CosmwasmContracts.System
