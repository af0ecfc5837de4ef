import CosmwasmContracts.Cw20Token.Outflow

/-! Exactly when each token message succeeds in a reachable state, and all that it does
then. Conservation leaves no other reason to fail: a credit after a debit never overflows
and the supply always covers a burn. -/

namespace CosmwasmContracts.Cw20Token
open Library.CheckedWord Library.FiniteMap Library.TransactionMachine Library.TokenLedger CosmwasmStd

/-- Every balance after an amount went from the source, if any, to the destination, if any. -/
def Moved (before next : Storage) (source destination : Option Addr) (amount : Nat) : Prop :=
  ∀ account, balanceOf next account =
    balanceOf before account - (if some account = source then amount else 0) +
      if some account = destination then amount else 0

/-- The allowances after one of them, if any, was used up by an amount. -/
def Spent (before next : Storage) (used : Option (Addr × Addr)) (amount : Nat) : Prop :=
  ∀ owner spender, allowanceOf next owner spender =
    allowanceOf before owner spender - if some (owner, spender) = used then amount else 0

namespace Moved

variable {before next : Storage} {source destination : Option Addr} {account : Addr} {amount : Nat}

theorem frame (moved : Moved before next source destination amount) (notSource : some account ≠ source)
    (notDestination : some account ≠ destination) : balanceOf next account = balanceOf before account := by
  rw [moved account, if_neg notSource, if_neg notDestination, Nat.sub_zero, Nat.add_zero]

theorem taken (moved : Moved before next (some account) destination amount)
    (notDestination : some account ≠ destination) :
    balanceOf next account = balanceOf before account - amount := by
  rw [moved account, if_pos rfl, if_neg notDestination, Nat.add_zero]

theorem given (moved : Moved before next source (some account) amount) (notSource : some account ≠ source) :
    balanceOf next account = balanceOf before account + amount := by
  rw [moved account, if_neg notSource, if_pos rfl, Nat.sub_zero]

end Moved

theorem Spent.frame {before next : Storage} {used : Option (Addr × Addr)} {owner spender : Addr}
    {amount : Nat} (spent : Spent before next used amount) (unused : some (owner, spender) ≠ used) :
    allowanceOf next owner spender = allowanceOf before owner spender := by
  rw [spent owner spender, if_neg unused, Nat.sub_zero]

variable {api : Api} {storage next : Storage} {sender : Addr} {recipient owner : String}
variable {amount : Uint128} {response : Response}

/-- A TransferFrom writes two balances and one allowance, whatever they were. -/
theorem transferFrom_keys
    (success : (machine api).exec storage ⟨sender, .transferFrom owner recipient amount⟩ =
      .ok (next, response)) :
    (∀ account, account ∈ next.balances ↔
      account = ⟨recipient⟩ ∨ account = ⟨owner⟩ ∨ account ∈ storage.balances) ∧
    ∀ pair, pair ∈ next.allowances ↔ pair = (⟨owner⟩, sender) ∨ pair ∈ storage.allowances := by
  obtain ⟨ownerAddr, ownerValid, success⟩ := bind_eq_ok.mp success
  obtain ⟨rcptAddr, rcptValid, success⟩ := bind_eq_ok.mp success
  rw [into_eq_ok] at ownerValid rcptValid
  obtain rfl := api.given _ _ ownerValid
  obtain rfl := api.given _ _ rcptValid
  obtain ⟨_, success⟩ := guard_eq_ok.mp success
  obtain ⟨remaining, _, success⟩ := bind_eq_ok.mp success
  obtain ⟨debited, taken, success⟩ := bind_eq_ok.mp success
  obtain ⟨credited, given, success⟩ := bind_eq_ok.mp success
  rw [into_eq_ok, update_eq_ok] at taken given
  obtain ⟨_, _, rfl⟩ := taken
  obtain ⟨_, _, rfl⟩ := given
  cases success
  constructor
  · intro account
    rw [Map.mem_save, Map.mem_save]
  · intro pair
    rw [Map.mem_save]

section Conditions

variable (conserved : (view storage).Conserved)
include conserved

theorem executeBurn_succeeds {info : MessageInfo}
    (covered : amount.toNat ≤ (view storage).balance info.sender) :
    ∃ next response, executeBurn storage info amount = .ok (next, response) := by
  obtain ⟨debited, taken⟩ := debit_succeeds covered
  have within : amount.toNat ≤ storage.tokenInfo.totalSupply.toNat :=
    covered.trans ((Finsupp.le_degree _ _).trans conserved.le)
  obtain ⟨supply, remains⟩ := Word.checkedSub_of_le within
  unfold executeBurn
  simp only [taken, remains, into, okOr, bind, Except.bind, pure, Except.pure]
  exact ⟨_, _, rfl⟩

theorem transfer_commits_iff : (machine api).Commits storage ⟨sender, .transfer recipient amount⟩ ↔
    api.addrValidate recipient = .ok ⟨recipient⟩ ∧ amount.toNat ≤ balanceOf storage sender := by
  constructor
  · rintro ⟨next, response, success⟩
    obtain ⟨valid, covered, _⟩ := executeTranfer_ok success
    exact ⟨valid, covered⟩
  · rintro ⟨valid, covered⟩
    exact executeTranfer_succeeds conserved valid covered

theorem burn_commits_iff : (machine api).Commits storage ⟨sender, .burn amount⟩ ↔
    amount.toNat ≤ balanceOf storage sender := by
  constructor
  · rintro ⟨next, response, success⟩
    exact (executeBurn_ok success).1
  · exact fun covered => executeBurn_succeeds conserved covered

theorem mint_commits_iff : (machine api).Commits storage ⟨sender, .mint recipient amount⟩ ↔
    storage.tokenInfo.minter = some sender ∧ api.addrValidate recipient = .ok ⟨recipient⟩ ∧
      storage.tokenInfo.totalSupply.toNat + amount.toNat < 2 ^ 128 := by
  constructor
  · rintro ⟨next, response, success⟩
    obtain ⟨valid, authority, effect, _⟩ := executeMint_ok success
    have grown : next.tokenInfo.totalSupply.toNat =
        storage.tokenInfo.totalSupply.toNat + amount.toNat := congrArg Ledger.supply effect
    exact ⟨authority, valid, grown ▸ next.tokenInfo.totalSupply.fits⟩
  · rintro ⟨authority, valid, room⟩
    exact executeMint_succeeds conserved valid authority room

theorem transferFrom_commits_iff :
    (machine api).Commits storage ⟨sender, .transferFrom owner recipient amount⟩ ↔
      api.addrValidate owner = .ok ⟨owner⟩ ∧ api.addrValidate recipient = .ok ⟨recipient⟩ ∧
        amount.toNat ≤ allowanceOf storage ⟨owner⟩ sender ∧
        amount.toNat ≤ balanceOf storage ⟨owner⟩ := by
  constructor
  · rintro ⟨next, response, success⟩
    obtain ⟨ownerValid, rcptValid, allowed, covered, _⟩ := executeTranferFrom_ok success
    exact ⟨ownerValid, rcptValid, allowed, covered⟩
  · rintro ⟨ownerValid, rcptValid, allowed, covered⟩
    exact executeTranferFrom_succeeds conserved ownerValid rcptValid allowed covered

end Conditions

section Effects

/-- The balances of a ledger after a move, read off account by account. -/
theorem moved_of_move {source recipient : Addr} {amount : Nat}
    (balances : (view next).balance = move (view storage).balance source recipient amount) :
    Moved storage next (some source) (some recipient) amount := by
  intro account
  have moved := DFunLike.congr_fun balances account
  rw [move_apply] at moved
  simp only [Option.some.injEq]
  exact moved

theorem spent_nothing (allowances : (view next).allowance = (view storage).allowance) (amount : Nat) :
    Spent storage next none amount :=
  fun owner spender => congrFun (congrFun allowances owner) spender

theorem transfer_effect
    (success : (machine api).exec storage ⟨sender, .transfer recipient amount⟩ = .ok (next, response)) :
    Moved storage next (some sender) (some ⟨recipient⟩) amount.toNat ∧
      Spent storage next none amount.toNat ∧ next.tokenInfo = storage.tokenInfo := by
  have effect := (execute_refines success).2
  have allowances := congrArg Ledger.allowance effect
  refine ⟨moved_of_move (congrArg Ledger.balance effect), spent_nothing allowances _, ?_⟩
  have supply : next.tokenInfo.totalSupply = storage.tokenInfo.totalSupply :=
    Word.ext (congrArg Ledger.supply effect)
  have minter : next.tokenInfo.minter = storage.tokenInfo.minter := congrArg Ledger.minter effect
  rw [(execute_quiet success).details, supply, minter]

theorem transferFrom_effect
    (success : (machine api).exec storage ⟨sender, .transferFrom owner recipient amount⟩ =
      .ok (next, response)) :
    Moved storage next (some ⟨owner⟩) (some ⟨recipient⟩) amount.toNat ∧
      Spent storage next (some (⟨owner⟩, sender)) amount.toNat ∧
      next.tokenInfo = storage.tokenInfo := by
  have effect := (execute_refines success).2
  refine ⟨moved_of_move (congrArg Ledger.balance effect), ?_, ?_⟩
  · intro first second
    have allowances := congrFun (congrFun (congrArg Ledger.allowance effect) first) second
    change _ = (view storage).setAllowance ⟨owner⟩ sender _ first second at allowances
    unfold Ledger.setAllowance at allowances
    by_cases same : first = ⟨owner⟩ ∧ second = sender
    · obtain ⟨rfl, rfl⟩ := same
      rw [if_pos ⟨rfl, rfl⟩] at allowances
      rw [if_pos rfl]
      exact allowances
    · rw [if_neg same] at allowances
      rw [if_neg (fun equal => same (Prod.mk.inj (Option.some.inj equal))), Nat.sub_zero]
      exact allowances
  · have supply : next.tokenInfo.totalSupply = storage.tokenInfo.totalSupply :=
      Word.ext (congrArg Ledger.supply effect)
    have minter : next.tokenInfo.minter = storage.tokenInfo.minter := congrArg Ledger.minter effect
    rw [(execute_quiet success).details, supply, minter]

theorem burn_effect
    (success : (machine api).exec storage ⟨sender, .burn amount⟩ = .ok (next, response)) :
    Moved storage next (some sender) none amount.toNat ∧ Spent storage next none amount.toNat ∧
      next.tokenInfo = { storage.tokenInfo with totalSupply := next.tokenInfo.totalSupply } ∧
      next.tokenInfo.totalSupply.toNat = storage.tokenInfo.totalSupply.toNat - amount.toNat := by
  have effect := (execute_refines success).2
  have allowances := congrArg Ledger.allowance effect
  refine ⟨?_, spent_nothing allowances _, ?_, congrArg Ledger.supply effect⟩
  · intro account
    have taken := DFunLike.congr_fun (congrArg Ledger.balance effect) account
    change _ = ((view storage).balance - Finsupp.single sender amount.toNat) account at taken
    rw [debit_apply] at taken
    simp only [Option.some.injEq]
    exact taken
  · have minter : next.tokenInfo.minter = storage.tokenInfo.minter := congrArg Ledger.minter effect
    rw [(execute_quiet success).details, minter]

theorem mint_effect
    (success : (machine api).exec storage ⟨sender, .mint recipient amount⟩ = .ok (next, response)) :
    Moved storage next none (some ⟨recipient⟩) amount.toNat ∧ Spent storage next none amount.toNat ∧
      next.tokenInfo = { storage.tokenInfo with totalSupply := next.tokenInfo.totalSupply } ∧
      next.tokenInfo.totalSupply.toNat = storage.tokenInfo.totalSupply.toNat + amount.toNat := by
  have effect := (execute_refines success).2
  have allowances := congrArg Ledger.allowance effect
  refine ⟨?_, spent_nothing allowances _, ?_, congrArg Ledger.supply effect⟩
  · intro account
    have given := DFunLike.congr_fun (congrArg Ledger.balance effect) account
    change _ = ((view storage).balance + Finsupp.single (⟨recipient⟩ : Addr) amount.toNat) account at given
    rw [credit_apply] at given
    simp only [Option.some.injEq]
    exact given
  · have minter : next.tokenInfo.minter = storage.tokenInfo.minter := congrArg Ledger.minter effect
    rw [(execute_quiet success).details, minter]

end Effects

/-- In every state a run reaches, for any sender and arguments: each message succeeds under
its stated conditions and no others, and changes what it names and nothing else. -/
theorem operations_exact (api : Api) (msg : InstantiateMsg) (start : Storage) (made : Response)
    (instantiated : instantiate api msg = .ok (start, made)) (txs : List Tx) (storage : Storage)
    (reached : storage = (machine api).run start txs) (sender : Addr) (owner recipient : String)
    (amount : Uint128) :
    (((machine api).Commits storage ⟨sender, .transfer recipient amount⟩ ↔
        api.addrValidate recipient = .ok ⟨recipient⟩ ∧ amount.toNat ≤ balanceOf storage sender) ∧
      ∀ next out, (machine api).exec storage ⟨sender, .transfer recipient amount⟩ = .ok (next, out) →
        Moved storage next (some sender) (some ⟨recipient⟩) amount.toNat ∧
        Spent storage next none amount.toNat ∧ next.tokenInfo = storage.tokenInfo) ∧
    (((machine api).Commits storage ⟨sender, .transferFrom owner recipient amount⟩ ↔
        api.addrValidate owner = .ok ⟨owner⟩ ∧ api.addrValidate recipient = .ok ⟨recipient⟩ ∧
          amount.toNat ≤ allowanceOf storage ⟨owner⟩ sender ∧
          amount.toNat ≤ balanceOf storage ⟨owner⟩) ∧
      ∀ next out,
        (machine api).exec storage ⟨sender, .transferFrom owner recipient amount⟩ = .ok (next, out) →
        Moved storage next (some ⟨owner⟩) (some ⟨recipient⟩) amount.toNat ∧
        Spent storage next (some (⟨owner⟩, sender)) amount.toNat ∧
        next.tokenInfo = storage.tokenInfo) ∧
    (((machine api).Commits storage ⟨sender, .burn amount⟩ ↔
        amount.toNat ≤ balanceOf storage sender) ∧
      ∀ next out, (machine api).exec storage ⟨sender, .burn amount⟩ = .ok (next, out) →
        Moved storage next (some sender) none amount.toNat ∧ Spent storage next none amount.toNat ∧
        next.tokenInfo = { storage.tokenInfo with totalSupply := next.tokenInfo.totalSupply } ∧
        next.tokenInfo.totalSupply.toNat = storage.tokenInfo.totalSupply.toNat - amount.toNat) ∧
    (((machine api).Commits storage ⟨sender, .mint recipient amount⟩ ↔
        storage.tokenInfo.minter = some sender ∧ api.addrValidate recipient = .ok ⟨recipient⟩ ∧
          storage.tokenInfo.totalSupply.toNat + amount.toNat < 2 ^ 128) ∧
      ∀ next out, (machine api).exec storage ⟨sender, .mint recipient amount⟩ = .ok (next, out) →
        Moved storage next none (some ⟨recipient⟩) amount.toNat ∧
        Spent storage next none amount.toNat ∧
        next.tokenInfo = { storage.tokenInfo with totalSupply := next.tokenInfo.totalSupply } ∧
        next.tokenInfo.totalSupply.toNat = storage.tokenInfo.totalSupply.toNat + amount.toNat) := by
  have conserved : (view storage).Conserved := by
    rw [reached]
    exact run_conserved (instantiate_conserved instantiated) txs
  exact ⟨⟨transfer_commits_iff conserved, fun _ _ => transfer_effect⟩,
    ⟨transferFrom_commits_iff conserved, fun _ _ => transferFrom_effect⟩,
    ⟨burn_commits_iff conserved, fun _ _ => burn_effect⟩,
    ⟨mint_commits_iff conserved, fun _ _ => mint_effect⟩⟩

theorem operations_exact_selfTransfers :
    (machine Api.accepting).Commits ((machine Api.accepting).run testToken selfTransfers)
        ⟨⟨"user1"⟩, .transfer "user1" (word 100)⟩ ↔
      Api.accepting.addrValidate "user1" = .ok ⟨"user1"⟩ ∧
        (word 100 : Uint128).toNat ≤
          balanceOf ((machine Api.accepting).run testToken selfTransfers) ⟨"user1"⟩ :=
  (operations_exact Api.accepting testMsg testToken (Response.new.addAttribute "action" "instatiate") rfl
    selfTransfers ((machine Api.accepting).run testToken selfTransfers) rfl ⟨"user1"⟩ "user1" "user1"
    (word 100)).1.1

end CosmwasmContracts.Cw20Token
