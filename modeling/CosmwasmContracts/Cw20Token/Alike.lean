import CosmwasmContracts.Cw20Token.Refinement

/-! Storages that the token cannot tell apart: the same token info, and the same balances
and allowances of known addresses, where nothing written reads as zero. Every message of a
known sender comes to the same from them and leaves them alike. -/

namespace CosmwasmContracts.Cw20Token
open Library.CheckedWord Library.FiniteMap Library.TransactionMachine Library.Lockstep CosmwasmStd

/-- Two maps with the same amounts at every key of a kind, absent ones zero. -/
def AmountsAlike {Key : Type} [DecidableEq Key] (Kind : Key → Prop) (map other : Map Key Uint128) : Prop :=
  ∀ key, Kind key → unwrapOrDefault (map.mayLoad key) = unwrapOrDefault (other.mayLoad key)

theorem AmountsAlike.save {Key : Type} [DecidableEq Key] {Kind : Key → Prop} {map other : Map Key Uint128}
    (alike : AmountsAlike Kind map other) (key : Key) (amount : Uint128) :
    AmountsAlike Kind (map.save key amount) (other.save key amount) := by
  intro reader kind
  rw [Map.mayLoad_save, Map.mayLoad_save]
  by_cases own : reader = key
  · rw [if_pos own, if_pos own]
  · rw [if_neg own, if_neg own]
    exact alike reader kind

structure Storage.Alike (Known : Addr → Prop) (storage other : Storage) : Prop where
  tokenInfo : storage.tokenInfo = other.tokenInfo
  balances : AmountsAlike Known storage.balances other.balances
  allowances : AmountsAlike (fun pair : Addr × Addr => Known pair.1 ∧ Known pair.2)
    storage.allowances other.allowances

section Execution

variable {Known : Addr → Prop} {api : Api} {storage other : Storage} {sender : Addr} {info : MessageInfo}
variable {balances balances' : Map Addr Uint128} {amount : Uint128}

theorem debit_agree (alike : AmountsAlike Known balances balances') (known : Known sender) :
    Agree (AmountsAlike Known) (update balances sender (debit amount)) (update balances' sender (debit amount)) := by
  have same : debit amount (balances.mayLoad sender) = debit amount (balances'.mayLoad sender) := by
    rw [debit, debit, alike sender known]
  refine (update_agree (Agree.eq_iff.mpr same)).mono ?_
  rintro _ _ ⟨value, _, rfl, rfl, rfl⟩
  exact alike.save sender value

theorem credit_agree (alike : AmountsAlike Known balances balances') (known : Known sender) :
    Agree (AmountsAlike Known) (update balances sender (credit amount)) (update balances' sender (credit amount)) := by
  have same : credit amount (balances.mayLoad sender) = credit amount (balances'.mayLoad sender) := by
    rw [credit, credit, alike sender known]
  refine (update_agree (Agree.eq_iff.mpr same)).mono ?_
  rintro _ _ ⟨value, _, rfl, rfl, rfl⟩
  exact alike.save sender value

variable (alike : storage.Alike Known other) (known : Known info.sender)
variable (validated : ∀ text addr, api.addrValidate text = .ok addr → Known addr)
include alike known validated

theorem execute_agree {msg : ExecuteMsg} :
    Agree (Returned (Storage.Alike Known)) (execute api storage info msg) (execute api other info msg) := by
  cases msg with
  | transfer recipient amount =>
    change Agree _ (executeTranfer _ _ _ _ _) (executeTranfer _ _ _ _ _)
    unfold executeTranfer
    refine Agree.bind_self _ fun rcpt valid => ?_
    have knownRcpt := validated recipient rcpt (into_eq_ok.mp valid)
    refine (into_agree _ (debit_agree alike.balances known)).bind fun _ _ taken => ?_
    refine (into_agree _ (credit_agree taken knownRcpt)).bind fun _ _ given => ?_
    exact .ok ⟨⟨alike.tokenInfo, given, alike.allowances⟩, rfl⟩
  | burn amount =>
    change Agree _ (executeBurn _ _ _) (executeBurn _ _ _)
    unfold executeBurn
    rw [alike.tokenInfo]
    refine (into_agree _ (debit_agree alike.balances known)).bind fun _ _ taken => ?_
    refine Agree.bind_self _ fun supply _ => ?_
    exact .ok ⟨⟨rfl, taken, alike.allowances⟩, rfl⟩
  | mint recipient amount =>
    change Agree _ (executeMint _ _ _ _ _) (executeMint _ _ _ _ _)
    unfold executeMint
    rw [alike.tokenInfo]
    refine Agree.guard _ fun _ => Agree.bind_self _ fun rcpt valid => ?_
    have knownRcpt := validated recipient rcpt (into_eq_ok.mp valid)
    refine (into_agree _ (credit_agree alike.balances knownRcpt)).bind fun _ _ given => ?_
    refine Agree.bind_self _ fun supply _ => ?_
    exact .ok ⟨⟨rfl, given, alike.allowances⟩, rfl⟩
  | approve spender amount =>
    change Agree _ (executeApprove _ _ _ _ _) (executeApprove _ _ _ _ _)
    unfold executeApprove
    refine Agree.bind_self _ fun addr _ => ?_
    exact .ok ⟨⟨alike.tokenInfo, alike.balances, alike.allowances.save _ _⟩, rfl⟩
  | transferFrom owner recipient amount =>
    change Agree _ (executeTranferFrom _ _ _ _ _ _) (executeTranferFrom _ _ _ _ _ _)
    unfold executeTranferFrom
    refine Agree.bind_self _ fun ownerAddr valid => Agree.bind_self _ fun rcptAddr validRcpt => ?_
    have knownOwner := validated owner ownerAddr (into_eq_ok.mp valid)
    have knownRcpt := validated recipient rcptAddr (into_eq_ok.mp validRcpt)
    rw [alike.allowances (ownerAddr, info.sender) ⟨knownOwner, known⟩]
    refine Agree.guard _ fun _ => Agree.bind_self _ fun remaining _ => ?_
    refine (into_agree _ (debit_agree alike.balances knownOwner)).bind fun _ _ taken => ?_
    refine (into_agree _ (credit_agree taken knownRcpt)).bind fun _ _ given => ?_
    exact .ok ⟨⟨alike.tokenInfo, given, alike.allowances.save _ _⟩, rfl⟩
  | updateMinter newMinter =>
    change Agree _ (executeUpdateMinter _ _ _ _) (executeUpdateMinter _ _ _ _)
    unfold executeUpdateMinter
    rw [alike.tokenInfo]
    refine Agree.guard _ fun _ => Agree.bind_self _ fun minter _ => ?_
    exact .ok ⟨⟨rfl, alike.balances, alike.allowances⟩, rfl⟩

end Execution

section Queries

variable {api : Api} {storage other : Storage}

/-- Nobody can tell two storages apart by asking. -/
def SameAnswers (api : Api) (storage other : Storage) : Prop :=
  ∀ msg, query api storage msg = query api other msg

theorem Storage.Alike.sameAnswers (alike : storage.Alike api.Accepts other) : SameAnswers api storage other := by
  intro msg
  cases msg with
  | balance address =>
    refine Agree.eq_iff.mp (Agree.bind_self _ fun addr valid => Agree.eq_iff.mpr ?_)
    rw [alike.balances addr (Api.accepts_of_valid valid)]
  | allowance owner spender =>
    refine Agree.eq_iff.mp (Agree.bind_self _ fun ownerAddr valid => ?_)
    refine Agree.bind_self _ fun spenderAddr validSpender => Agree.eq_iff.mpr ?_
    rw [alike.allowances (ownerAddr, spenderAddr)
      ⟨Api.accepts_of_valid valid, Api.accepts_of_valid validSpender⟩]
  | tokenInfo | minter =>
    unfold query
    rw [alike.tokenInfo]

/-- What the queries show is all there is to a storage. -/
theorem alike_of_sameAnswers (same : SameAnswers api storage other) : storage.Alike api.Accepts other := by
  refine ⟨?_, fun user known => ?_, ?_⟩
  · have shown := QueryResponse.tokenInfo.inj (Except.ok.inj (same .tokenInfo))
    have minters := QueryResponse.minter.inj (Except.ok.inj (same .minter))
    have named : storage.tokenInfo.minter = other.tokenInfo.minter :=
      Option.map_injective (fun first second texts => by cases first; cases texts; rfl)
        (congrArg MinterResponse.minter minters)
    revert shown named
    obtain ⟨name, symbol, decimals, supply, minter⟩ := storage.tokenInfo
    obtain ⟨name', symbol', decimals', supply', minter'⟩ := other.tokenInfo
    intro shown named
    cases shown
    cases named
    rfl
  · have shown := same (.balance user.text)
    have valid : api.addrValidate user.text = .ok user := known
    simp only [query, valid] at shown
    exact congrArg BalanceResponse.balance (QueryResponse.balance.inj (Except.ok.inj shown))
  · rintro ⟨owner, spender⟩ ⟨known, knownSpender⟩
    have shown := same (.allowance owner.text spender.text)
    have valid : api.addrValidate owner.text = .ok owner := known
    have validSpender : api.addrValidate spender.text = .ok spender := knownSpender
    simp only [query, valid, validSpender] at shown
    exact congrArg AllowanceResponse.allowance (QueryResponse.allowance.inj (Except.ok.inj shown))

end Queries

end CosmwasmContracts.Cw20Token
