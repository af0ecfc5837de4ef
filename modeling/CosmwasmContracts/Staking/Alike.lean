import CosmwasmContracts.Staking.Payouts

/-! Storages that the staking contract cannot tell apart. Only whole seconds of a clock
count, and only the differences between clocks, so that two storages are alike at a shift
when the entries of every known address hold the same and run that many seconds apart.
Messages a shift apart come to the same from them and leave them alike. -/

namespace CosmwasmContracts.Staking
open Library.CheckedWord Library.FiniteMap Library.TransactionMachine Library.Lockstep CosmwasmStd CwOwnable

/-- A time that reads a number of whole seconds later than another. -/
def Shifted (shift : Nat) (time later : Timestamp) : Prop :=
  time.seconds.toNat + shift = later.seconds.toNat

instance decidableShifted (shift : Nat) (time later : Timestamp) : Decidable (Shifted shift time later) :=
  inferInstanceAs (Decidable (_ = _))

structure StakeInfo.Alike (shift : Nat) (entry other : StakeInfo) : Prop where
  amount : entry.amount = other.amount
  clock : Shifted shift entry.stakeTime other.stakeTime

/-- The entries of two maps, read at every known address. -/
def EntriesAlike (Known : Addr → Prop) (shift : Nat) (stakes others : Map Addr StakeInfo) : Prop :=
  ∀ user, Known user → Option.Rel (StakeInfo.Alike shift) (stakes.mayLoad user) (others.mayLoad user)

structure Storage.Alike (Known : Addr → Prop) (shift : Nat) (storage other : Storage) : Prop where
  config : storage.config = other.config
  ownership : storage.ownership = other.ownership
  totalStaked : storage.totalStaked = other.totalStaked
  entries : EntriesAlike Known shift storage.stakes other.stakes

variable {Known : Addr → Prop} {shift : Nat}

section Entries

variable {stakes others : Map Addr StakeInfo} (alike : EntriesAlike Known shift stakes others) (user : Addr)
include alike

theorem EntriesAlike.save {entry other : StakeInfo} (same : entry.Alike shift other) :
    EntriesAlike Known shift (stakes.save user entry) (others.save user other) := by
  intro reader known
  rw [Map.mayLoad_save, Map.mayLoad_save]
  by_cases own : reader = user
  · rw [if_pos own, if_pos own]
    exact .some same
  · rw [if_neg own, if_neg own]
    exact alike reader known

theorem EntriesAlike.remove : EntriesAlike Known shift (stakes.remove user) (others.remove user) := by
  intro reader known
  rw [Map.mayLoad_remove, Map.mayLoad_remove]
  by_cases own : reader = user
  · rw [if_pos own, if_pos own]
    exact .none
  · rw [if_neg own, if_neg own]
    exact alike reader known

end Entries

theorem elapsedSeconds_shifted (E : Type) {now now' since since' : Timestamp} (later : Shifted shift now now')
    (started : Shifted shift since since') :
    (elapsedSeconds now since : Result E (Word 64)) = elapsedSeconds now' since' := by
  have difference : now.seconds.checkedSub since.seconds = now'.seconds.checkedSub since'.seconds := by
    apply Option.ext
    intro elapsed
    rw [Word.checkedSub_eq_some, Word.checkedSub_eq_some, ← later, ← started]
    omega
  rw [elapsedSeconds, elapsedSeconds, difference]

section Execution

variable {api : Api} {ownable : Package} {storage other : Storage}
variable {env env' : Env} {info : MessageInfo} {amount : Uint128}
variable (alike : storage.Alike Known shift other) (known : Known info.sender)
variable (later : Shifted shift env.block.time env'.block.time)

include alike known in
theorem loadStake_agree :
    Agree (StakeInfo.Alike shift) (loadStake storage info.sender) (loadStake other info.sender) := by
  unfold loadStake
  have stored := alike.entries info.sender known
  generalize storage.stakes.mayLoad info.sender = found at stored ⊢
  generalize other.stakes.mayLoad info.sender = found' at stored ⊢
  cases stored with
  | none => exact .error _
  | some same => exact .ok same

include later in
theorem topUp_agree {found found' : Option StakeInfo} (stored : Option.Rel (StakeInfo.Alike shift) found found') :
    Agree (StakeInfo.Alike shift) (topUp env.block.time amount found) (topUp env'.block.time amount found') := by
  cases stored with
  | none => exact .ok ⟨rfl, later⟩
  | @some entry entry' same =>
    obtain ⟨held, since⟩ := entry
    obtain ⟨held', since'⟩ := entry'
    obtain ⟨rfl, clock⟩ := same
    exact Agree.bind_self (unwrap (held.checkedAdd amount)) fun sum _ => .ok ⟨rfl, clock⟩

section Timed

include alike known later

theorem executeStake_agree (addressed : env.contractAddress = env'.contractAddress) :
    Agree (Returned (Storage.Alike Known shift))
      (executeStake storage env info amount) (executeStake other env' info amount) := by
  unfold executeStake
  rw [alike.config, alike.totalStaked, addressed]
  refine (into_agree _ (update_agree (topUp_agree later (alike.entries info.sender known)))).bind ?_
  rintro _ _ ⟨entry, entry', same, rfl, rfl⟩
  refine Agree.bind_self _ fun total _ => ?_
  exact .ok ⟨⟨rfl, alike.ownership, rfl, alike.entries.save info.sender same⟩, rfl⟩

theorem executeUnstake_agree :
    Agree (Returned (Storage.Alike Known shift))
      (executeUnstake storage env info amount) (executeUnstake other env' info amount) := by
  unfold executeUnstake mintMsg
  rw [alike.config, alike.totalStaked]
  refine (loadStake_agree alike known).bind ?_
  rintro ⟨held, since⟩ ⟨_, since'⟩ ⟨rfl, clock⟩
  rw [elapsedSeconds_shifted ContractError later clock]
  refine Agree.guard _ fun _ => Agree.bind_self _ fun stakedTime _ => ?_
  refine Agree.guard _ fun _ => Agree.bind_self _ fun rewardAmount _ => ?_
  refine Agree.bind_self _ fun stakingRemain _ => Agree.bind_self _ fun total _ => ?_
  cases stakingRemain.isZero with
  | true => exact .ok ⟨⟨rfl, alike.ownership, rfl, alike.entries.remove info.sender⟩, rfl⟩
  | false => exact .ok ⟨⟨rfl, alike.ownership, rfl, alike.entries.save info.sender ⟨rfl, later⟩⟩, rfl⟩

theorem executeClaimRewards_agree :
    Agree (Returned (Storage.Alike Known shift))
      (executeClaimRewards storage env info) (executeClaimRewards other env' info) := by
  unfold executeClaimRewards mintMsg
  rw [alike.config]
  refine (loadStake_agree alike known).bind ?_
  rintro ⟨held, since⟩ ⟨_, since'⟩ ⟨rfl, clock⟩
  rw [elapsedSeconds_shifted ContractError later clock]
  refine Agree.bind_self _ fun stakedTime _ => Agree.guard _ fun _ => ?_
  refine Agree.bind_self _ fun rewardAmount _ => Agree.guard _ fun _ => ?_
  exact .ok ⟨⟨rfl, alike.ownership, alike.totalStaked, alike.entries.save info.sender ⟨rfl, later⟩⟩, rfl⟩

end Timed

include alike known in
theorem execute_agree (addressed : env.contractAddress = env'.contractAddress) {msg : ExecuteMsg}
    (timed : (∀ action, msg ≠ .updateOwnership action) → Shifted shift env.block.time env'.block.time)
    (dated : ∀ action, msg = .updateOwnership action → env.block = env'.block) :
    Agree (Returned (Storage.Alike Known shift))
      (execute api ownable storage env info msg) (execute api ownable other env' info msg) := by
  cases msg with
  | stake amount => exact executeStake_agree alike known (timed nofun) addressed
  | unstake amount => exact executeUnstake_agree alike known (timed nofun)
  | claimRewards => exact executeClaimRewards_agree alike known (timed nofun)
  | changeConfig newApr newLockupPeriod =>
    change Agree _ (executeChangeConfig _ _ _ _ _) (executeChangeConfig _ _ _ _ _)
    unfold executeChangeConfig
    rw [alike.config, alike.ownership]
    refine Agree.bind_self _ fun _ _ => ?_
    exact .ok ⟨⟨rfl, rfl, alike.totalStaked, alike.entries⟩, rfl⟩
  | updateOwnership action =>
    change Agree _ (executeUpdateOwnership _ _ _ _ _ _) (executeUpdateOwnership _ _ _ _ _ _)
    unfold executeUpdateOwnership
    rw [alike.ownership, dated action rfl]
    refine Agree.bind_self _ fun ownership _ => ?_
    exact .ok ⟨⟨alike.config, rfl, alike.totalStaked, alike.entries⟩, rfl⟩

end Execution

section Queries

variable {api : Api} {storage other : Storage}

theorem queryReward_agree (alike : storage.Alike Known shift other)
    (validated : ∀ text addr, api.addrValidate text = .ok addr → Known addr) {env env' : Env}
    (later : Shifted shift env.block.time env'.block.time) (address : String) :
    queryReward api storage env address = queryReward api other env' address := by
  unfold queryReward
  rw [alike.config]
  refine Agree.eq_iff.mp (Agree.bind_self _ fun addr valid => Agree.eq_iff.mpr ?_)
  have stored := alike.entries addr (validated address addr valid)
  generalize storage.stakes.mayLoad addr = found at stored ⊢
  generalize other.stakes.mayLoad addr = found' at stored ⊢
  cases stored with
  | none => rfl
  | some same => simp only [same.amount, elapsedSeconds_shifted StdError later same.clock]

theorem queryStake_agree (alike : storage.Alike api.Accepts 0 other) (address : String) :
    queryStake api storage address = queryStake api other address := by
  unfold queryStake
  refine Agree.eq_iff.mp (Agree.bind_self _ fun addr valid => Agree.eq_iff.mpr ?_)
  have stored := alike.entries addr (Api.accepts_of_valid valid)
  generalize storage.stakes.mayLoad addr = found at stored ⊢
  generalize other.stakes.mayLoad addr = found' at stored ⊢
  cases stored with
  | none => rfl
  | some same =>
    have clock := Word.ext same.clock
    simp only [same.amount, clock]

/-- Nobody can tell two storages apart by asking. -/
def SameAnswers (api : Api) (storage other : Storage) : Prop :=
  ∀ env msg, query api storage env msg = query api other env msg

theorem Storage.Alike.sameAnswers (alike : storage.Alike api.Accepts 0 other) :
    SameAnswers api storage other := by
  intro env msg
  cases msg with
  | ownership => exact congrArg (fun item => Except.ok (QueryResponse.ownership item)) alike.ownership
  | stake address =>
    change (queryStake api storage address >>= _) = queryStake api other address >>= _
    rw [queryStake_agree alike]
  | config =>
    change Except.ok (QueryResponse.config (queryConfig storage)) = _
    rw [queryConfig, alike.config]
    rfl
  | reward address =>
    change (queryReward api storage env address >>= _) = queryReward api other env address >>= _
    rw [queryReward_agree alike (fun text addr => Api.accepts_of_valid) rfl]
  | totalStaked =>
    change Except.ok (QueryResponse.totalStaked (queryTotalStaked storage)) = _
    rw [queryTotalStaked, alike.totalStaked]
    rfl

/-- No clock of an entry reads zero, which is how the stake query shows a missing one. -/
def Dated (storage : Storage) : Prop :=
  ∀ user entry, storage.stakes.mayLoad user = some entry → entry.stakeTime.seconds.toNat ≠ 0

theorem queryStake_of_present {user : Addr} {entry : StakeInfo} (known : api.Accepts user)
    (found : storage.stakes.mayLoad user = some entry) :
    queryStake api storage user.text = .ok { amount := entry.amount, stakeTime := entry.stakeTime.seconds } := by
  refine bind_eq_ok.mpr ⟨user, known, ?_⟩
  rw [found]
  rfl

theorem queryStake_of_absent {user : Addr} (known : api.Accepts user)
    (absent : storage.stakes.mayLoad user = none) :
    queryStake api storage user.text = .ok { amount := Word.zero, stakeTime := Word.zero } := by
  refine bind_eq_ok.mpr ⟨user, known, ?_⟩
  rw [absent]
  rfl

/-- Dated entries that the stake query shows alike are alike. -/
theorem entry_of_answers {user : Addr} (known : api.Accepts user) (dated : Dated storage) (otherDated : Dated other)
    (same : queryStake api storage user.text = queryStake api other user.text) :
    Option.Rel (StakeInfo.Alike 0) (storage.stakes.mayLoad user) (other.stakes.mayLoad user) := by
  cases found : storage.stakes.mayLoad user with
  | none =>
    rw [queryStake_of_absent known found] at same
    cases found' : other.stakes.mayLoad user with
    | none => exact .none
    | some entry' =>
      rw [queryStake_of_present known found'] at same
      have clock : 0 = entry'.stakeTime.seconds.toNat :=
        congrArg (fun response => response.stakeTime.toNat) (Except.ok.inj same)
      exact absurd clock.symm (otherDated user entry' found')
  | some entry =>
    rw [queryStake_of_present known found] at same
    cases found' : other.stakes.mayLoad user with
    | none =>
      rw [queryStake_of_absent known found'] at same
      have clock : entry.stakeTime.seconds.toNat = 0 :=
        congrArg (fun response => response.stakeTime.toNat) (Except.ok.inj same)
      exact absurd clock (dated user entry found)
    | some entry' =>
      rw [queryStake_of_present known found'] at same
      have shown := Except.ok.inj same
      have amount : entry.amount = entry'.amount := congrArg StakeResponse.amount shown
      have clock : entry.stakeTime.seconds = entry'.stakeTime.seconds := congrArg StakeResponse.stakeTime shown
      exact .some ⟨amount, congrArg Word.toNat clock⟩

/-- What the queries show is all there is to a storage. -/
theorem alike_of_sameAnswers (same : SameAnswers api storage other) (dated : Dated storage)
    (otherDated : Dated other) : storage.Alike api.Accepts 0 other := by
  have asked := same ⟨⟨Word.zero, ⟨Word.zero⟩⟩, ⟨""⟩⟩
  refine ⟨?_, QueryResponse.ownership.inj (Except.ok.inj (asked .ownership)), ?_, fun user known => ?_⟩
  · have shown := QueryResponse.config.inj (Except.ok.inj (asked .config))
    have token : storage.config.tokenAddress.text = other.config.tokenAddress.text :=
      congrArg ConfigResponse.tokenAddress shown
    have apr : storage.config.apr = other.config.apr := congrArg ConfigResponse.apr shown
    have lockup : storage.config.lockupPeriod = other.config.lockupPeriod :=
      congrArg ConfigResponse.lockupPeriod shown
    revert token apr lockup
    obtain ⟨⟨token⟩, apr, lockup⟩ := storage.config
    obtain ⟨⟨token'⟩, apr', lockup'⟩ := other.config
    rintro rfl rfl rfl
    rfl
  · exact congrArg TotalStakedResponse.total (QueryResponse.totalStaked.inj (Except.ok.inj (asked .totalStaked)))
  · refine entry_of_answers known dated otherDated ?_
    have shown := asked (.stake user.text)
    exact bind_ok_injective (fun _ _ => QueryResponse.stake.inj) shown

end Queries

/-- Blocks after the first second leave no clock at zero. -/
theorem effect_dated {before next : Storage} {now : Timestamp} {contract sender : Addr} {msg : ExecuteMsg}
    {messages : List CosmosMsg} (effect : Effect before now contract sender msg next messages)
    (dated : Dated before) (begun : now.seconds.toNat ≠ 0) : Dated next := by
  intro user kept present
  by_cases paid : sender = user ∧ msg.Pays
  · obtain ⟨rfl, pays⟩ := paid
    obtain ⟨_, _, _, _, restarted⟩ := effect_payment effect pays
    rw [restarted kept present]
    exact begun
  · rcases (effect_quiet effect paid).2.2 kept present with ⟨entry, old, same⟩ | ⟨_, same⟩
    · rw [same]
      exact dated user entry old
    · rw [same]
      exact begun

end CosmwasmContracts.Staking
