import CosmwasmContracts.CwOwnable.Succession
import CosmwasmContracts.Staking.Isolation
import CosmwasmContracts.Staking.Reconfiguration

/-! Who sets the terms of the pool. The rate and the lockup move by the word of the owner of
the moment alone, and an owner comes to be one by the offer of the owner before. -/

namespace CosmwasmContracts.Staking
open Library.CheckedWord Library.FiniteMap Library.TransactionMachine Library.Succession CosmwasmStd CwOwnable

/-- What a message asks of the ownership package. -/
def ownershipRequest (tx : Tx) : Option (Addr × Action) :=
  match tx.msg with
  | .updateOwnership action => some (tx.sender, action)
  | _ => none

/-- The configuration that a ChangeConfig sets, with its sender. -/
def termsSet (before : Storage) (tx : Tx) (_ : Response) : List (Addr × Config) :=
  match tx.msg with
  | .changeConfig newApr newLockupPeriod =>
      [(tx.sender,
        { tokenAddress := before.config.tokenAddress,
          apr := newApr,
          lockupPeriod := newLockupPeriod })]
  | _ => []

theorem effect_ownership {before next : Storage} {now : Timestamp} {contract sender : Addr} {msg : ExecuteMsg}
    {messages : List CosmosMsg} (effect : Effect before now contract sender msg next messages)
    (ordinary : ∀ action, msg ≠ .updateOwnership action) : next.ownership = before.ownership := by
  cases effect with
  | reowned action ownership => exact absurd rfl (ordinary action)
  | opened | toppedUp | reduced | closed | claimed | reconfigured => rfl

section Step

variable {api : Api} {ownable : Package} {contract : Addr} {before next : Storage} {tx : Tx} {response : Response}

theorem changeConfig_owns (lawful : ownable.Lawful)
    (commits : (machine api ownable contract).exec before tx = .ok (next, response))
    (changes : tx.msg.ChangesConfig) : before.ownership.owner = some tx.sender := by
  have success := exec_execute commits
  cases kind : tx.msg with
  | changeConfig newApr newLockupPeriod =>
    rw [kind] at success
    obtain ⟨_, asserted, _⟩ := bind_eq_ok.mp success
    exact lawful.owns (into_eq_ok.mp asserted)
  | stake | unstake | claimRewards | updateOwnership =>
    rw [kind] at changes
    exact changes.elim

/-- The ownership item of the pool moves by its owners' requests alone. -/
theorem governed (api : Api) (contract : Addr) (lawful : ownable.Lawful) :
    Governed (machine api ownable contract) Storage.ownership ownershipRequest where
  requested := by
    intro before tx next response sender action commits asked
    have success := exec_execute commits
    cases kind : tx.msg with
    | updateOwnership requested =>
      simp only [ownershipRequest, kind] at asked
      cases asked
      rw [kind] at success
      obtain ⟨ownership, updated, success⟩ := bind_eq_ok.mp success
      cases success
      exact lawful.step (into_eq_ok.mp updated)
    | stake | unstake | claimRewards | changeConfig =>
      simp only [ownershipRequest, kind] at asked
      cases asked
  untouched := by
    intro before tx next response commits asked
    apply effect_ownership (commit_effect commits)
    intro action kind
    simp only [ownershipRequest, kind] at asked
    cases asked

/-- A committed message leaves the configuration that its terms, if any, set. -/
theorem commit_terms (commits : (machine api ownable contract).exec before tx = .ok (next, response)) :
    next.config = latest before.config (termsSet before tx response) := by
  have effect := commit_effect commits
  cases kind : tx.msg with
  | changeConfig newApr newLockupPeriod =>
    rw [kind] at effect
    rw [changeConfig_effect effect]
    simp only [termsSet, kind]
    rfl
  | stake | unstake | claimRewards | updateOwnership =>
    simp only [termsSet, kind]
    rw [kind] at effect
    exact effect_config effect id

/-- A committed message of neither the owner nor the one it was offered to sets nothing. -/
theorem exec_ungoverned (lawful : ownable.Lawful)
    (silent : before.ownership.owner ≠ some tx.sender ∧ before.ownership.pendingOwner ≠ some tx.sender)
    (commits : (machine api ownable contract).exec before tx = .ok (next, response)) :
    next.config = before.config ∧ next.ownership = before.ownership := by
  constructor
  · exact effect_config (commit_effect commits) fun changes =>
      absurd (changeConfig_owns lawful commits changes) silent.1
  · apply (governed api contract lawful).exec_silent ?_ commits
    intro sender action asked
    cases kind : tx.msg with
    | updateOwnership requested =>
      simp only [ownershipRequest, kind] at asked
      cases asked
      exact silent
    | stake | unstake | claimRewards | changeConfig =>
      simp only [ownershipRequest, kind] at asked
      cases asked

end Step

/-- The configuration in force is the one set last. -/
theorem run_terms (api : Api) (ownable : Package) (contract : Addr) (start : Storage) (txs : List Tx) :
    ((machine api ownable contract).run start txs).config =
      latest start.config ((machine api ownable contract).observe termsSet start txs) :=
  Machine.fold_rule _ termsSet Storage.config (fun _ record => record.2)
    (fun _ _ _ _ commits => commit_terms commits) start txs

/-- No message moves the pool to another token. -/
theorem run_token (api : Api) (ownable : Package) (contract : Addr) (start : Storage) (txs : List Tx) :
    ((machine api ownable contract).run start txs).config.tokenAddress = start.config.tokenAddress := by
  refine Machine.run_invariant _
    (motive := fun state : Storage => state.config.tokenAddress = start.config.tokenAddress)
    (fun _ => True) ?_ rfl fun _ _ => trivial
  exact fun before tx next out same _ commits => (effect_token (commit_effect commits)).trans same

/-- A pool begins with the owner and the terms of its instantiation. -/
theorem instantiate_terms {api : Api} {ownable : Package} (lawful : ownable.Lawful) {msg : InstantiateMsg}
    {first : Storage} {response : Response} (made : instantiate api ownable msg = .ok (first, response)) :
    first.ownership.authority = { holder := some ⟨msg.owner⟩, offered := none } ∧
      first.config =
        { tokenAddress := ⟨msg.tokenAddress⟩,
          apr := msg.rewardRate,
          lockupPeriod := msg.lockupPeriod } := by
  obtain ⟨ownership, owned, made⟩ := bind_eq_ok.mp made
  obtain ⟨token, known, made⟩ := bind_eq_ok.mp made
  cases made
  obtain ⟨owner, valid, rfl⟩ := lawful.initialized (into_eq_ok.mp owned)
  obtain rfl := api.given _ _ valid
  obtain rfl := api.given _ _ (into_eq_ok.mp known)
  exact ⟨rfl, rfl⟩

/-- After any messages from anyone, the configuration in force is the last one set, or that of
the instantiation, and always of the same token. Whoever set one owned the pool then: the instantiation names the first owner,
every later one accepted the standing offer of the owner before, and this chain ends with the
sender. -/
theorem terms_by_consent (api : Api) (ownable : Package) (contract : Addr) (lawful : ownable.Lawful)
    (msg : InstantiateMsg) (first : Storage) (response : Response)
    (made : instantiate api ownable msg = .ok (first, response)) (txs : List Tx) :
    Succeeded ⟨msg.owner⟩ ((machine api ownable contract).observe (offersMade ownershipRequest) first txs)
        ((machine api ownable contract).observe (handoversMade Storage.ownership ownershipRequest) first txs)
        ((machine api ownable contract).run first txs).ownership.authority ∧
      (((machine api ownable contract).run first txs).config =
          latest
            { tokenAddress := ⟨msg.tokenAddress⟩,
              apr := msg.rewardRate,
              lockupPeriod := msg.lockupPeriod }
            ((machine api ownable contract).observe termsSet first txs) ∧
        ((machine api ownable contract).run first txs).config.tokenAddress = ⟨msg.tokenAddress⟩) ∧
      ∀ tx, (machine api ownable contract).Commits ((machine api ownable contract).run first txs) tx →
        tx.msg.ChangesConfig →
          tx.sender = latest ⟨msg.owner⟩ ((machine api ownable contract).observe
            (handoversMade Storage.ownership ownershipRequest) first txs) := by
  obtain ⟨owned, terms⟩ := instantiate_terms lawful made
  have succeeded := (governed api contract lawful).run_succeeded owned txs
  have inForce := run_terms api ownable contract first txs
  rw [terms] at inForce
  have token := run_token api ownable contract first txs
  rw [terms] at token
  refine ⟨succeeded, ⟨inForce, token⟩, ?_⟩
  rintro tx ⟨next, out, commits⟩ changes
  exact succeeded.titled tx.sender (changeConfig_owns lawful commits changes)

/-- A rate set by the first owner, a transfer that a stranger and then the new owner accept, and
a rate set by each of them. -/
def handedOver : List Tx :=
  [⟨blockAt 100, ⟨"owner"⟩, .changeConfig (word 2000) (word 3600), true⟩,
    ⟨blockAt 200, ⟨"owner"⟩, .updateOwnership (.transferOwnership "owner2" none), true⟩,
    ⟨blockAt 300, ⟨"user1"⟩, .updateOwnership .acceptOwnership, true⟩,
    ⟨blockAt 300, ⟨"owner2"⟩, .updateOwnership .acceptOwnership, true⟩,
    ⟨blockAt 400, ⟨"owner"⟩, .changeConfig (word 1000) (word 1), true⟩]

def newTerms : Tx := ⟨blockAt 500, ⟨"owner2"⟩, .changeConfig (word 500) (word 60), true⟩

theorem terms_by_consent_handedOver :
    newTerms.sender = latest ⟨"owner"⟩ ((machine Api.accepting Package.documented ⟨"staking"⟩).observe
      (handoversMade Storage.ownership ownershipRequest) testPool handedOver) :=
  (terms_by_consent Api.accepting Package.documented ⟨"staking"⟩ Package.documented_lawful testMsg testPool
    testResponse rfl handedOver).2.2 newTerms ⟨_, _, rfl⟩ trivial

/-- From any state that the pool can reach, while its owner and the one it was offered to send
nothing, the terms and the owner stay as they are, whatever the others send. A pool that nobody
owns keeps its terms for ever. -/
theorem terms_frozen (api : Api) (ownable : Package) (contract : Addr) (lawful : ownable.Lawful)
    (msg : InstantiateMsg) (first : Storage) (response : Response)
    (made : instantiate api ownable msg = .ok (first, response)) (txs later : List Tx) (pool : Storage)
    (reached : (machine api ownable contract).run first txs = pool)
    (silent : pool.ownership.owner = none ∨ ∀ tx ∈ later,
      pool.ownership.owner ≠ some tx.sender ∧ pool.ownership.pendingOwner ≠ some tx.sender) :
    ((machine api ownable contract).run pool later).config = pool.config ∧
      ((machine api ownable contract).run pool later).ownership = pool.ownership := by
  have succeeded := (governed api contract lawful).run_succeeded (instantiate_terms lawful made).1 txs
  rw [reached] at succeeded
  have quiet : ∀ tx ∈ later,
      pool.ownership.owner ≠ some tx.sender ∧ pool.ownership.pendingOwner ≠ some tx.sender := by
    rcases silent with unowned | silent
    · exact fun tx _ => Ownership.nobody_involved succeeded unowned tx.sender
    · exact silent
  refine Machine.run_invariant _
    (motive := fun state : Storage => state.config = pool.config ∧ state.ownership = pool.ownership)
    (fun tx => pool.ownership.owner ≠ some tx.sender ∧ pool.ownership.pendingOwner ≠ some tx.sender)
    ?_ ⟨rfl, rfl⟩ quiet
  intro state tx next out kept strange commits
  rw [← kept.2] at strange
  have still := exec_ungoverned lawful strange commits
  exact ⟨still.1.trans kept.1, still.2.trans kept.2⟩

/-- The new owner renounces; then both owners try to set a rate, and a staker goes on. -/
def renounced : List Tx := handedOver ++ [⟨blockAt 500, ⟨"owner2"⟩, .updateOwnership .renounceOwnership, true⟩]

def afterwards : List Tx :=
  [⟨blockAt 600, ⟨"owner2"⟩, .changeConfig (word 9000) (word 1), true⟩,
    ⟨blockAt 600, ⟨"owner"⟩, .changeConfig (word 9000) (word 1), true⟩,
    ⟨blockAt 700, ⟨"user1"⟩, .stake (word 5), true⟩]

theorem terms_frozen_afterwards :
    ((machine Api.accepting Package.documented ⟨"staking"⟩).run
        ((machine Api.accepting Package.documented ⟨"staking"⟩).run testPool renounced) afterwards).config =
      ((machine Api.accepting Package.documented ⟨"staking"⟩).run testPool renounced).config :=
  (terms_frozen Api.accepting Package.documented ⟨"staking"⟩ Package.documented_lawful testMsg testPool
    testResponse rfl renounced afterwards _ rfl (Or.inl rfl)).1

end CosmwasmContracts.Staking
