import CosmwasmContracts.Cw20.Equivalence
import CosmwasmContracts.Cw20Token.Outcomes
import CosmwasmContracts.CwOwnable.Succession

/-! What the `cw20` contract has from the token that keeps up with it: its books, what its
messages need and do, and who can move an account's tokens. Its right to mint is an
ownership, and passes on as one. -/

namespace CosmwasmContracts.Cw20
open Library.CheckedWord Library.FiniteMap Library.TransactionMachine Library.Succession CosmwasmStd CwOwnable

/-- A measure of the token's messages, taken of those that the contract shares with it. -/
def inherited (weigh : Cw20Token.Storage → Cw20Token.Tx → Response → Nat) (storage : Storage) (tx : Tx)
    (response : Response) : Nat :=
  match tx.msg.shared with
  | some msg => weigh (asToken storage) ⟨tx.sender, msg⟩ response
  | none => 0

/-- What a message asks of the ownership package. -/
def ownershipRequest (tx : Tx) : Option (Addr × Action) :=
  match tx.msg with
  | .updateOwnership action => some (tx.sender, action)
  | _ => none

section Messages

variable {api : Api} {ownable : Package} {storage next : Storage} {tx : Tx} {response : Response}
variable {msg : Cw20Token.ExecuteMsg} (lawful : ownable.Lawful)
include lawful

theorem exec_shared (shared : tx.msg.shared = some msg)
    (commits : (machine api ownable).exec storage tx = .ok (next, response)) :
    (Cw20Token.machine api).exec (asToken storage) ⟨tx.sender, msg⟩ = .ok (asToken next, response) :=
  (shared_agrees lawful shared).trans (asTokenResult_ok commits)

/-- A shared message commits on both sides or on neither. -/
theorem commits_shared (shared : tx.msg.shared = some msg) :
    (machine api ownable).Commits storage tx ↔
      (Cw20Token.machine api).Commits (asToken storage) ⟨tx.sender, msg⟩ := by
  constructor
  · rintro ⟨next, response, commits⟩
    exact ⟨_, _, exec_shared lawful shared commits⟩
  · rintro ⟨next, response, commits⟩
    cases result : (machine api ownable).exec storage tx with
    | ok value => exact ⟨value.1, value.2, result⟩
    | error reason =>
      obtain ⟨reason', fails⟩ := asTokenResult_error result
      have refused : (Cw20Token.machine api).exec (asToken storage) ⟨tx.sender, msg⟩ = .error reason' :=
        (shared_agrees lawful shared).trans fails
      rw [refused] at commits
      cases commits

theorem mint_owns {block : BlockInfo} {sender : Addr} {recipient : String} {amount : Uint128}
    (commits : (machine api ownable).Commits storage ⟨block, sender, .mint recipient amount⟩) :
    storage.ownership.owner = some sender := by
  obtain ⟨next, response, success⟩ := commits
  obtain ⟨_, asserted, _⟩ := bind_eq_ok.mp success
  exact lawful.owns (into_eq_ok.mp asserted)

theorem governed (api : Api) : Governed (machine api ownable) Storage.ownership ownershipRequest where
  requested := by
    intro before tx next response sender action commits asked
    obtain ⟨block, author, sent⟩ := tx
    cases sent with
    | updateOwnership requested =>
      cases asked
      obtain ⟨ownership, updated, rfl⟩ := updateOwnership_ok commits
      exact lawful.step updated
    | transfer | burn | mint | approve | transferFrom => cases asked
  untouched := by
    intro before tx next response commits asked
    obtain ⟨block, author, sent⟩ := tx
    cases sent with
    | updateOwnership requested => cases asked
    | transfer | burn | mint | approve | transferFrom => exact shared_keeps_ownership rfl commits

/-- A committed message of neither the owner nor the one it was offered to mints nothing and
leaves the ownership as it is. -/
theorem exec_ungoverned
    (silent : storage.ownership.owner ≠ some tx.sender ∧ storage.ownership.pendingOwner ≠ some tx.sender)
    (commits : (machine api ownable).exec storage tx = .ok (next, response)) :
    next.ownership = storage.ownership ∧ inherited Cw20Token.mintedIn storage tx response = 0 := by
  obtain ⟨block, author, sent⟩ := tx
  constructor
  · apply (governed lawful api).exec_silent ?_ commits
    intro sender action asked
    cases sent with
    | updateOwnership requested =>
      cases asked
      exact silent
    | transfer | burn | mint | approve | transferFrom => cases asked
  · cases sent with
    | mint recipient amount => exact absurd (mint_owns lawful ⟨next, response, commits⟩) silent.1
    | transfer | burn | approve | transferFrom | updateOwnership => rfl

theorem run_ungoverned (start : Storage) {later : List Tx}
    (silent : ∀ tx ∈ later,
      start.ownership.owner ≠ some tx.sender ∧ start.ownership.pendingOwner ≠ some tx.sender) :
    ((machine api ownable).run start later).ownership = start.ownership ∧
      (machine api ownable).tally (inherited Cw20Token.mintedIn) start later = 0 := by
  refine Machine.allowed_rule _ (motive := fun later (state : Storage) =>
    state.ownership = start.ownership ∧
      (machine api ownable).tally (inherited Cw20Token.mintedIn) start later = 0)
    (fun tx => start.ownership.owner ≠ some tx.sender ∧ start.ownership.pendingOwner ≠ some tx.sender)
    start ⟨rfl, rfl⟩ ?_ ?_ silent
  · intro later tx next response _ quiet kept commits
    rw [← kept.1] at quiet
    obtain ⟨still, nothing⟩ := exec_ungoverned lawful quiet commits
    rw [Machine.tally_snoc_ok _ _ commits, kept.2, nothing]
    exact ⟨still.trans kept.1, rfl⟩
  · intro later tx reason kept fails
    rw [Machine.tally_snoc_error _ _ fails]
    exact kept

end Messages

section Counterparts

variable {api : Api} {ownable : Package} {storage : Storage} {token : Cw20Token.Storage} {tx : Tx}

/-- Where a message is not shared, the token is sent changes of its minter at most. -/
theorem counterpart_reminting (unshared : tx.msg.shared = none) :
    ∀ sent ∈ counterpart api ownable storage tx, ∃ sender newMinter, sent = ⟨sender, .updateMinter newMinter⟩ := by
  intro sent member
  simp only [counterpart, unshared] at member
  split at member
  · next value owner success owned =>
    unfold handover at member
    split at member
    · exact ⟨_, _, List.mem_singleton.mp member⟩
    · exact ⟨_, _, List.mem_singleton.mp member⟩
    · cases member
  · cases member

/-- A measure of the token's messages that makes nothing of a change of minter comes to the
same for the contract. -/
theorem counterpart_weighs (lawful : ownable.Lawful) {weigh : Cw20Token.Storage → Cw20Token.Tx → Response → Nat}
    (silent : ∀ token sender newMinter response, weigh token ⟨sender, .updateMinter newMinter⟩ response = 0)
    (kept : Kept api storage token) (tx : Tx) :
    (Cw20Token.machine api).tally weigh token (counterpart api ownable storage tx) =
      (machine api ownable).tally (inherited weigh) storage [tx] := by
  obtain rfl := kept.related.eq
  cases shared : tx.msg.shared with
  | some msg =>
    have sent : counterpart api ownable storage tx = [⟨tx.sender, msg⟩] := by
      rw [counterpart, shared]
    rw [sent]
    cases result : (machine api ownable).exec storage tx with
    | error reason =>
      obtain ⟨reason', fails⟩ := asTokenResult_error result
      have refused : (Cw20Token.machine api).exec (asToken storage) ⟨tx.sender, msg⟩ = .error reason' :=
        (shared_agrees lawful shared).trans fails
      rw [Machine.tally_single_error _ _ refused, Machine.tally_single_error _ _ result]
    | ok value =>
      have success := exec_shared lawful shared result
      rw [Machine.tally_single_ok _ _ success, Machine.tally_single_ok _ _ result, inherited, shared]
  | none =>
    have nothing : (machine api ownable).tally (inherited weigh) storage [tx] = 0 := by
      apply Machine.tally_eq_zero
      intro other member before response
      rw [List.mem_singleton.mp member, inherited, shared]
    rw [nothing]
    apply Machine.tally_eq_zero
    intro sent member before response
    obtain ⟨sender, newMinter, rfl⟩ := counterpart_reminting shared sent member
    exact silent before sender newMinter response

end Counterparts

section Books

variable {api : Api} {ownable : Package} {info : MessageInfo} {msg : InstantiateMsg} {first : Storage}
variable {response : Response} (lawful : ownable.Lawful)
variable (made : instantiate api ownable info msg = .ok (first, response))
include lawful made

theorem instantiate_owned :
    first.ownership.authority = { holder := some ⟨msg.owner.getD info.sender.text⟩, offered := none } := by
  obtain ⟨ownership, owned, made⟩ := bind_eq_ok.mp made
  obtain ⟨owner, valid, rfl⟩ := lawful.initialized (into_eq_ok.mp owned)
  obtain rfl := api.given _ _ valid
  cases made
  rfl

theorem run_conserved (txs : List Tx) :
    (Cw20Token.view (asToken ((machine api ownable).run first txs))).Conserved := by
  obtain ⟨⟨response', started⟩, kept⟩ := instantiate_agrees lawful made
  rw [← (run_kept lawful kept txs).related.eq]
  exact Cw20Token.run_conserved (Cw20Token.instantiate_conserved started) _

/-- What a history of the token would total, the history of the contract that it answers does. -/
theorem run_inherited {weigh : Cw20Token.Storage → Cw20Token.Tx → Response → Nat}
    (silent : ∀ token sender newMinter response, weigh token ⟨sender, .updateMinter newMinter⟩ response = 0)
    (txs : List Tx) :
    (Cw20Token.machine api).tally weigh (asToken first)
        ((machine api ownable).respond (counterpart api ownable) first txs) =
      (machine api ownable).tally (inherited weigh) first txs := by
  obtain ⟨_, kept⟩ := instantiate_agrees lawful made
  exact Machine.tally_respond (machine api ownable) (Cw20Token.machine api) (counterpart api ownable)
    (fun _ _ tx kept => counterpart_keeps lawful tx kept)
    (fun _ _ tx kept => counterpart_weighs lawful silent kept tx) kept txs

/-- The supply is what was minted less what was burned. -/
theorem run_supply (txs : List Tx) :
    ((machine api ownable).run first txs).tokenInfo.totalSupply.toNat +
        (machine api ownable).tally (inherited Cw20Token.burnedIn) first txs =
      (machine api ownable).tally (inherited Cw20Token.mintedIn) first txs := by
  obtain ⟨_, kept⟩ := instantiate_agrees lawful made
  have books := Cw20Token.run_supply api (run_conserved lawful made [])
    ((machine api ownable).respond (counterpart api ownable) first txs)
  have empty : (asToken first).tokenInfo.totalSupply.toNat = 0 := by
    obtain ⟨ownership, _, made⟩ := bind_eq_ok.mp made
    cases made
    rfl
  rw [Machine.run_nil, (run_kept lawful kept txs).related.totalSupply, empty, Nat.zero_add,
    run_inherited lawful made (fun _ _ _ _ => rfl), run_inherited lawful made (fun _ _ _ _ => rfl)] at books
  exact books

end Books

/-- After any messages from anyone: the balances add up to the supply, and the supply is what was
minted less what was burned. Whoever may mint is the owner of the moment, named by the
instantiation or come to it by the standing offers of the owners before. While neither the owner
nor the one it was offered to sends anything, or once nobody owns the token, the supply does not
rise, whatever is sent. -/
theorem issuance_by_consent (api : Api) (ownable : Package) (lawful : ownable.Lawful) (info : MessageInfo)
    (msg : InstantiateMsg) (first : Storage) (response : Response)
    (made : instantiate api ownable info msg = .ok (first, response)) (txs : List Tx) :
    (Map.total Word.toNat ((machine api ownable).run first txs).balances =
        ((machine api ownable).run first txs).tokenInfo.totalSupply.toNat ∧
      ((machine api ownable).run first txs).tokenInfo.totalSupply.toNat +
          (machine api ownable).tally (inherited Cw20Token.burnedIn) first txs =
        (machine api ownable).tally (inherited Cw20Token.mintedIn) first txs) ∧
    (Succeeded ⟨msg.owner.getD info.sender.text⟩
        ((machine api ownable).observe (offersMade ownershipRequest) first txs)
        ((machine api ownable).observe (handoversMade Storage.ownership ownershipRequest) first txs)
        ((machine api ownable).run first txs).ownership.authority ∧
      ∀ block sender recipient amount,
        (machine api ownable).Commits ((machine api ownable).run first txs)
            ⟨block, sender, .mint recipient amount⟩ →
          sender = latest ⟨msg.owner.getD info.sender.text⟩
            ((machine api ownable).observe (handoversMade Storage.ownership ownershipRequest) first txs)) ∧
    ∀ later,
      (((machine api ownable).run first txs).ownership.owner = none ∨ ∀ tx ∈ later,
        ((machine api ownable).run first txs).ownership.owner ≠ some tx.sender ∧
          ((machine api ownable).run first txs).ownership.pendingOwner ≠ some tx.sender) →
      ((machine api ownable).run first (txs ++ later)).tokenInfo.totalSupply.toNat ≤
        ((machine api ownable).run first txs).tokenInfo.totalSupply.toNat := by
  have succeeded := (governed lawful api).run_succeeded (instantiate_owned lawful made) txs
  have books := run_supply lawful made txs
  refine ⟨⟨Cw20Token.conserved_iff.mp (run_conserved lawful made txs), books⟩, ⟨succeeded, ?_⟩, ?_⟩
  · intro block sender recipient amount commits
    exact succeeded.titled sender (mint_owns lawful commits)
  · intro later silent
    have quiet : ∀ tx ∈ later,
        ((machine api ownable).run first txs).ownership.owner ≠ some tx.sender ∧
          ((machine api ownable).run first txs).ownership.pendingOwner ≠ some tx.sender := by
      rcases silent with unowned | silent
      · exact fun tx _ => Ownership.nobody_involved succeeded unowned tx.sender
      · exact silent
    have nothing : (machine api ownable).tally (inherited Cw20Token.mintedIn)
        ((machine api ownable).run first txs) later = 0 := (run_ungoverned lawful _ quiet).2
    have after := run_supply lawful made (txs ++ later)
    rw [Machine.tally_append, Machine.tally_append, nothing] at after
    omega

theorem issuance_by_consent_handedOver :
    (⟨"user1"⟩ : Addr) = latest ⟨"owner"⟩ ((machine Api.accepting Package.documented).observe
      (handoversMade Storage.ownership ownershipRequest) testStart (handedOver.take 4)) :=
  (issuance_by_consent Api.accepting Package.documented Package.documented_lawful ⟨⟨"owner"⟩⟩ testMsg
    testStart _ rfl (handedOver.take 4)).2.1.2 (blockAt 45) ⟨"user1"⟩ "user1" (word 1) ⟨_, _, rfl⟩

end CosmwasmContracts.Cw20
