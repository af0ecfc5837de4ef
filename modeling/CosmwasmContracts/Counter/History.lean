import CosmwasmContracts.Counter.Contract
import CosmwasmContracts.CwOwnable.Succession

/-! The count over whole histories: what its owners made of it, one after another. -/

namespace CosmwasmContracts.Counter
open Library.CheckedWord Library.TransactionMachine Library.Succession CosmwasmStd CwOwnable

/-- What a message asks of the ownership package. -/
def ownershipRequest (tx : Tx) : Option (Addr × Action) :=
  match tx.msg with
  | .updateOwnership action => some (tx.sender, action)
  | _ => none

inductive Change where
  | increment
  | reset (count : Int)

def Change.apply (count : Int) : Change → Int
  | .increment => count + 1
  | .reset count => count

/-- What a message makes of the count. -/
def changes (_ : Storage) (tx : Tx) (_ : Response) : List Change :=
  match tx.msg with
  | .increment => [.increment]
  | .reset count => [.reset count.toInt]
  | .updateOwnership _ => []

section Step

variable {api : Api} {ownable : Package} (lawful : ownable.Lawful) {before next : Storage} {tx : Tx}
variable {block : BlockInfo} {sender : Addr} {response : Response}

theorem increment_ok (commits : (machine api ownable).exec before ⟨block, sender, .increment⟩ = .ok (next, response)) :
    ownable.assertOwner before.ownership sender = .ok () ∧ next.ownership = before.ownership ∧
      next.count.toInt = before.count.toInt + 1 := by
  obtain ⟨_, asserted, commits⟩ := bind_eq_ok.mp commits
  obtain ⟨sum, added, commits⟩ := bind_eq_ok.mp commits
  rw [unwrap_eq_ok, SignedWord.checkedAdd_eq_some] at added
  cases commits
  exact ⟨into_eq_ok.mp asserted, rfl, added⟩

theorem reset_ok {count : I32}
    (commits : (machine api ownable).exec before ⟨block, sender, .reset count⟩ = .ok (next, response)) :
    ownable.assertOwner before.ownership sender = .ok () ∧ 0 ≤ count.toInt ∧
      next = { before with count := count } := by
  obtain ⟨_, asserted, commits⟩ := bind_eq_ok.mp commits
  obtain ⟨natural, commits⟩ := guard_eq_ok.mp commits
  cases commits
  exact ⟨into_eq_ok.mp asserted, by omega, rfl⟩

theorem updateOwnership_ok {action : Action}
    (commits : (machine api ownable).exec before ⟨block, sender, .updateOwnership action⟩ =
      .ok (next, response)) :
    ∃ ownership, ownable.updateOwnership api block sender action before.ownership = .ok ownership ∧
      next = { before with ownership := ownership } := by
  obtain ⟨ownership, updated, commits⟩ := bind_eq_ok.mp commits
  cases commits
  exact ⟨ownership, into_eq_ok.mp updated, rfl⟩

include lawful

theorem governed (api : Api) : Governed (machine api ownable) Storage.ownership ownershipRequest where
  requested := by
    intro before tx next response sender action commits asked
    obtain ⟨block, author, sent⟩ := tx
    cases sent with
    | updateOwnership requested =>
      cases asked
      obtain ⟨ownership, updated, rfl⟩ := updateOwnership_ok commits
      exact lawful.step updated
    | increment | reset => cases asked
  untouched := by
    intro before tx next response commits asked
    obtain ⟨block, author, sent⟩ := tx
    cases sent with
    | updateOwnership requested => cases asked
    | increment => exact (increment_ok commits).2.1
    | reset count => rw [(reset_ok commits).2.2]

/-- The owner's Increment goes through while there is room, anyone else's never. -/
theorem increment_commits_iff : (machine api ownable).Commits before ⟨block, sender, .increment⟩ ↔
    before.ownership.owner = some sender ∧ before.count.toInt + 1 < 2 ^ 31 := by
  constructor
  · rintro ⟨next, response, commits⟩
    obtain ⟨asserted, _, grown⟩ := increment_ok commits
    exact ⟨lawful.owns asserted, grown ▸ next.count.high⟩
  · rintro ⟨owns, room⟩
    have asserted : into ContractError.ownership (ownable.assertOwner before.ownership sender) = .ok () :=
      into_eq_ok.mpr (lawful.owner_asserted owns)
    obtain ⟨sum, added⟩ : ∃ sum, before.count.checkedAdd one = some sum :=
      SignedWord.checkedAdd_of_lt (by decide) room
    exact ⟨_, _, bind_eq_ok.mpr ⟨(), asserted, bind_eq_ok.mpr ⟨sum, unwrap_eq_ok.mpr added, rfl⟩⟩⟩

theorem reset_commits_iff {count : I32} : (machine api ownable).Commits before ⟨block, sender, .reset count⟩ ↔
    before.ownership.owner = some sender ∧ 0 ≤ count.toInt := by
  constructor
  · rintro ⟨next, response, commits⟩
    obtain ⟨asserted, natural, _⟩ := reset_ok commits
    exact ⟨lawful.owns asserted, natural⟩
  · rintro ⟨owns, natural⟩
    have asserted : into ContractError.ownership (ownable.assertOwner before.ownership sender) = .ok () :=
      into_eq_ok.mpr (lawful.owner_asserted owns)
    exact ⟨_, _, bind_eq_ok.mpr ⟨(), asserted, guard_eq_ok.mpr ⟨Int.not_lt.mpr natural, rfl⟩⟩⟩

/-- At the top of the word the owner's Increment panics. -/
theorem increment_panics (owns : before.ownership.owner = some sender) (top : 2 ^ 31 ≤ before.count.toInt + 1) :
    (machine api ownable).exec before ⟨block, sender, .increment⟩ = .error .panic := by
  have asserted : ownable.assertOwner before.ownership sender = .ok () := lawful.owner_asserted owns
  have overflows : before.count.checkedAdd one = none := SignedWord.checkedAdd_of_le top
  change (into ContractError.ownership (ownable.assertOwner before.ownership sender) >>= fun _ =>
    unwrap (before.count.checkedAdd one) >>= _) = _
  rw [asserted, overflows]
  rfl

/-- The owner's Reset to a negative count fails by name. -/
theorem reset_refused {count : I32} (owns : before.ownership.owner = some sender) (negative : count.toInt < 0) :
    (machine api ownable).exec before ⟨block, sender, .reset count⟩ = .error (.error .negativeCount) := by
  have asserted : ownable.assertOwner before.ownership sender = .ok () := lawful.owner_asserted owns
  change (into ContractError.ownership (ownable.assertOwner before.ownership sender) >>= fun _ =>
    if count.toInt < 0 then .error (.error .negativeCount) else _) = _
  rw [asserted, if_pos negative]
  rfl

/-- A committed message of neither the owner nor the one it was offered to does nothing. -/
theorem exec_ungoverned
    (silent : before.ownership.owner ≠ some tx.sender ∧ before.ownership.pendingOwner ≠ some tx.sender)
    (commits : (machine api ownable).exec before tx = .ok (next, response)) : next = before := by
  obtain ⟨block, author, sent⟩ := tx
  have owned : next.ownership = before.ownership := by
    apply (governed lawful api).exec_silent ?_ commits
    intro sender action asked
    cases sent with
    | updateOwnership requested =>
      cases asked
      exact silent
    | increment | reset => cases asked
  cases sent with
  | increment => exact absurd (lawful.owns (increment_ok commits).1) silent.1
  | reset count => exact absurd (lawful.owns (reset_ok commits).1) silent.1
  | updateOwnership action =>
    obtain ⟨ownership, _, rfl⟩ := updateOwnership_ok commits
    exact congrArg (Storage.mk before.count) owned

end Step

section Histories

variable {api : Api} {ownable : Package}

theorem run_natural (api : Api) (ownable : Package) {start : Storage} (natural : 0 ≤ start.count.toInt)
    (txs : List Tx) : 0 ≤ ((machine api ownable).run start txs).count.toInt := by
  refine Machine.run_invariant _ (motive := fun storage : Storage => 0 ≤ storage.count.toInt) (fun _ => True)
    ?_ natural (fun _ _ => trivial)
  rintro before ⟨block, author, sent⟩ next response counted _ commits
  cases sent with
  | increment =>
    have grown := (increment_ok commits).2.2
    omega
  | reset count =>
    obtain ⟨_, valid, rfl⟩ := reset_ok commits
    exact valid
  | updateOwnership action =>
    obtain ⟨ownership, _, rfl⟩ := updateOwnership_ok commits
    exact counted

/-- The count moves as the committed messages say. -/
theorem run_count (api : Api) (ownable : Package) (start : Storage) (txs : List Tx) :
    ((machine api ownable).run start txs).count.toInt =
      ((machine api ownable).observe changes start txs).foldl Change.apply start.count.toInt := by
  refine Machine.fold_rule _ changes (fun storage : Storage => storage.count.toInt) Change.apply ?_ start txs
  rintro before ⟨block, author, sent⟩ next response commits
  cases sent with
  | increment => exact (increment_ok commits).2.2
  | reset count =>
    obtain ⟨_, _, rfl⟩ := reset_ok commits
    rfl
  | updateOwnership action =>
    obtain ⟨ownership, _, rfl⟩ := updateOwnership_ok commits
    rfl

theorem instantiate_count (lawful : ownable.Lawful) {info : MessageInfo} {msg : InstantiateMsg} {first : Storage}
    {response : Response} (made : instantiate api ownable info msg = .ok (first, response)) :
    first.count = msg.count ∧ 0 ≤ msg.count.toInt ∧
      first.ownership.authority = { holder := some ⟨msg.owner.getD info.sender.text⟩, offered := none } := by
  obtain ⟨natural, made⟩ := guard_eq_ok.mp made
  obtain ⟨ownership, owned, made⟩ := bind_eq_ok.mp made
  obtain ⟨owner, valid, rfl⟩ := lawful.initialized (into_eq_ok.mp owned)
  obtain rfl := api.given _ _ valid
  cases made
  exact ⟨rfl, Int.not_lt.mp natural, rfl⟩

end Histories

/-- After any messages from anyone: the count is not negative and is what its committed
increments and resets make of the first one. The owner of the moment, come to it by the
standing offers of the owners before, may increment while the sum fits, and panics at the top,
and may reset to anything that is not negative, which is an error otherwise; nobody else may do
either, and while the owner and the one it was offered to send nothing, or once nobody owns the
contract, no message changes anything. -/
theorem count_by_owners (api : Api) (ownable : Package) (lawful : ownable.Lawful) (info : MessageInfo)
    (msg : InstantiateMsg) (first : Storage) (response : Response)
    (made : instantiate api ownable info msg = .ok (first, response)) (txs : List Tx) (storage : Storage)
    (reached : storage = (machine api ownable).run first txs) :
    (0 ≤ storage.count.toInt ∧ storage.count.toInt =
      ((machine api ownable).observe changes first txs).foldl Change.apply msg.count.toInt) ∧
    Succeeded ⟨msg.owner.getD info.sender.text⟩
      ((machine api ownable).observe (offersMade ownershipRequest) first txs)
      ((machine api ownable).observe (handoversMade Storage.ownership ownershipRequest) first txs)
      storage.ownership.authority ∧
    (∀ block sender,
      ((machine api ownable).Commits storage ⟨block, sender, .increment⟩ ↔
        storage.ownership.owner = some sender ∧ storage.count.toInt + 1 < 2 ^ 31) ∧
      ∀ count, (machine api ownable).Commits storage ⟨block, sender, .reset count⟩ ↔
        storage.ownership.owner = some sender ∧ 0 ≤ count.toInt) ∧
    (∀ block sender, storage.ownership.owner = some sender →
      (2 ^ 31 ≤ storage.count.toInt + 1 →
        (machine api ownable).exec storage ⟨block, sender, .increment⟩ = .error .panic) ∧
      ∀ count : I32, count.toInt < 0 →
        (machine api ownable).exec storage ⟨block, sender, .reset count⟩ = .error (.error .negativeCount)) ∧
    ∀ later,
      (storage.ownership.owner = none ∨ ∀ tx ∈ later,
        storage.ownership.owner ≠ some tx.sender ∧ storage.ownership.pendingOwner ≠ some tx.sender) →
      (machine api ownable).run storage later = storage := by
  obtain ⟨initial, natural, owned⟩ := instantiate_count lawful made
  have succeeded := (governed lawful api).run_succeeded owned txs
  have above := run_natural api ownable (initial ▸ natural) txs
  have counted := run_count api ownable first txs
  rw [← reached] at succeeded above counted
  rw [initial] at counted
  refine ⟨⟨above, counted⟩, succeeded, ?_, ?_, ?_⟩
  · intro block sender
    exact ⟨increment_commits_iff lawful, fun count => reset_commits_iff lawful⟩
  · intro block sender owns
    exact ⟨increment_panics lawful owns, fun count => reset_refused lawful owns⟩
  · intro later silent
    have quiet : ∀ tx ∈ later,
        storage.ownership.owner ≠ some tx.sender ∧ storage.ownership.pendingOwner ≠ some tx.sender := by
      rcases silent with unowned | silent
      · exact fun tx _ => Ownership.nobody_involved succeeded unowned tx.sender
      · exact silent
    refine Machine.run_invariant _ (motive := fun state : Storage => state = storage)
      (fun tx => storage.ownership.owner ≠ some tx.sender ∧ storage.ownership.pendingOwner ≠ some tx.sender)
      ?_ rfl quiet
    rintro state tx next output rfl strange commits
    exact exec_ungoverned lawful strange commits

/-- A count near the top of its word, owned by the one the message names. -/
def testMsg : InstantiateMsg :=
  { count := ⟨2147483645, by decide, by decide⟩, owner := some "owner" }

def testStart : Storage where
  count := ⟨2147483645, by decide, by decide⟩
  ownership := { owner := some ⟨"owner"⟩, pendingOwner := none, pendingExpiry := none }

def testBlock : BlockInfo := { height := word 1, time := ⟨word 0⟩ }

/-- Three increments, of which the last overflows, and a reset by a stranger. -/
def toTheTop : List Tx :=
  [⟨testBlock, ⟨"owner"⟩, .increment⟩, ⟨testBlock, ⟨"owner"⟩, .increment⟩, ⟨testBlock, ⟨"owner"⟩, .increment⟩,
    ⟨testBlock, ⟨"user1"⟩, .reset ⟨0, by decide, by decide⟩⟩]

theorem count_by_owners_toTheTop :
    ((machine Api.accepting Package.documented).run testStart toTheTop).count.toInt =
      ((machine Api.accepting Package.documented).observe changes testStart toTheTop).foldl Change.apply
        2147483645 ∧
    (machine Api.accepting Package.documented).exec
        ((machine Api.accepting Package.documented).run testStart toTheTop) ⟨testBlock, ⟨"owner"⟩, .increment⟩ =
      .error .panic := by
  obtain ⟨⟨_, counted⟩, _, _, refusals, _⟩ := count_by_owners Api.accepting Package.documented
    Package.documented_lawful ⟨⟨"user1"⟩⟩ testMsg testStart _ rfl toTheTop _ rfl
  exact ⟨counted, (refusals testBlock ⟨"owner"⟩ (by decide)).1 (by decide)⟩

end CosmwasmContracts.Counter
