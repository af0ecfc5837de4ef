import CosmwasmContracts.Staking.Isolation
import CosmwasmContracts.Staking.Payouts

/-! The books that stakers can write, no more and no fewer. Any entries, at any times from the
genesis on, with a total that adds up in a word: each such book is where some ordered history
ends, so that nothing else ties an entry to another, or its amount to its time. -/

namespace CosmwasmContracts.Staking
open Library.CheckedWord Library.FiniteMap Library.TransactionMachine Library.TimedHistory
  CosmwasmStd CwOwnable

/-- A book that adds up, with no entry from before the genesis. -/
structure Book (genesis : Nat) (storage : Storage) : Prop where
  counted : storage.totalStaked.toNat = stakesTotal storage.stakes
  dated : ∀ user entry, storage.stakes.mayLoad user = some entry → genesis ≤ entry.stakeTime.nanos.toNat

variable {api : Api} {ownable : Package} {contract : Addr} {genesis : Nat}

/-- A message of a staker, not before the genesis. -/
def OfStakers (genesis : Nat) (tx : Tx) : Prop := genesis ≤ nanos tx ∧ ¬tx.msg.Governs

section Kept

variable {before next : Storage} {tx : Tx} {response : Response}

theorem Book.step (book : Book genesis before) (staker : OfStakers genesis tx)
    (commits : (machine api ownable contract).exec before tx = .ok (next, response)) : Book genesis next := by
  have effect := commit_effect commits
  refine ⟨effect_total effect book.counted, ?_⟩
  intro user kept present
  by_cases paid : tx.sender = user ∧ tx.msg.Pays
  · obtain ⟨rfl, pays⟩ := paid
    obtain ⟨_, _, _, _, restarted⟩ := effect_payment effect pays
    rw [restarted kept present]
    exact staker.1
  · rcases (effect_quiet effect paid).2.2 kept present with ⟨entry, old, same⟩ | ⟨_, same⟩
    · rw [same]
      exact book.dated user entry old
    · rw [same]
      exact staker.1

end Kept

/-- A book without the latest of its entries. -/
theorem Book.without {storage : Storage} (book : Book genesis storage) {user : Addr} {entry : StakeInfo}
    (present : storage.stakes.mayLoad user = some entry) {rest : Uint128}
    (remains : rest.toNat + entry.amount.toNat = storage.totalStaked.toNat) :
    Book genesis { storage with stakes := storage.stakes.remove user, totalStaked := rest } := by
  constructor
  · have parts := stakesTotal_remove storage user
    rw [stakedAmount_of_present present, ← book.counted] at parts
    change rest.toNat = stakesTotal (storage.stakes.remove user)
    omega
  · intro other kept held
    change (storage.stakes.remove user).mayLoad other = some kept at held
    by_cases same : other = user
    · rw [same, Map.mayLoad_remove_self] at held
      cases held
    · rw [Map.mayLoad_remove_of_ne _ same] at held
      exact book.dated other kept held

theorem save_remove {stakes : Map Addr StakeInfo} {user : Addr} {entry : StakeInfo}
    (present : stakes.mayLoad user = some entry) : (stakes.remove user).save user entry = stakes := by
  apply Finmap.ext_lookup
  intro other
  change ((stakes.remove user).save user entry).mayLoad other = stakes.mayLoad other
  by_cases same : other = user
  · rw [same, Map.mayLoad_save_self, present]
  · rw [Map.mayLoad_save_of_ne _ _ same, Map.mayLoad_remove_of_ne _ same]

/-- An entry as one deposit at the time of its own. -/
def entering (user : Addr) (entry : StakeInfo) : Tx :=
  ⟨{ height := Word.zero, time := entry.stakeTime }, user, .stake entry.amount, true⟩

/-- The latest entry enters last. -/
theorem stake_enters (api : Api) (ownable : Package) (contract : Addr) {storage : Storage} {user : Addr}
    {entry : StakeInfo} {rest : Uint128} (present : storage.stakes.mayLoad user = some entry)
    (remains : rest.toNat + entry.amount.toNat = storage.totalStaked.toNat) :
    ∃ response, (machine api ownable contract).exec
        { storage with stakes := storage.stakes.remove user, totalStaked := rest } (entering user entry) =
      .ok (storage, response) := by
  have absent : (storage.stakes.remove user).mayLoad user = none := Map.mayLoad_remove_self _ _
  have room : rest.toNat + entry.amount.toNat < 2 ^ 128 := remains ▸ storage.totalStaked.fits
  have accepted : ∃ next response, executeStake
      { storage with stakes := storage.stakes.remove user, totalStaked := rest }
      ⟨(entering user entry).block, contract⟩ ⟨user⟩ entry.amount = .ok (next, response) := by
    refine executeStake_succeeds ?_ room
    rw [stakedAmount_of_absent absent, Nat.zero_add]
    exact entry.amount.fits
  obtain ⟨next, response, accepted⟩ := accepted
  have entered : next = storage := by
    have effect := executeStake_effect accepted
    generalize response.messages = messages at effect
    cases effect with
    | opened _ total missing sum =>
      have whole : total = storage.totalStaked := Word.ext (sum.trans remains)
      have book := save_remove present
      obtain ⟨amount, since⟩ := entry
      rw [whole]
      exact congrArg (fun stakes => { storage with stakes := stakes }) book
    | toppedUp _ held total old stored grown sum => cases absent.symm.trans stored
  subst entered
  exact ⟨response, exec_eq_ok.mpr ⟨accepted, rfl⟩⟩

/-- The time of an address's entry. -/
def enteredAt (storage : Storage) (user : Addr) : Nat :=
  (storage.stakes.mayLoad user).elim 0 fun entry => entry.stakeTime.nanos.toNat

/-- A book that is not empty has a latest entry. -/
theorem latest_entry {storage : Storage} (written : storage.stakes.keys.Nonempty) :
    ∃ user entry, storage.stakes.mayLoad user = some entry ∧
      ∀ other kept, storage.stakes.mayLoad other = some kept →
        kept.stakeTime.nanos.toNat ≤ entry.stakeTime.nanos.toNat := by
  obtain ⟨user, member, latest⟩ := storage.stakes.keys.exists_max_image (enteredAt storage) written
  obtain ⟨entry, present⟩ := Finmap.mem_iff.mp (Finmap.mem_keys.mp member)
  refine ⟨user, entry, present, ?_⟩
  intro other kept held
  have bound := latest other (Finmap.mem_keys.mpr (Finmap.mem_of_lookup_eq_some held))
  have own : storage.stakes.mayLoad user = some entry := present
  rw [enteredAt, enteredAt, held, own] at bound
  exact bound

/-- Stakers' messages in order, the last of them not after `bound`, that end in a storage. -/
def EndsIn (machine : Machine Storage Tx TxError Response) (first : Storage) (genesis bound : Nat)
    (storage : Storage) : Prop :=
  ∃ txs, Ordered nanos genesis txs ∧ reached nanos genesis txs ≤ bound ∧ (∀ tx ∈ txs, ¬tx.msg.Governs) ∧
    machine.run first txs = storage

theorem EndsIn.stake {first storage : Storage} {bound : Nat} {user : Addr} {entry : StakeInfo} {rest : Uint128}
    (present : storage.stakes.mayLoad user = some entry)
    (remains : rest.toNat + entry.amount.toNat = storage.totalStaked.toNat)
    (within : entry.stakeTime.nanos.toNat ≤ bound)
    (earlier : EndsIn (machine api ownable contract) first genesis entry.stakeTime.nanos.toNat
      { storage with stakes := storage.stakes.remove user, totalStaked := rest }) :
    EndsIn (machine api ownable contract) first genesis bound storage := by
  obtain ⟨txs, ordered, done, staked, arrived⟩ := earlier
  obtain ⟨response, commits⟩ := stake_enters api ownable contract present remains
  have later : reached nanos genesis txs ≤ nanos (entering user entry) := done
  refine ⟨txs ++ [entering user entry], (ordered_snoc nanos genesis txs _).mpr ⟨ordered, later⟩, ?_, ?_, ?_⟩
  · rw [reached_snoc]
    exact within
  · intro tx member
    rcases List.mem_append.mp member with old | last
    · exact staked tx old
    · rw [List.mem_singleton.mp last]
      exact id
  · rw [Machine.run_snoc, arrived, Machine.deliver_ok _ commits]

theorem empty_book {first storage : Storage} (empty : first.stakes = ∅) (zero : first.totalStaked.toNat = 0)
    (book : Book genesis storage) (config : storage.config = first.config)
    (ownership : storage.ownership = first.ownership) (none : storage.stakes.keys = ∅) : storage = first := by
  have stakes : storage.stakes = ∅ := by
    apply Finmap.ext_lookup
    intro user
    rw [Finmap.lookup_empty, Finmap.lookup_eq_none, ← Finmap.mem_keys, none]
    exact Finset.notMem_empty user
  have total : storage.totalStaked = first.totalStaked := by
    refine Word.ext ?_
    rw [zero, book.counted, stakes]
    exact Map.total_empty _
  rw [← empty] at stakes
  cases storage
  cases first
  cases config
  cases ownership
  cases total
  cases stakes
  rfl

/-- From an empty contract to any book, one deposit for each entry, the latest last. -/
theorem book_reached {first : Storage} (empty : first.stakes = ∅) (zero : first.totalStaked.toNat = 0)
    (count : Nat) (storage : Storage) (size : storage.stakes.keys.card = count) (book : Book genesis storage)
    (config : storage.config = first.config) (ownership : storage.ownership = first.ownership)
    (bound : Nat) (began : genesis ≤ bound)
    (within : ∀ user entry, storage.stakes.mayLoad user = some entry → entry.stakeTime.nanos.toNat ≤ bound) :
    EndsIn (machine api ownable contract) first genesis bound storage := by
  induction count generalizing storage bound with
  | zero =>
    have same := empty_book empty zero book config ownership (Finset.card_eq_zero.mp size)
    exact ⟨[], trivial, began, by simp, same.symm⟩
  | succ count ih =>
    have written : storage.stakes.keys.Nonempty := Finset.card_pos.mp (by omega)
    obtain ⟨user, entry, present, latest⟩ := latest_entry written
    obtain ⟨rest, remains⟩ := Word.checkedSub_of_le (entry_le_total book.counted present)
    rw [Word.checkedSub_eq_some] at remains
    have fewer : (storage.stakes.remove user).keys.card = count := by
      have member : user ∈ storage.stakes.keys := Finmap.mem_keys.mpr (Finmap.mem_of_lookup_eq_some present)
      rw [Map.remove, Finmap.keys_erase, Finset.card_erase_of_mem member, size, Nat.add_sub_cancel]
    refine EndsIn.stake present remains (within user entry present) ?_
    refine ih _ fewer (book.without present remains) config ownership _ (book.dated user entry present) ?_
    intro other kept held
    change (storage.stakes.remove user).mayLoad other = some kept at held
    rw [Map.mayLoad_remove] at held
    split at held
    next => cases held
    next => exact latest other kept held

/-- Only the owner's messages change the terms or the owner. -/
theorem run_settings (api : Api) (ownable : Package) (contract : Addr) (first : Storage) {txs : List Tx}
    (ordinary : ∀ tx ∈ txs, ¬tx.msg.Governs) :
    ((machine api ownable contract).run first txs).config = first.config ∧
      ((machine api ownable contract).run first txs).ownership = first.ownership := by
  refine Machine.run_invariant _
    (motive := fun state : Storage => state.config = first.config ∧ state.ownership = first.ownership)
    (fun tx => ¬tx.msg.Governs) ?_ ⟨rfl, rfl⟩ ordinary
  rintro before tx next out ⟨config, ownership⟩ plain commits
  have settings := effect_settings (commit_effect commits) plain
  exact ⟨settings.1.trans config, settings.2.trans ownership⟩

/-- The stakers reach exactly the books that add up. Between two messages of the owner, an
ordered history of the other messages can end in every storage whose entries are not from
before the genesis and add up to the stored total, and in no others: any addresses, any
amounts, zero among them, and any times. -/
theorem books_exactly (api : Api) (ownable : Package) (contract : Addr) (msg : InstantiateMsg) (first : Storage)
    (response : Response) (made : instantiate api ownable msg = .ok (first, response)) (genesis : Nat)
    (storage : Storage) :
    (∃ txs, Ordered nanos genesis txs ∧ (∀ tx ∈ txs, ¬tx.msg.Governs) ∧
        (machine api ownable contract).run first txs = storage) ↔
      storage.config = first.config ∧ storage.ownership = first.ownership ∧
        storage.totalStaked.toNat = stakesTotal storage.stakes ∧
        ∀ user entry, storage.stakes.mayLoad user = some entry → genesis ≤ entry.stakeTime.nanos.toNat := by
  obtain ⟨empty, zero⟩ := instantiate_empty made
  constructor
  · rintro ⟨txs, ordered, staked, rfl⟩
    have start : Book genesis first := by
      constructor
      · rw [zero, empty]
        exact (Map.total_empty _).symm
      · intro user entry present
        rw [empty, Map.mayLoad_empty] at present
        cases present
    have book : Book genesis ((machine api ownable contract).run first txs) :=
      Machine.run_invariant _ (motive := Book genesis) (OfStakers genesis)
        (fun before tx next out book staker commits => book.step staker commits) start
        fun tx member => ⟨ordered_from nanos ordered tx member, staked tx member⟩
    obtain ⟨config, ownership⟩ := run_settings api ownable contract first staked
    exact ⟨config, ownership, book.counted, book.dated⟩
  · rintro ⟨config, ownership, counted, dated⟩
    have bounded : ∀ user entry, storage.stakes.mayLoad user = some entry →
        entry.stakeTime.nanos.toNat ≤ max genesis (2 ^ 64) :=
      fun user entry _ => entry.stakeTime.nanos.fits.le.trans (le_max_right _ _)
    obtain ⟨txs, ordered, _, staked, arrived⟩ := book_reached empty zero _ storage rfl ⟨counted, dated⟩
      config ownership (max genesis (2 ^ 64)) (le_max_left _ _) bounded
    exact ⟨txs, ordered, staked, arrived⟩

/-- An empty deposit at the genesis and one that leaves no room for another token. -/
def fullBook : Storage :=
  { testPool with
    stakes := ((∅ : Map Addr StakeInfo).save ⟨"user1"⟩ ⟨word 0, (blockAt 100).time⟩).save ⟨"user2"⟩
      ⟨word (2 ^ 128 - 1), (blockAt 200).time⟩
    totalStaked := word (2 ^ 128 - 1) }

theorem books_exactly_fullBook : ∃ txs, Ordered nanos 100000000000 txs ∧ (∀ tx ∈ txs, ¬tx.msg.Governs) ∧
    (machine Api.accepting Package.documented ⟨"staking"⟩).run testPool txs = fullBook := by
  refine (books_exactly Api.accepting Package.documented ⟨"staking"⟩ testMsg testPool testResponse rfl
    100000000000 fullBook).mpr ⟨rfl, rfl, by decide, ?_⟩
  intro user entry present
  change (((∅ : Map Addr StakeInfo).save ⟨"user1"⟩ _).save ⟨"user2"⟩ _).mayLoad user = some entry at present
  rw [Map.mayLoad_save, Map.mayLoad_save] at present
  split at present
  next => cases present; decide
  next =>
    split at present
    next => cases present; decide
    next => cases present

end CosmwasmContracts.Staking
