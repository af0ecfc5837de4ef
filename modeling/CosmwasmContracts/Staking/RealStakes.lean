import CosmwasmContracts.Staking.Bookkeeping

/-! When the stake map holds only real stakes. Withdrawals remove an entry that reaches
zero and claims keep what there is, so that an entry without principal has one origin: a
Stake of nothing by an address that has no entry. -/

namespace CosmwasmContracts.Staking
open Library.CheckedWord Library.FiniteMap Library.TransactionMachine CosmwasmStd CwOwnable

/-- A Stake of nothing that finds no entry of its sender. -/
def emptyOpenings (before : Storage) (tx : Tx) (_ : Response) : List Tx :=
  match tx.msg, before.stakes.mayLoad tx.sender with
  | .stake amount, none => if amount.toNat = 0 then [tx] else []
  | _, _ => []

theorem emptyOpenings_eq_nil {before : Storage} {tx : Tx} {response : Response} :
    emptyOpenings before tx response = [] ↔
      ∀ amount, tx.msg = .stake amount → before.stakes.mayLoad tx.sender = none → amount.toNat ≠ 0 := by
  unfold emptyOpenings
  split
  next amount staked absent =>
    constructor
    · intro nothing other same _ zero
      cases staked.symm.trans same
      rw [if_pos zero] at nothing
      cases nothing
    · exact fun real => if_neg (real amount staked absent)
  next mismatch =>
    constructor
    · exact fun _ amount staked absent => (mismatch amount staked absent).elim
    · exact fun _ => rfl

/-- Every entry has a positive amount. -/
def Funded (storage : Storage) : Prop :=
  ∀ user entry, storage.stakes.mayLoad user = some entry → 0 < entry.amount.toNat

/-- Where every entry is funded, having one is having something staked. -/
theorem Funded.entry_iff {storage : Storage} (funded : Funded storage) (user : Addr) :
    (∃ entry, storage.stakes.mayLoad user = some entry) ↔ 0 < stakedAmount storage user := by
  constructor
  · rintro ⟨entry, present⟩
    rw [stakedAmount_of_present present]
    exact funded user entry present
  · intro positive
    cases stored : storage.stakes.mayLoad user with
    | some entry => exact ⟨entry, rfl⟩
    | none =>
      rw [stakedAmount_of_absent stored] at positive
      exact (Nat.lt_irrefl 0 positive).elim

section Step

variable {before next : Storage} {contract : Addr} {tx : Tx} {messages : List CosmosMsg}

/-- One case for each way an entry can be written. -/
theorem effect_funded (effect : Effect before tx.block.time contract tx.sender tx.msg next messages)
    (funded : Funded before) {response : Response} (real : emptyOpenings before tx response = []) :
    Funded next := by
  obtain ⟨block, sender, msg, dispatched⟩ := tx
  rw [emptyOpenings_eq_nil] at real
  intro user kept present
  by_cases own : user = sender
  · subst own
    cases effect with
    | opened amount total absent sum =>
      cases (Map.mayLoad_save_self _ _ _).symm.trans present
      exact Nat.pos_of_ne_zero (real amount rfl absent)
    | toppedUp amount held total entry old grown sum =>
      cases (Map.mayLoad_save_self _ _ _).symm.trans present
      have positive := funded user entry old
      change 0 < held.toNat
      omega
    | reduced amount rest reward total entry payout positive parts remains =>
      cases (Map.mayLoad_save_self _ _ _).symm.trans present
      exact Nat.pos_of_ne_zero positive
    | closed amount reward total entry payout all remains =>
      cases (Map.mayLoad_remove_self _ _).symm.trans present
    | claimed reward entry payout positive =>
      cases (Map.mayLoad_save_self _ _ _).symm.trans present
      exact funded user entry payout.present
    | reconfigured | reowned => exact funded user kept present
  · rw [effect_frame effect own] at present
    exact funded user kept present

/-- An empty opening leaves an entry of nothing. -/
theorem effect_unfunded (effect : Effect before tx.block.time contract tx.sender tx.msg next messages)
    {response : Response} (empty : emptyOpenings before tx response ≠ []) : ¬Funded next := by
  obtain ⟨block, sender, msg, dispatched⟩ := tx
  rw [ne_eq, emptyOpenings_eq_nil] at empty
  push Not at empty
  obtain ⟨amount, rfl, absent, zero⟩ := empty
  intro funded
  have positive := funded sender _ (stake_effect_opens effect absent).1
  change 0 < amount.toNat at positive
  omega

end Step

section Run

variable (machine : Machine Storage Tx TxError Response) (start : Storage) (txs : List Tx)

/-- The state after a history holds only real stakes: every entry is positive, and an
address has one exactly when it has staked more than it has unstaked. -/
structure OnlyRealStakes : Prop where
  positive : Funded (machine.run start txs)
  entries : ∀ user, (∃ entry, (machine.run start txs).stakes.mayLoad user = some entry) ↔
    machine.tally (unstakedBy user) start txs < machine.tally (stakedBy user) start txs

end Run

section History

variable (api : Api) (ownable : Package) (contract : Addr) {start : Storage}

/-- Entries stay funded exactly as long as no opening is empty. -/
theorem run_funded_iff (empty : start.stakes = ∅) (txs : List Tx) :
    (∀ earlier, earlier <+: txs → Funded ((machine api ownable contract).run start earlier)) ↔
      (machine api ownable contract).observe emptyOpenings start txs = [] := by
  apply Machine.history_rule (machine api ownable contract) (motive := fun txs _ =>
    (∀ earlier, earlier <+: txs → Funded ((machine api ownable contract).run start earlier)) ↔
      (machine api ownable contract).observe emptyOpenings start txs = []) start
  · refine ⟨fun _ => rfl, fun _ earlier within => ?_⟩
    obtain rfl := List.prefix_nil.mp within
    intro user entry present
    rw [Machine.run_nil, empty, Map.mayLoad_empty] at present
    cases present
  · intro txs tx next response ih commits
    have effect := commit_effect commits
    have arrived : (machine api ownable contract).run start (txs ++ [tx]) = next := by
      rw [Machine.run_snoc, Machine.deliver_ok _ commits]
    rw [Machine.observe_snoc_ok _ _ commits, List.append_eq_nil_iff, ← ih]
    constructor
    · intro funded
      refine ⟨fun earlier within => funded earlier (within.trans (List.prefix_append txs [tx])), ?_⟩
      by_contra opening
      exact effect_unfunded effect opening (arrived ▸ funded _ (List.prefix_refl _))
    · rintro ⟨funded, real⟩ earlier within
      rcases List.prefix_concat_iff.mp within with rfl | past
      · rw [arrived]
        exact effect_funded effect (funded txs (List.prefix_refl txs)) real
      · exact funded earlier past
  · intro txs tx reason ih fails
    have arrived : (machine api ownable contract).run start (txs ++ [tx]) =
        (machine api ownable contract).run start txs := by
      rw [Machine.run_snoc, Machine.deliver_error _ fails]
    rw [Machine.observe_snoc_error _ _ fails, ← ih]
    constructor
    · exact fun funded earlier within => funded earlier (within.trans (List.prefix_append txs [tx]))
    · intro funded earlier within
      rcases List.prefix_concat_iff.mp within with rfl | past
      · rw [arrived]
        exact funded txs (List.prefix_refl txs)
      · exact funded earlier past

/-- With funded entries, the books tell who has one. -/
theorem onlyRealStakes_of_funded (empty : start.stakes = ∅) {txs : List Tx}
    (funded : Funded ((machine api ownable contract).run start txs)) :
    OnlyRealStakes (machine api ownable contract) start txs := by
  refine ⟨funded, fun user => ?_⟩
  have books := run_entries api ownable contract empty txs user
  rw [funded.entry_iff user]
  omega

end History

/-- Every state of a run holds only real stakes if and only if no Stake of nothing in it goes
through for an address that has no entry at that moment. -/
theorem only_real_stakes (api : Api) (ownable : Package) (contract : Addr) (msg : InstantiateMsg)
    (start : Storage) (response : Response)
    (made : instantiate api ownable msg = .ok (start, response)) (txs : List Tx) :
    (∀ earlier, earlier <+: txs → OnlyRealStakes (machine api ownable contract) start earlier) ↔
      (machine api ownable contract).observe emptyOpenings start txs = [] := by
  have empty := (instantiate_empty made).1
  rw [← run_funded_iff api ownable contract empty txs]
  constructor
  · exact fun real earlier within => (real earlier within).positive
  · exact fun funded earlier within =>
      onlyRealStakes_of_funded api ownable contract empty (funded earlier within)

theorem only_real_stakes_testHistory :
    OnlyRealStakes (machine Api.accepting Package.documented ⟨"staking"⟩) testPool testHistory :=
  (only_real_stakes Api.accepting Package.documented ⟨"staking"⟩ testMsg testPool testResponse rfl
    testHistory).mpr (by decide) testHistory (List.prefix_refl testHistory)

/-- A first Stake of nothing, for which the token moves nothing and so needs no allowance. -/
def emptyOpening : List Tx := [⟨blockAt 100, ⟨"user1"⟩, .stake (word 0), true⟩]

/-- It leaves an entry of amount zero with a running time, and nothing staked. -/
theorem emptyOpening_not_real :
    instantiate Api.accepting Package.documented testMsg = .ok (testPool, testResponse) ∧
    ((machine Api.accepting Package.documented ⟨"staking"⟩).run testPool emptyOpening).stakes.mayLoad
        ⟨"user1"⟩ = some { amount := word 0, stakeTime := (blockAt 100).time } ∧
    (machine Api.accepting Package.documented ⟨"staking"⟩).tally (stakedBy ⟨"user1"⟩) testPool
        emptyOpening = 0 ∧
    ¬OnlyRealStakes (machine Api.accepting Package.documented ⟨"staking"⟩) testPool emptyOpening := by
  have entry :
      ((machine Api.accepting Package.documented ⟨"staking"⟩).run testPool emptyOpening).stakes.mayLoad
        ⟨"user1"⟩ = some { amount := word 0, stakeTime := (blockAt 100).time } := by decide
  refine ⟨rfl, entry, by decide, fun real => ?_⟩
  exact Nat.lt_irrefl 0 (real.positive ⟨"user1"⟩ _ entry)

end CosmwasmContracts.Staking
