import CosmwasmContracts.System.Blocks

/-! Everybody can leave. Operations of different stakers that are ready where they stand all
go through, in any order and in whatever blocks they are made, as long as the supply has
room for their rewards. When everyone takes out everything, the contract is left empty. -/

namespace CosmwasmContracts.System
open Library.CheckedWord Library.FiniteMap Library.TransactionMachine Library.LocalAction
  CosmwasmStd CwOwnable Staking

/-- A staker's operation in a block of its own. -/
structure Call where
  block : BlockInfo
  user : Addr
  operation : Operation

namespace Call

variable (call : Call) (host : Host) (world : World)

def tx : Tx := operationTx call.block call.user call.operation

def action : Action Position Posting := (terms host world).action call.block.time call.user call.operation

def Ready : Prop := (call.action host world).Ready (position host world call.user)

def posting : Posting := (call.action host world).posting (position host world call.user)

end Call

/-- Operations of different stakers that are all ready, with room for what they mint. -/
structure Covered (host : Host) (world : World) (calls : List Call) : Prop where
  healthy : Healthy host world
  outside : ∀ call ∈ calls, call.user ≠ host.staking
  distinct : (calls.map Call.user).Nodup
  ready : ∀ call ∈ calls, call.Ready host world
  room : world.token.tokenInfo.totalSupply.toNat +
    (calls.map fun call => (call.posting host world).minted).sum < 2 ^ 128

section First

variable {host : Host} {world next : World} {first : Call} {rest : List Call} {response : Response}
variable (covered : Covered host world (first :: rest))
include covered

theorem Covered.firstOutside : first.user ≠ host.staking := covered.outside first List.mem_cons_self

theorem Covered.firstCommits : (system host).Commits world first.tx := by
  have room := covered.room
  rw [List.map_cons, List.sum_cons] at room
  refine (operation_commits_iff covered.healthy covered.firstOutside).mpr
    ⟨covered.ready first List.mem_cons_self, ?_⟩
  change _ + (first.posting host world).minted < _
  omega

variable (commits : (system host).exec world first.tx = .ok (next, response))
include commits

/-- Another staker's call is made under the same terms from the same position. -/
theorem Covered.unmoved {call : Call} (member : call ∈ rest) :
    call.action host next = call.action host world ∧
      position host next call.user = position host world call.user := by
  have different : call.user ≠ first.user := by
    intro same
    have repeated : first.user ∈ rest.map Call.user := same ▸ List.mem_map_of_mem member
    exact (List.nodup_cons.mp covered.distinct).1 repeated
  constructor
  · unfold Call.action
    rw [operation_keeps_terms covered.firstOutside commits]
  · have view := (operation_view covered.firstOutside commits).1
    have own := congrFun (congrArg State.own view) call.user
    rw [perform_own_of_ne _ _ _ different] at own
    exact own

theorem Covered.after : Covered host next rest := by
  have external : first.tx.External host := covered.firstOutside
  refine ⟨exec_healthy covered.healthy external commits,
    fun call member => covered.outside call (List.mem_cons_of_mem first member),
    (List.nodup_cons.mp covered.distinct).2, fun call member => ?_, ?_⟩
  · obtain ⟨action, own⟩ := covered.unmoved commits member
    rw [Call.Ready, action, own]
    exact covered.ready call (List.mem_cons_of_mem first member)
  · have minted : rest.map (fun call => (call.posting host next).minted) =
        rest.map fun call => (call.posting host world).minted := by
      refine List.map_congr_left fun call member => ?_
      obtain ⟨action, own⟩ := covered.unmoved commits member
      rw [Call.posting, action, own]
      rfl
    have view := (operation_view covered.firstOutside commits).1
    have supply : next.token.tokenInfo.totalSupply.toNat =
        world.token.tokenInfo.totalSupply.toNat + (first.posting host world).minted :=
      congrArg (fun state => Totals.supply (State.shared state)) view
    have room := covered.room
    rw [List.map_cons, List.sum_cons] at room
    rw [minted, supply]
    omega

end First

section All

variable {host : Host} {world : World} {calls : List Call}

/-- The calls as steps on the view of one state. -/
def callSteps (host : Host) (world : World) (calls : List Call) : List (Addr × Action Position Posting) :=
  calls.map fun call => (call.user, call.action host world)

theorem callSteps_owners : (callSteps host world calls).map Prod.fst = calls.map Call.user := by
  rw [callSteps, List.map_map]
  rfl

theorem Covered.execAll (covered : Covered host world calls) :
    ∃ last, (system host).execAll world (calls.map Call.tx) = .ok last ∧ Healthy host last ∧
      view host last = performAll Totals.post (callSteps host world calls) (view host world) := by
  induction calls generalizing world with
  | nil => exact ⟨world, rfl, covered.healthy, rfl⟩
  | cons first rest ih =>
    obtain ⟨next, response, commits⟩ := covered.firstCommits
    obtain ⟨last, others, healthy, equal⟩ := ih (covered.after commits)
    have steps : callSteps host next rest = callSteps host world rest :=
      List.map_congr_left fun call member => by rw [(covered.unmoved commits member).1]
    refine ⟨last, (Machine.execAll_cons _).mpr ⟨next, response, commits, others⟩, healthy, ?_⟩
    rw [equal, steps, (operation_view covered.firstOutside commits).1]
    rfl

end All

/-- Postings one after another add up. -/
theorem postAll_totals (postings : List Posting) (totals : Totals) :
    (postings.foldl (fun totals posting => Totals.post posting totals) totals).staked =
        totals.staked + (postings.map Posting.principal).sum ∧
      (postings.foldl (fun totals posting => Totals.post posting totals) totals).pool =
        totals.pool + (postings.map Posting.principal).sum ∧
      (postings.foldl (fun totals posting => Totals.post posting totals) totals).supply =
        totals.supply + (postings.map Posting.minted).sum := by
  induction postings generalizing totals with
  | nil => simp
  | cons posting rest ih =>
    obtain ⟨staked, pool, supply⟩ := ih (Totals.post posting totals)
    rw [List.foldl_cons, staked, pool, supply, List.map_cons, List.sum_cons, List.map_cons, List.sum_cons]
    exact ⟨add_assoc _ _ _, add_assoc _ _ _, add_assoc _ _ _⟩

section Leaving

variable {host : Host} {world state last : World} {user : Addr}

/-- External messages never give the staking contract an entry of its own. -/
theorem run_own_absent (launched : Launched host world) {txs : List Tx}
    (external : ∀ tx ∈ txs, tx.External host) :
    ((system host).run world txs).staking.stakes.mayLoad host.staking = none := by
  refine Machine.run_invariant _ (motive := fun state : World => state.staking.stakes.mayLoad host.staking = none)
    (fun tx => tx.External host) ?_ ?_ external
  · intro before tx after response absent outside commits
    cases asked : tx.msg with
    | token msg =>
      rw [exec_token asked] at commits
      rw [commits.2]
      exact absent
    | staking msg =>
      rw [exec_staking asked] at commits
      rw [effect_frame (execute_effect commits.1) (Ne.symm outside)]
      exact absent
  · obtain ⟨msg, out, made, _⟩ := launched.staking
    rw [(instantiate_empty made).1, Map.mayLoad_empty]

/-- All that an address has staked. -/
def heldBy (world : World) (user : Addr) : Uint128 :=
  ((world.staking.stakes.mayLoad user).map StakeInfo.amount).getD Word.zero

/-- Somebody who takes out everything, in a block. -/
def leaving (world : World) (leaver : BlockInfo × Addr) : Call :=
  ⟨leaver.1, leaver.2, .unstake (heldBy world leaver.2)⟩

/-- The exact reward due to somebody who leaves. -/
def dueTo (host : Host) (world : World) (leaver : BlockInfo × Addr) : Nat :=
  (terms host world).due leaver.1.time (position host world leaver.2)

/-- An entry past its lockup whose reward can be computed. -/
def CanLeave (world : World) (leaver : BlockInfo × Addr) : Prop :=
  ∃ entry, world.staking.stakes.mayLoad leaver.2 = some entry ∧
    entry.stakeTime.seconds.toNat ≤ leaver.1.time.seconds.toNat ∧
    world.staking.config.lockupPeriod.toNat ≤ leaver.1.time.seconds.toNat - entry.stakeTime.seconds.toNat ∧
    entry.amount.toNat * world.staking.config.apr.toNat *
      (leaver.1.time.seconds.toNat - entry.stakeTime.seconds.toNat) < 2 ^ 128

variable {leaver : BlockInfo × Addr} {leavers : List (BlockInfo × Addr)}

theorem heldBy_of_present {entry : StakeInfo} (present : world.staking.stakes.mayLoad user = some entry) :
    heldBy world user = entry.amount := by
  rw [heldBy, present]
  rfl

theorem leaving_ready (mints : world.token.tokenInfo.minter = some host.staking)
    (able : CanLeave world leaver) : (leaving world leaver).Ready host world := by
  obtain ⟨entry, present, started, unlocked, representable⟩ := able
  have whole : (heldBy world leaver.2).toNat ≤ entry.amount.toNat := by rw [heldBy_of_present present]
  exact ⟨_, depositOf_of_present present, whole, ⟨started, unlocked, representable⟩, Or.inr mints⟩

theorem leaving_next (able : CanLeave world leaver) :
    ((leaving world leaver).action host world).next (position host world leaver.2) =
      { position host world leaver.2 with
        deposit := none
        balance := (position host world leaver.2).balance + (heldBy world leaver.2).toNat +
          dueTo host world leaver } := by
  obtain ⟨entry, present, _⟩ := able
  have gone : (depositOf world.staking leaver.2).bind
      (Terms.decreased (leaving world leaver).block.time (heldBy world leaver.2).toNat) = none := by
    rw [depositOf_of_present present, heldBy_of_present present, Option.bind_some, Terms.decreased, if_pos rfl]
  change Position.mk ((depositOf world.staking leaver.2).bind _) _ _ = Position.mk none _ _
  rw [gone]
  rfl

theorem leaving_owners : (leavers.map (leaving world)).map Call.user = leavers.map Prod.snd := by
  rw [List.map_map]
  rfl

theorem leaving_minted : (leavers.map (leaving world)).map (fun call => (call.posting host world).minted) =
    leavers.map (dueTo host world) := by
  rw [List.map_map]
  rfl

theorem stakes_of_no_deposit {storage : Staking.Storage} (none : ∀ user, depositOf storage user = none) :
    storage.stakes = ∅ := by
  apply Finmap.ext_lookup
  intro user
  rw [Finmap.lookup_empty]
  exact Option.map_eq_none_iff.mp (none user)

/-- What is left when everyone has left. -/
structure Emptied (host : Host) (state last : World) (leavers : List (BlockInfo × Addr)) : Prop where
  stakes : last.staking.stakes = ∅
  total : last.staking.totalStaked.toNat = 0
  pool : poolBalance host last + state.staking.totalStaked.toNat = poolBalance host state
  supply : last.token.tokenInfo.totalSupply.toNat =
    state.token.tokenInfo.totalSupply.toNat + (leavers.map (dueTo host state)).sum
  paid : ∀ leaver ∈ leavers, Cw20Token.balanceOf last.token leaver.2 =
    Cw20Token.balanceOf state.token leaver.2 + (heldBy state leaver.2).toNat + dueTo host state leaver

theorem Covered.emptied (covered : Covered host state (leavers.map (leaving state)))
    (able : ∀ leaver ∈ leavers, CanLeave state leaver)
    (everyone : ∀ user, user ∈ state.staking.stakes → user ∈ leavers.map Prod.snd) :
    ∃ last, (system host).execAll state ((leavers.map (leaving state)).map Call.tx) = .ok last ∧
      Emptied host state last leavers := by
  obtain ⟨last, commits, healthy, equal⟩ := covered.execAll
  have distinct : ((callSteps host state (leavers.map (leaving state))).map Prod.fst).Nodup := by
    rw [callSteps_owners]
    exact covered.distinct
  have positions : ∀ user, position host last user =
      (performAll Totals.post (callSteps host state (leavers.map (leaving state))) (view host state)).own user :=
    fun user => congrFun (congrArg State.own equal) user
  have moved : ∀ leaver ∈ leavers, position host last leaver.2 =
      ((leaving state leaver).action host state).next (position host state leaver.2) := by
    intro leaver member
    rw [positions]
    refine performAll_own_of_mem Totals.post distinct ?_
    exact List.mem_map_of_mem (f := fun call : Call => (call.user, call.action host state))
      (List.mem_map_of_mem member)
  have deposits : ∀ user, depositOf last.staking user = none := by
    intro user
    by_cases leaves : user ∈ leavers.map Prod.snd
    · obtain ⟨leaver, member, rfl⟩ := List.mem_map.mp leaves
      have after := (moved leaver member).trans (leaving_next (able leaver member))
      exact congrArg Position.deposit after
    · have absent : state.staking.stakes.mayLoad user = none :=
        Finmap.lookup_eq_none.mpr fun member => leaves (everyone user member)
      have other : user ∉ (callSteps host state (leavers.map (leaving state))).map Prod.fst := by
        rw [callSteps_owners, leaving_owners]
        exact leaves
      have kept := positions user
      rw [performAll_own_of_not_mem Totals.post other] at kept
      exact (congrArg Position.deposit kept).trans (depositOf_of_absent absent)
  have stakes := stakes_of_no_deposit deposits
  have total : last.staking.totalStaked.toNat = 0 := by
    rw [healthy.counted, stakes]
    exact Map.total_empty _
  have shared := congrArg State.shared equal
  rw [performAll_shared Totals.post distinct] at shared
  obtain ⟨staked, pool, supply⟩ := postAll_totals
    ((callSteps host state (leavers.map (leaving state))).map fun step => step.2.posting ((view host state).own step.1))
    (view host state).shared
  rw [← shared] at staked pool supply
  refine ⟨last, commits, stakes, total, ?_, ?_, ?_⟩
  · change (last.staking.totalStaked.toNat : Int) = state.staking.totalStaked.toNat + _ at staked
    change (poolBalance host last : Int) = poolBalance host state + _ at pool
    omega
  · have minted : (leavers.map (leaving state)).map (fun call => (call.posting host state).minted) =
        leavers.map (dueTo host state) := leaving_minted
    refine supply.trans ?_
    rw [← minted, callSteps, List.map_map, List.map_map]
    rfl
  · intro leaver member
    have outside : leaver.2 ≠ host.staking := covered.outside (leaving state leaver) (List.mem_map_of_mem member)
    have after := congrArg Position.balance ((moved leaver member).trans (leaving_next (able leaver member)))
    change (if leaver.2 = host.staking then 0 else _) =
      (if leaver.2 = host.staking then 0 else _) + _ + _ at after
    rw [if_neg outside, if_neg outside] at after
    exact after

end Leaving

/-- Everybody can leave. In every reachable state in which the contract may mint, if every
entry is past its lockup, with a computable reward, in the block that its owner chooses, and
the supply has room for all the rewards, then all withdraw everything in any order, whatever
the blocks: each is paid its principal and its exact reward, no entry remains, and the pool
keeps exactly what was not staked. -/
theorem everyone_can_leave (host : Host) (world : World) (launched : Launched host world) (txs : List Tx)
    (external : ∀ tx ∈ txs, tx.External host) (state : World)
    (arrived : state = (system host).run world txs)
    (mints : state.token.tokenInfo.minter = some host.staking) (leavers : List (BlockInfo × Addr))
    (distinct : (leavers.map Prod.snd).Nodup)
    (everyone : ∀ user ∈ state.staking.stakes.keys, user ∈ leavers.map Prod.snd)
    (able : ∀ leaver ∈ leavers, CanLeave state leaver)
    (room : state.token.tokenInfo.totalSupply.toNat + (leavers.map (dueTo host state)).sum < 2 ^ 128) :
    ∃ last, (system host).execAll state
        (leavers.map fun leaver => ⟨leaver.1, leaver.2, .staking (.unstake (heldBy state leaver.2))⟩) = .ok last ∧
      Emptied host state last leavers := by
  have ownAbsent : state.staking.stakes.mayLoad host.staking = none := arrived ▸ run_own_absent launched external
  have covered : Covered host state (leavers.map (leaving state)) := by
    refine ⟨arrived ▸ run_healthy launched external, ?_, ?_, ?_, ?_⟩
    · intro call member
      obtain ⟨leaver, among, rfl⟩ := List.mem_map.mp member
      obtain ⟨entry, present, _⟩ := able leaver among
      intro same
      change leaver.2 = host.staking at same
      rw [same, ownAbsent] at present
      cases present
    · rw [leaving_owners]
      exact distinct
    · intro call member
      obtain ⟨leaver, among, rfl⟩ := List.mem_map.mp member
      exact leaving_ready mints (able leaver among)
    · rw [leaving_minted]
      exact room
  obtain ⟨last, commits, emptied⟩ := covered.emptied able fun user member =>
    everyone user (Finmap.mem_keys.mpr member)
  rw [List.map_map] at commits
  exact ⟨last, commits, emptied⟩

theorem everyone_can_leave_twoStakers :
    ∃ last, (system testHost).execAll ((system testHost).run testWorld twoStakers)
        ([(Staking.blockAt 2592100, ⟨"user2"⟩), (Staking.blockAt 3000000, ⟨"user1"⟩)].map fun leaver =>
          ⟨leaver.1, leaver.2, .staking (.unstake
            (heldBy ((system testHost).run testWorld twoStakers) leaver.2))⟩) = .ok last ∧
      Emptied testHost ((system testHost).run testWorld twoStakers) last
        [(Staking.blockAt 2592100, ⟨"user2"⟩), (Staking.blockAt 3000000, ⟨"user1"⟩)] := by
  refine everyone_can_leave testHost testWorld testWorld_launched twoStakers (by decide) _ rfl rfl _
    (by decide) (by decide) ?_ (by decide)
  intro leaver member
  rcases List.mem_pair.mp member with rfl | rfl
  · exact ⟨⟨word 200000, (Staking.blockAt 100).time⟩, rfl, by decide, by decide, by decide⟩
  · exact ⟨⟨word 100000, (Staking.blockAt 100).time⟩, rfl, by decide, by decide, by decide⟩

end CosmwasmContracts.System
