import CosmwasmContracts.System.Interchange

/-! Whole blocks of stakers' messages. When the supply has room for all they would mint,
every message of a block of different stakers comes to what it would come to if it were
the only one, whatever the order, and all orders end in the same state. -/

namespace CosmwasmContracts.System
open Library.CheckedWord Library.FiniteMap Library.TransactionMachine Library.LocalAction
  CosmwasmStd CwOwnable Staking

/-- A staker and what it asks for. -/
abbrev Request := Addr × Operation

def requestTx (block : BlockInfo) (request : Request) : Tx := operationTx block request.1 request.2

/-- What each message of a history comes to, one after another. -/
def rewards (host : Host) : World → List Tx → List (Option Nat)
  | _, [] => []
  | world, tx :: rest => outcome host world tx :: rewards host ((system host).deliver world tx) rest

/-- What a request comes to as the only message of the block. -/
def worth (host : Host) (world : World) (block : BlockInfo) (request : Request) : Option Nat :=
  outcome host world (requestTx block request)

/-- What the requests of a block would mint, each on its own. -/
def demand (host : Host) (world : World) (block : BlockInfo) (requests : List Request) : Nat :=
  (requests.map fun request => (worth host world block request).getD 0).sum

/-- A block of different stakers in a healthy state with room for what they would mint. -/
structure Orderly (host : Host) (world : World) (block : BlockInfo) (requests : List Request) : Prop where
  healthy : Healthy host world
  outside : ∀ request ∈ requests, request.1 ≠ host.staking
  distinct : (requests.map Prod.fst).Nodup
  room : world.token.tokenInfo.totalSupply.toNat + demand host world block requests < 2 ^ 128

/-- What a request that goes through does to the view, under the terms of the block. -/
def stepOf (host : Host) (world : World) (block : BlockInfo) (request : Request) : Addr × Action Position Posting :=
  (request.1, (terms host world).action block.time request.1 request.2)

/-- The requests that would go through. -/
def stepsOf (host : Host) (world : World) (block : BlockInfo) (requests : List Request) :
    List (Addr × Action Position Posting) :=
  (requests.filter fun request => (worth host world block request).isSome).map (stepOf host world block)

section First

variable {host : Host} {world : World} {block : BlockInfo} {first : Request} {rest : List Request}

theorem demand_cons (host : Host) (world : World) (block : BlockInfo) (first : Request) (rest : List Request) :
    demand host world block (first :: rest) =
      (worth host world block first).getD 0 + demand host world block rest := by
  rw [demand, List.map_cons, List.sum_cons]
  rfl

theorem worth_le_demand {request : Request} {requests : List Request} (member : request ∈ requests) :
    (worth host world block request).getD 0 ≤ demand host world block requests :=
  List.single_le_sum (fun _ _ => Nat.zero_le _) _
    (List.mem_map_of_mem (f := fun request => (worth host world block request).getD 0) member)

variable (orderly : Orderly host world block (first :: rest))
include orderly

theorem Orderly.firstOutside : first.1 ≠ host.staking := orderly.outside first List.mem_cons_self

/-- The first request leaves what the others come to as it was. -/
theorem Orderly.stable {request : Request} (member : request ∈ rest) :
    worth host ((system host).deliver world (requestTx block first)) block request =
      worth host world block request := by
  cases result : (system host).exec world (requestTx block first) with
  | error reason => rw [Machine.deliver_error _ result]
  | ok value =>
    rw [Machine.deliver_ok _ result]
    have different : request.1 ≠ first.1 := by
      intro same
      have repeated : first.1 ∈ rest.map Prod.fst := same ▸ List.mem_map_of_mem member
      exact (List.nodup_cons.mp orderly.distinct).1 repeated
    have outside := orderly.outside request (List.mem_cons_of_mem first member)
    have room := orderly.room
    have part : (worth host world block request).getD 0 ≤ demand host world block rest :=
      worth_le_demand member
    rw [demand_cons] at room
    refine outcome_stable orderly.healthy outside orderly.firstOutside different result ?_
    change _ + (worth host world block first).getD 0 + (worth host world block request).getD 0 < _
    omega

theorem Orderly.supply :
    ((system host).deliver world (requestTx block first)).token.tokenInfo.totalSupply.toNat =
      world.token.tokenInfo.totalSupply.toNat + (worth host world block first).getD 0 := by
  cases result : (system host).exec world (requestTx block first) with
  | error reason =>
    rw [Machine.deliver_error _ result, worth, outcome_of_error result]
    rfl
  | ok value =>
    obtain ⟨view, minted⟩ := operation_view orderly.firstOutside result
    rw [Machine.deliver_ok _ result, worth, outcome_of_ok result, Option.getD_some]
    change _ = _ + mintedTo first.1 value.2.messages
    rw [minted]
    exact congrArg (fun state => Totals.supply (State.shared state)) view

theorem Orderly.terms_eq : terms host ((system host).deliver world (requestTx block first)) = terms host world := by
  cases result : (system host).exec world (requestTx block first) with
  | error reason => rw [Machine.deliver_error _ result]
  | ok value =>
    rw [Machine.deliver_ok _ result]
    exact operation_keeps_terms orderly.firstOutside result

theorem Orderly.after : Orderly host ((system host).deliver world (requestTx block first)) block rest := by
  refine ⟨?_, fun request member => orderly.outside request (List.mem_cons_of_mem first member),
    (List.nodup_cons.mp orderly.distinct).2, ?_⟩
  · cases result : (system host).exec world (requestTx block first) with
    | error reason =>
      rw [Machine.deliver_error _ result]
      exact orderly.healthy
    | ok value =>
      have external : (requestTx block first).External host := orderly.firstOutside
      rw [Machine.deliver_ok _ result]
      exact exec_healthy orderly.healthy external result
  · have same : demand host ((system host).deliver world (requestTx block first)) block rest =
        demand host world block rest := by
      unfold demand
      exact congrArg List.sum (List.map_congr_left fun request member => by rw [orderly.stable member])
    have room := orderly.room
    rw [demand_cons] at room
    rw [same, orderly.supply]
    omega

end First

section Block

variable {host : Host} {world : World} {block : BlockInfo} {requests others : List Request}

/-- Every request of a block comes to what it would come to on its own. -/
theorem Orderly.rewards_eq (orderly : Orderly host world block requests) :
    rewards host world (requests.map (requestTx block)) = requests.map (worth host world block) := by
  induction requests generalizing world with
  | nil => rfl
  | cons first rest ih =>
    rw [List.map_cons, rewards, ih orderly.after, List.map_cons]
    exact congrArg _ (List.map_congr_left fun request member => orderly.stable member)

/-- A block does to the view what the operations do that would go through on their own. -/
theorem Orderly.view_eq (orderly : Orderly host world block requests) :
    view host ((system host).run world (requests.map (requestTx block))) =
      performAll Totals.post (stepsOf host world block requests) (view host world) := by
  induction requests generalizing world with
  | nil => rfl
  | cons first rest ih =>
    have steps : stepsOf host ((system host).deliver world (requestTx block first)) block rest =
        stepsOf host world block rest := by
      unfold stepsOf stepOf
      rw [orderly.terms_eq]
      exact congrArg _ (List.filter_congr fun request member => by rw [orderly.stable member])
    rw [List.map_cons, Machine.run_cons, ih orderly.after, steps]
    cases result : (system host).exec world (requestTx block first) with
    | error reason =>
      have refused : (worth host world block first).isSome = false := by
        rw [worth, outcome_of_error result]
        rfl
      rw [Machine.deliver_error _ result, stepsOf, stepsOf, List.filter_cons, refused]
      rfl
    | ok value =>
      have done : (worth host world block first).isSome = true := by
        rw [worth, outcome_of_ok result]
        rfl
      rw [Machine.deliver_ok _ result, (operation_view orderly.firstOutside result).1, stepsOf, stepsOf,
        List.filter_cons, done]
      rfl

theorem Orderly.perm (orderly : Orderly host world block requests) (reordered : requests.Perm others) :
    Orderly host world block others := by
  refine ⟨orderly.healthy, fun request member => orderly.outside request (reordered.mem_iff.mpr member),
    ((reordered.map Prod.fst).nodup_iff).mp orderly.distinct, ?_⟩
  have same : demand host world block others = demand host world block requests :=
    ((reordered.map _).sum_eq).symm
  rw [same]
  exact orderly.room

theorem stepsOf_distinct (distinct : (requests.map Prod.fst).Nodup) :
    ((stepsOf host world block requests).map Prod.fst).Nodup := by
  have owners : (stepsOf host world block requests).map Prod.fst =
      (requests.filter fun request => (worth host world block request).isSome).map Prod.fst := by
    rw [stepsOf, List.map_map]
    rfl
  rw [owners]
  exact distinct.sublist (List.filter_sublist.map Prod.fst)

end Block

/-- The order of a block does not matter. In every reachable state, of any number of messages
that different stakers send in one block, each comes to what it would come to alone, wherever
it stands, and every order leads to the same state, as long as the supply has room for all
that they would mint. -/
theorem block_order_free (host : Host) (world : World) (launched : Launched host world) (txs : List Tx)
    (external : ∀ tx ∈ txs, tx.External host) (state : World)
    (arrived : state = (system host).run world txs) (block : BlockInfo) (requests others : List Request)
    (outside : ∀ request ∈ requests, request.1 ≠ host.staking) (distinct : (requests.map Prod.fst).Nodup)
    (room : state.token.tokenInfo.totalSupply.toNat + demand host state block requests < 2 ^ 128)
    (reordered : requests.Perm others) :
    rewards host state (others.map (requestTx block)) =
        others.map (fun request => outcome host state (requestTx block request)) ∧
      ((system host).run state (requests.map (requestTx block))).Same
        ((system host).run state (others.map (requestTx block))) := by
  have orderly : Orderly host state block requests :=
    ⟨arrived ▸ run_healthy launched external, outside, distinct, room⟩
  have steps : (stepsOf host state block requests).Perm (stepsOf host state block others) :=
    (reordered.filter _).map _
  have views : view host ((system host).run state (requests.map (requestTx block))) =
      view host ((system host).run state (others.map (requestTx block))) := by
    rw [orderly.view_eq, (orderly.perm reordered).view_eq]
    exact performAll_perm _ Totals.post_comm steps (stepsOf_distinct distinct) _
  exact ⟨(orderly.perm reordered).rewards_eq, same_of_view views⟩

theorem block_order_free_twoStakers :
    ((system testHost).run ((system testHost).run testWorld twoStakers)
        ([(⟨"user1"⟩, .unstake (word 40000)), (⟨"user2"⟩, .claim), (⟨"user3"⟩, .claim)].map
          (requestTx (Staking.blockAt 2592100)))).Same
      ((system testHost).run ((system testHost).run testWorld twoStakers)
        ([(⟨"user3"⟩, .claim), (⟨"user2"⟩, .claim), (⟨"user1"⟩, .unstake (word 40000))].map
          (requestTx (Staking.blockAt 2592100)))) :=
  (block_order_free testHost testWorld testWorld_launched twoStakers (by decide) _ rfl
    (Staking.blockAt 2592100) _ _ (by decide) (by decide) (by decide) (List.reverse_perm _).symm).2

end CosmwasmContracts.System
