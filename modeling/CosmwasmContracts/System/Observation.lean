import CosmwasmContracts.Cw20Token.Alike
import CosmwasmContracts.Staking.Alike
import CosmwasmContracts.System.Health

/-! What anyone can observe of the two contracts. Worlds that are alike at a shift come to
the same under messages a shift apart. At no shift, being alike is the same as answering
every query alike, so the queries show all of a world that any later message can depend on;
from a launch, which has no clocks yet, a whole history may be moved in time. -/

namespace CosmwasmContracts.System
open Library.CheckedWord Library.FiniteMap Library.TransactionMachine Library.Lockstep
  CosmwasmStd CwOwnable Staking

structure World.Alike (Known : Addr → Prop) (shift : Nat) (world other : World) : Prop where
  token : world.token.Alike Known other.token
  staking : world.staking.Alike Known shift other.staking

def Tx.ChangesOwner : Tx → Prop
  | ⟨_, _, .staking (.updateOwnership _)⟩ => True
  | _ => False

instance decidableChangesOwner : (tx : Tx) → Decidable tx.ChangesOwner
  | ⟨_, _, .staking (.updateOwnership _)⟩ => .isTrue trivial
  | ⟨_, _, .token _⟩ => .isFalse id
  | ⟨_, _, .staking (.stake _)⟩ => .isFalse id
  | ⟨_, _, .staking (.unstake _)⟩ => .isFalse id
  | ⟨_, _, .staking .claimRewards⟩ => .isFalse id
  | ⟨_, _, .staking (.changeConfig _ _)⟩ => .isFalse id

/-- The same message of the same sender, in a block a number of seconds later. The ownership
package may look at the block, so that its own messages keep theirs. -/
@[mk_iff]
structure Moved (shift : Nat) (tx tx' : Tx) : Prop where
  sender : tx.sender = tx'.sender
  msg : tx.msg = tx'.msg
  later : ¬tx.ChangesOwner → Shifted shift tx.block.time tx'.block.time
  dated : tx.ChangesOwner → tx.block = tx'.block

instance decidableMoved (shift : Nat) (tx tx' : Tx) : Decidable (Moved shift tx tx') :=
  decidable_of_iff' _ (moved_iff shift tx tx')

/-- A message of a known sender, moved. -/
structure Resent (Known : Addr → Prop) (shift : Nat) (tx tx' : Tx) : Prop where
  moved : Moved shift tx tx'
  known : Known tx.sender

section Lockstep

variable {host : Host} {Known : Addr → Prop} {shift : Nat}
variable (validated : ∀ text addr, host.api.addrValidate text = .ok addr → Known addr)
variable (ownKnown : Known host.staking)
include validated ownKnown

theorem dispatch_agree {token token' : Cw20Token.Storage} (alike : token.Alike Known token')
    (messages : List CosmosMsg) :
    Agree (Cw20Token.Storage.Alike Known) (dispatch host token messages) (dispatch host token' messages) := by
  induction messages generalizing token token' with
  | nil => exact .ok alike
  | cons message rest ih =>
    have delivered : Agree (Cw20Token.Storage.Alike Known)
        (deliverMsg host token message) (deliverMsg host token' message) := by
      refine Agree.guard _ fun _ => ?_
      have executed : Agree (Returned (Cw20Token.Storage.Alike Known))
          ((Cw20Token.machine host.api).exec token (tokenTx host message))
          ((Cw20Token.machine host.api).exec token' (tokenTx host message)) :=
        Cw20Token.execute_agree alike ownKnown validated
      exact (into_agree _ executed).bind fun _ _ returned => .ok returned.1
    exact delivered.bind fun _ _ next => ih next

theorem system_inStep :
    InStep (World.Alike Known shift) (Resent Known shift) (system host) (system host) := by
  rintro world other ⟨block, sender, msg⟩ ⟨block', _, _⟩ alike ⟨⟨rfl, rfl, later, dated⟩, known⟩
  cases msg with
  | token msg =>
    have executed : Agree (Returned (Cw20Token.Storage.Alike Known))
        ((Cw20Token.machine host.api).exec world.token ⟨sender, msg⟩)
        ((Cw20Token.machine host.api).exec other.token ⟨sender, msg⟩) :=
      Cw20Token.execute_agree alike.token known validated
    refine (into_agree _ executed).bind fun _ _ returned => ?_
    exact .ok ⟨⟨returned.1, alike.staking⟩, returned.2⟩
  | staking msg =>
    have sameBlock : ∀ action, msg = .updateOwnership action → block = block' := by
      rintro action rfl
      exact dated trivial
    have timed : (∀ action, msg ≠ .updateOwnership action) → Shifted shift block.time block'.time := by
      intro ordinary
      apply later
      cases msg with
      | updateOwnership action => exact absurd rfl (ordinary action)
      | stake | unstake | claimRewards | changeConfig => exact id
    have addressed : (Env.mk block host.staking).contractAddress = (Env.mk block' host.staking).contractAddress := rfl
    have executed : Agree (Returned (Staking.Storage.Alike Known shift))
        (Staking.execute host.api host.ownable world.staking ⟨block, host.staking⟩ ⟨sender⟩ msg)
        (Staking.execute host.api host.ownable other.staking ⟨block', host.staking⟩ ⟨sender⟩ msg) :=
      Staking.execute_agree alike.staking known addressed timed sameBlock
    refine (into_agree _ executed).bind ?_
    rintro ⟨next, response⟩ ⟨next', _⟩ ⟨staking, rfl⟩
    refine (dispatch_agree validated ownKnown alike.token response.messages).bind fun _ _ token => ?_
    exact .ok ⟨⟨token, staking⟩, rfl⟩

end Lockstep

section Answers

/-- Every query to either contract is answered alike, whatever the block. -/
structure World.SameAnswers (host : Host) (world other : World) : Prop where
  token : Cw20Token.SameAnswers host.api world.token other.token
  staking : Staking.SameAnswers host.api world.staking other.staking

variable {host : Host} {world other : World}

theorem World.Alike.sameAnswers (alike : world.Alike host.api.Accepts 0 other) : world.SameAnswers host other :=
  ⟨alike.token.sameAnswers, alike.staking.sameAnswers⟩

theorem World.SameAnswers.alike (same : world.SameAnswers host other) (dated : Dated world.staking)
    (otherDated : Dated other.staking) : world.Alike host.api.Accepts 0 other :=
  ⟨Cw20Token.alike_of_sameAnswers same.token, Staking.alike_of_sameAnswers same.staking dated otherDated⟩

/-- Histories after the first second of the clock. -/
def Begun (tx : Tx) : Prop := tx.block.time.seconds.toNat ≠ 0

instance decidableBegun (tx : Tx) : Decidable (Begun tx) := inferInstanceAs (Decidable (_ ≠ _))

theorem run_dated (launched : Launched host world) {txs : List Tx} (begun : ∀ tx ∈ txs, Begun tx) :
    Dated ((system host).run world txs).staking := by
  refine Machine.run_invariant _ (motive := fun state : World => Dated state.staking) Begun ?_ ?_ begun
  · intro before tx after response dated first commits
    cases asked : tx.msg with
    | token msg =>
      rw [exec_token asked] at commits
      rw [commits.2]
      exact dated
    | staking msg =>
      rw [exec_staking asked] at commits
      exact effect_dated (execute_effect commits.1) dated first
  · intro user entry present
    obtain ⟨msg, out, made, _⟩ := launched.staking
    rw [(instantiate_empty made).1, Map.mayLoad_empty] at present
    cases present

/-- With no clock running yet, a world is alike to itself at any shift. -/
theorem launched_alike (launched : Launched host world) (Known : Addr → Prop) (shift : Nat) :
    world.Alike Known shift world := by
  obtain ⟨msg, out, made, _⟩ := launched.staking
  refine ⟨⟨rfl, fun _ _ => rfl, fun _ _ => rfl⟩, ⟨rfl, rfl, rfl, fun user _ => ?_⟩⟩
  rw [(instantiate_empty made).1, Map.mayLoad_empty]
  exact .none

theorem resent_of_moved {Known : Addr → Prop} {shift : Nat} {txs txs' : List Tx}
    (moved : List.Forall₂ (Moved shift) txs txs') (known : ∀ tx ∈ txs, Known tx.sender) :
    List.Forall₂ (Resent Known shift) txs txs' := by
  induction moved with
  | nil => exact .nil
  | @cons tx tx' rest rest' first others ih =>
    obtain ⟨knownFirst, knownRest⟩ := List.forall_mem_cons.mp known
    exact .cons ⟨first, knownFirst⟩ (ih knownRest)

theorem resent_self {Known : Addr → Prop} {txs : List Tx} (known : ∀ tx ∈ txs, Known tx.sender) :
    List.Forall₂ (Resent Known 0) txs txs :=
  List.forall₂_same.mpr fun tx member => ⟨⟨rfl, rfl, fun _ => rfl, fun _ => rfl⟩, known tx member⟩

end Answers

/-- The same message a number of nanoseconds later. -/
def delay (nanos : Nat) (tx : Tx) : Tx :=
  { tx with block := { tx.block with time := ⟨word (tx.block.time.nanos.toNat + nanos)⟩ } }

theorem moved_map {shift : Nat} {move : Tx → Tx} {txs : List Tx} (each : ∀ tx ∈ txs, Moved shift tx (move tx)) :
    List.Forall₂ (Moved shift) txs (txs.map move) :=
  List.forall₂_map_right_iff.mpr (List.forall₂_same.mpr each)

/-- The queries tell everything. If two reachable worlds answer every query alike, then any
messages whatever come to the same in both, failures and all, and every query is again
answered alike afterwards. The host accepts the address of every sender and of the
staking contract. -/
theorem queries_tell_everything (host : Host) (ownKnown : host.Accepts host.staking) (world world' : World)
    (launched : Launched host world) (launched' : Launched host world') (txs txs' : List Tx)
    (begun : ∀ tx ∈ txs, Begun tx) (begun' : ∀ tx ∈ txs', Begun tx) (state other : World)
    (arrived : state = (system host).run world txs) (arrived' : other = (system host).run world' txs')
    (same : state.SameAnswers host other) (later : List Tx) (known : ∀ tx ∈ later, host.Accepts tx.sender) :
    outcomes (system host) state later = outcomes (system host) other later ∧
      ((system host).run state later).SameAnswers host ((system host).run other later) := by
  have dated : Dated state.staking := arrived ▸ run_dated launched begun
  have dated' : Dated other.staking := arrived' ▸ run_dated launched' begun'
  have accepted : ∀ text addr, host.api.addrValidate text = .ok addr → host.api.Accepts addr :=
    fun _ _ => Api.accepts_of_valid
  have resent : List.Forall₂ (Resent host.api.Accepts 0) later later := resent_self known
  obtain ⟨results, alike⟩ :=
    (system_inStep accepted ownKnown).run (same.alike dated dated') resent
  exact ⟨results, alike.sameAnswers⟩

/-- Fractions of a second show in no answer. -/
theorem sameAnswers_halfSecond :
    ((system testHost).run testWorld mixedHistory).SameAnswers testHost
      ((system testHost).run testWorld (mixedHistory.map (delay 500000000))) := by
  have accepted : ∀ text addr, testHost.api.addrValidate text = .ok addr → testHost.api.Accepts addr :=
    fun _ _ => Api.accepts_of_valid
  have moved : List.Forall₂ (Moved 0) mixedHistory (mixedHistory.map (delay 500000000)) :=
    moved_map (by decide)
  exact ((system_inStep accepted rfl).run (launched_alike testWorld_launched _ 0)
    (resent_of_moved moved fun _ _ => rfl)).2.sameAnswers

theorem queries_tell_everything_halfSecond :
    outcomes (system testHost) ((system testHost).run testWorld mixedHistory)
        [⟨Staking.blockAt 2592200, ⟨"user1"⟩, .staking .claimRewards⟩,
          ⟨Staking.blockAt 5184200, ⟨"user1"⟩, .staking (.unstake (word 40000))⟩] =
      outcomes (system testHost) ((system testHost).run testWorld (mixedHistory.map (delay 500000000)))
        [⟨Staking.blockAt 2592200, ⟨"user1"⟩, .staking .claimRewards⟩,
          ⟨Staking.blockAt 5184200, ⟨"user1"⟩, .staking (.unstake (word 40000))⟩] :=
  (queries_tell_everything testHost rfl testWorld testWorld testWorld_launched testWorld_launched
    mixedHistory (mixedHistory.map (delay 500000000)) (by decide) (by decide) _ _ rfl rfl
    sameAnswers_halfSecond _ (fun _ _ => rfl)).1

end CosmwasmContracts.System
