import CosmwasmContracts.Cw20Token.Outflow
import CosmwasmContracts.Staking.Payouts

/-! The staking contract composed with the token its configuration names. A message to
either contract is one transaction; the staking contract's sub-messages run at the
token within it, and any failure on the way reverts both contracts. -/

namespace CosmwasmContracts.System
open Library.CheckedWord Library.FiniteMap Library.TransactionMachine Library.TokenLedger
  CosmwasmStd CwOwnable

/-- The chain both contracts live on, and the addresses it gave them. -/
structure Host where
  api : Api
  ownable : Package
  staking : Addr
  token : Addr

structure World where
  token : Cw20Token.Storage
  staking : Staking.Storage

inductive Msg where
  | token (msg : Cw20Token.ExecuteMsg)
  | staking (msg : Staking.ExecuteMsg)
  deriving DecidableEq

structure Tx where
  block : BlockInfo
  sender : Addr
  msg : Msg
  deriving DecidableEq

inductive SystemError where
  | token (reason : Cw20Token.ContractError)
  | staking (reason : Staking.ContractError)
  | noSuchContract
  deriving DecidableEq

/-- The token reads the `cw20` crate's messages as its own of the same name. -/
def decode : Cw20ExecuteMsg → Cw20Token.ExecuteMsg
  | .transfer recipient amount => .transfer recipient amount
  | .transferFrom owner recipient amount => .transferFrom owner recipient amount
  | .mint recipient amount => .mint recipient amount

variable (host : Host)

/-- A sub-message as the token receives it, sent by the staking contract. -/
def tokenTx (message : CosmosMsg) : Cw20Token.Tx := ⟨host.staking, decode message.msg⟩

def deliverMsg (token : Cw20Token.Storage) (message : CosmosMsg) :
    Result SystemError Cw20Token.Storage :=
  if message.contractAddr ≠ host.token.text then .error (.error .noSuchContract)
  else do
    let result ← into .token ((Cw20Token.machine host.api).exec token (tokenTx host message))
    return result.1

/-- The sub-messages of a response, in order; the first failure fails them all. -/
def dispatch : Cw20Token.Storage → List CosmosMsg → Result SystemError Cw20Token.Storage
  | token, [] => .ok token
  | token, message :: rest => do
      let next ← deliverMsg host token message
      dispatch next rest

/-- The chain's step for a message to either contract. The token's own responses carry no
messages (`Cw20Token.execute_quiet`), so only the staking contract's are dispatched. -/
def system : Machine World Tx (Failure SystemError) Response where
  exec world tx :=
    match tx.msg with
    | .token msg => do
        let result ← into .token ((Cw20Token.machine host.api).exec world.token ⟨tx.sender, msg⟩)
        return ({ world with token := result.1 }, result.2)
    | .staking msg => do
        let result ← into .staking (Staking.execute host.api host.ownable world.staking
          ⟨tx.block, host.staking⟩ ⟨tx.sender⟩ msg)
        let token ← dispatch host world.token result.2.messages
        return ({ token := token, staking := result.1 }, result.2)

/-- Sent by anyone but the staking contract, whose own messages are its sub-messages. -/
def Tx.External (tx : Tx) : Prop := tx.sender ≠ host.staking

instance decidableExternal (tx : Tx) : Decidable (tx.External host) :=
  inferInstanceAs (Decidable (tx.sender ≠ host.staking))

/-- A ChangeConfig to the staking contract. -/
def Tx.Reconfigures (tx : Tx) : Prop :=
  match tx.msg with
  | .token _ => False
  | .staking msg => msg.ChangesConfig

instance decidableReconfigures : (tx : Tx) → Decidable tx.Reconfigures
  | ⟨_, _, .token _⟩ => .isFalse id
  | ⟨_, _, .staking msg⟩ => inferInstanceAs (Decidable msg.ChangesConfig)

theorem Tx.reconfigures_of {tx : Tx} {msg : Staking.ExecuteMsg} (asked : tx.msg = .staking msg)
    (changes : msg.ChangesConfig) : tx.Reconfigures := by
  rw [Tx.Reconfigures, asked]
  exact changes

/-- The world as the staking contract comes into it: a token with any history of its
own, and a fresh staking contract configured with that token. -/
structure Launched (world : World) : Prop where
  token : ∃ msg first response history,
    Cw20Token.instantiate host.api msg = .ok (first, response) ∧
      (∀ tx ∈ history, Cw20Token.Tx.sender tx ≠ host.staking) ∧
      world.token = (Cw20Token.machine host.api).run first history
  staking : ∃ msg response,
    Staking.instantiate host.api host.ownable msg = .ok (world.staking, response) ∧
      msg.tokenAddress = host.token.text

variable {host}

section Dispatch

variable {token next : Cw20Token.Storage}

theorem deliverMsg_eq_ok {message : CosmosMsg} : deliverMsg host token message = .ok next ↔
    message.contractAddr = host.token.text ∧
      ∃ out, (Cw20Token.machine host.api).exec token (tokenTx host message) = .ok (next, out) := by
  unfold deliverMsg
  rw [guard_eq_ok, not_not, bind_eq_ok]
  constructor
  · rintro ⟨addressed, ⟨after, out⟩, accepted, same⟩
    cases same
    exact ⟨addressed, out, into_eq_ok.mp accepted⟩
  · rintro ⟨addressed, out, accepted⟩
    exact ⟨addressed, (next, out), into_eq_ok.mpr accepted, rfl⟩

theorem dispatch_cons {message : CosmosMsg} {rest : List CosmosMsg} :
    dispatch host token (message :: rest) = .ok next ↔
      ∃ middle, deliverMsg host token message = .ok middle ∧ dispatch host middle rest = .ok next :=
  bind_eq_ok

theorem dispatch_append {first second : List CosmosMsg} :
    dispatch host token (first ++ second) = .ok next ↔
      ∃ middle, dispatch host token first = .ok middle ∧ dispatch host middle second = .ok next := by
  induction first generalizing token with
  | nil =>
    constructor
    · exact fun rest => ⟨token, rfl, rest⟩
    · rintro ⟨middle, same, rest⟩
      cases same
      exact rest
  | cons message others ih =>
    rw [List.cons_append, dispatch_cons]
    simp only [ih, dispatch_cons]
    constructor
    · rintro ⟨first, sent, middle, later, rest⟩
      exact ⟨middle, ⟨first, sent, later⟩, rest⟩
    · rintro ⟨middle, ⟨first, sent, later⟩, rest⟩
      exact ⟨first, sent, middle, later, rest⟩

/-- Sub-messages that all go through are a run of the token. -/
theorem dispatch_run {messages : List CosmosMsg} (sent : dispatch host token messages = .ok next) :
    (Cw20Token.machine host.api).run token (messages.map (tokenTx host)) = next := by
  induction messages generalizing token with
  | nil =>
    cases sent
    rfl
  | cons message rest ih =>
    obtain ⟨middle, first, later⟩ := dispatch_cons.mp sent
    obtain ⟨_, out, accepted⟩ := deliverMsg_eq_ok.mp first
    rw [List.map_cons, Machine.run_cons, Machine.deliver_ok _ accepted]
    exact ih later

end Dispatch

section Steps

variable {world next : World} {tx : Tx} {response : Response}

theorem exec_token {msg : Cw20Token.ExecuteMsg} (asked : tx.msg = .token msg) :
    (system host).exec world tx = .ok (next, response) ↔
      (Cw20Token.machine host.api).exec world.token ⟨tx.sender, msg⟩ = .ok (next.token, response) ∧
        next.staking = world.staking := by
  simp only [system, asked]
  rw [bind_eq_ok]
  constructor
  · rintro ⟨⟨after, out⟩, accepted, same⟩
    cases same
    exact ⟨into_eq_ok.mp accepted, rfl⟩
  · rintro ⟨accepted, same⟩
    refine ⟨(next.token, response), into_eq_ok.mpr accepted, ?_⟩
    rw [← same]
    rfl

theorem exec_staking {msg : Staking.ExecuteMsg} (asked : tx.msg = .staking msg) :
    (system host).exec world tx = .ok (next, response) ↔
      Staking.execute host.api host.ownable world.staking ⟨tx.block, host.staking⟩ ⟨tx.sender⟩ msg =
          .ok (next.staking, response) ∧
        dispatch host world.token response.messages = .ok next.token := by
  simp only [system, asked]
  rw [bind_eq_ok]
  constructor
  · rintro ⟨⟨after, out⟩, accepted, rest⟩
    obtain ⟨token, sent, same⟩ := bind_eq_ok.mp rest
    cases same
    exact ⟨into_eq_ok.mp accepted, sent⟩
  · rintro ⟨accepted, sent⟩
    exact ⟨(next.staking, response), into_eq_ok.mpr accepted, bind_eq_ok.mpr ⟨next.token, sent, rfl⟩⟩

end Steps

variable (host)

/-- What the token sees of the composed system. -/
def tokenSide : Simulation (system host) (Cw20Token.machine host.api) where
  view := World.token
  replay := fun _ tx response =>
    match tx.msg with
    | .token msg => [⟨tx.sender, msg⟩]
    | .staking _ => response.messages.map (tokenTx host)
  commits := by
    intro world tx next response commits
    cases asked : tx.msg with
    | token msg =>
      rw [exec_token asked] at commits
      exact Machine.deliver_ok _ commits.1
    | staking msg =>
      rw [exec_staking asked] at commits
      exact dispatch_run commits.2

theorem tokenSide_replay_token {world : World} {tx : Tx} {response : Response} {msg : Cw20Token.ExecuteMsg}
    (asked : tx.msg = .token msg) : (tokenSide host).replay world tx response = [⟨tx.sender, msg⟩] := by
  simp only [tokenSide, asked]

theorem tokenSide_replay_staking {world : World} {tx : Tx} {response : Response}
    {msg : Staking.ExecuteMsg} (asked : tx.msg = .staking msg) :
    (tokenSide host).replay world tx response = response.messages.map (tokenTx host) := by
  simp only [tokenSide, asked]

/-- What the staking contract sees of it: a transaction that commits has had all its
sub-messages go through. -/
def stakingSide :
    Simulation (system host) (Staking.machine host.api host.ownable host.staking) where
  view := World.staking
  replay := fun _ tx _ =>
    match tx.msg with
    | .token _ => []
    | .staking msg => [⟨tx.block, tx.sender, msg, true⟩]
  commits := by
    intro world tx next response commits
    cases asked : tx.msg with
    | token msg =>
      rw [exec_token asked] at commits
      exact commits.2.symm
    | staking msg =>
      rw [exec_staking asked] at commits
      have accepted : (Staking.machine host.api host.ownable host.staking).exec world.staking
          ⟨tx.block, tx.sender, msg, true⟩ = .ok (next.staking, response) := by
        simp only [Staking.machine, commits.1, if_true]
      exact Machine.deliver_ok _ accepted

def testHost : Host where
  api := Api.accepting
  ownable := Package.documented
  staking := ⟨"staking"⟩
  token := ⟨"token"⟩

/-- The token's own history: a holder with a billion tokens of eighteen decimals, who lets
the staking contract spend them, and the right to mint passed on to that contract. -/
def prelude : List Cw20Token.Tx :=
  [⟨⟨"owner"⟩, .mint "user1" (word 2000000000000000000000000000)⟩,
    ⟨⟨"user1"⟩, .approve "staking" (word 2000000000000000000000000000)⟩,
    ⟨⟨"user1"⟩, .transfer "staking" (word 5)⟩,
    ⟨⟨"owner"⟩, .updateMinter (some "staking")⟩]

def testWorld : World where
  token := (Cw20Token.machine Api.accepting).run Cw20Token.testToken prelude
  staking := Staking.testPool

theorem testWorld_launched : Launched testHost testWorld where
  token := ⟨Cw20Token.testMsg, Cw20Token.testToken, _, prelude, rfl, by decide, rfl⟩
  staking := ⟨Staking.testMsg, Staking.testResponse, rfl, rfl⟩

end CosmwasmContracts.System
