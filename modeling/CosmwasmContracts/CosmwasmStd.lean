import CosmwasmContracts.Library.CheckedWord
import CosmwasmContracts.Library.FiniteMap
import CosmwasmContracts.Library.Lockstep

/-! The part of `cosmwasm_std`, `cw_storage_plus` and the `cw20` message crate that
the contracts use. A call returns, fails with the contract's own error, or panics;
a contract's storage is a value passed in and handed back. -/

namespace CosmwasmContracts.CosmwasmStd
open Library.CheckedWord Library.FiniteMap Library.Lockstep

abbrev Uint128 := Word 128

structure Addr where
  text : String
  deriving DecidableEq

/-- Block times are counted in nanoseconds. -/
structure Timestamp where
  nanos : Word 64
  deriving DecidableEq

def Timestamp.seconds (time : Timestamp) : Word 64 :=
  ⟨time.nanos.toNat / 1000000000, Nat.lt_of_le_of_lt (Nat.div_le_self _ _) time.nanos.fits⟩

theorem Timestamp.seconds_mono {first second : Timestamp}
    (ordered : first.nanos.toNat ≤ second.nanos.toNat) :
    first.seconds.toNat ≤ second.seconds.toNat := Nat.div_le_div_right ordered

structure BlockInfo where
  height : Word 64
  time : Timestamp
  deriving DecidableEq

structure Env where
  block : BlockInfo
  contractAddress : Addr

structure MessageInfo where
  sender : Addr

inductive OverflowOperation where
  | add | sub | mul
  deriving DecidableEq

inductive StdError where
  | genericErr (msg : String)
  | notFound (item key : String)
  | overflow (operation : OverflowOperation) (operand1 operand2 : String)
  deriving DecidableEq

inductive Failure (ContractError : Type) where
  | error (reason : ContractError)
  | panic
  deriving DecidableEq

abbrev Result (ContractError Value : Type) := Except (Failure ContractError) Value

section Results

variable {E E' A B : Type}

/-- The `?` operator's conversion into the caller's error type. -/
def into (convert : E → E') : Result E A → Result E' A
  | .ok value => .ok value
  | .error (.error reason) => .error (.error (convert reason))
  | .error .panic => .error .panic

def okOr (reason : E) : Option A → Result E A
  | some value => .ok value
  | none => .error (.error reason)

def unwrap : Option A → Result E A
  | some value => .ok value
  | none => .error .panic

@[simp] theorem into_eq_ok {convert : E → E'} {result : Result E A} {value : A} :
    into convert result = .ok value ↔ result = .ok value := by
  rcases result with (reason | _) | found <;> simp [into]

@[simp] theorem okOr_eq_ok {reason : E} {found : Option A} {value : A} :
    okOr reason found = .ok value ↔ found = some value := by
  cases found <;> simp [okOr]

@[simp] theorem unwrap_eq_ok {found : Option A} {value : A} :
    (unwrap found : Result E A) = .ok value ↔ found = some value := by
  cases found <;> simp [unwrap]

theorem bind_eq_ok {Reason : Type} {first : Except Reason A} {next : A → Except Reason B} {value : B} :
    (first >>= next) = .ok value ↔ ∃ middle, first = .ok middle ∧ next middle = .ok value := by
  cases first with
  | error reason =>
    constructor
    · intro impossible
      cases impossible
    · rintro ⟨middle, impossible, _⟩
      cases impossible
  | ok middle =>
    constructor
    · exact fun continues => ⟨middle, rfl, continues⟩
    · rintro ⟨other, same, continues⟩
      cases same
      exact continues

theorem bind_eq_error {Reason : Type} {first : Except Reason A} {next : A → Except Reason B}
    {reason : Reason} : (first >>= next) = .error reason ↔
      first = .error reason ∨ ∃ middle, first = .ok middle ∧ next middle = .error reason := by
  cases first with
  | error other =>
    constructor
    · intro fails
      cases fails
      exact Or.inl rfl
    · rintro (fails | ⟨middle, impossible, _⟩)
      · cases fails
        rfl
      · cases impossible
  | ok middle =>
    constructor
    · exact fun fails => Or.inr ⟨middle, rfl, fails⟩
    · rintro (impossible | ⟨other, same, fails⟩)
      · cases impossible
      · cases same
        exact fails

/-- Wrapping what a computation returns loses nothing, where the wrapper tells values apart. -/
theorem bind_ok_injective {Reason : Type} {wrap : A → B} (injective : ∀ value other, wrap value = wrap other → value = other)
    {first second : Except Reason A}
    (same : (first >>= fun value => .ok (wrap value)) = second >>= fun value => .ok (wrap value)) :
    first = second := by
  cases first with
  | error reason =>
    cases second with
    | error other => exact congrArg Except.error (Except.error.inj same)
    | ok value => cases same
  | ok value =>
    cases second with
    | error reason => cases same
    | ok other => exact congrArg Except.ok (injective _ _ (Except.ok.inj same))

/-- An unwrapped value panics or is there; it returns no error. -/
theorem unwrap_ne_error {found : Option A} {reason : E} :
    (unwrap found : Result E A) ≠ .error (.error reason) := by
  cases found <;> simp [unwrap]

theorem into_agree {A' : Type} {related : A → A' → Prop} {result : Result E A} {result' : Result E A'}
    (convert : E → E') (agree : Agree related result result') :
    Agree related (into convert result) (into convert result') := by
  cases agree with
  | ok holds => exact .ok holds
  | error reason => cases reason <;> exact .error _

/-- A guard returns its error exactly when its condition holds. -/
theorem guard_eq_ok {condition : Prop} [Decidable condition] {reason : E} {rest : Result E A} {value : A} :
    (if condition then .error (.error reason) else rest) = .ok value ↔
      ¬condition ∧ rest = .ok value := by
  by_cases holds : condition <;> simp [holds]

end Results

/-- Address validation by the host, which gives back the very address or an error. -/
structure Api where
  addrValidate : String → Result StdError Addr
  given : ∀ text addr, addrValidate text = .ok addr → addr = ⟨text⟩

/-- The addresses that validation gives back. -/
def Api.Accepts (api : Api) (addr : Addr) : Prop := api.addrValidate addr.text = .ok addr

theorem Api.accepts_of_valid {api : Api} {text : String} {addr : Addr}
    (valid : api.addrValidate text = .ok addr) : api.Accepts addr := by
  have given := api.given text addr valid
  subst given
  exact valid

/-- A host that accepts every address it is asked about. -/
def Api.accepting : Api where
  addrValidate := fun text => .ok ⟨text⟩
  given := by
    intro text addr valid
    cases valid
    rfl

/-- Balances and allowances that were never written read as the default, zero. -/
def unwrapOrDefault (stored : Option Uint128) : Uint128 := stored.getD Word.zero

@[simp] theorem unwrapOrDefault_toNat {Key : Type} [DecidableEq Key] (map : Map Key Uint128) (key : Key) :
    (unwrapOrDefault (map.mayLoad key)).toNat = Map.value Word.toNat map key := by
  unfold unwrapOrDefault Map.value
  cases map.mayLoad key <;> rfl

/-- `Map::update`: the new value is computed from the stored one and written back. -/
def update {Key Value Reason : Type} [DecidableEq Key] (map : Map Key Value) (key : Key)
    (action : Option Value → Result Reason Value) : Result Reason (Map Key Value) := do
  let value ← action (map.mayLoad key)
  return map.save key value

theorem update_eq_ok {Key Value Reason : Type} [DecidableEq Key] {map next : Map Key Value} {key : Key}
    {action : Option Value → Result Reason Value} :
    update map key action = .ok next ↔
      ∃ value, action (map.mayLoad key) = .ok value ∧ next = map.save key value := by
  unfold update
  rw [bind_eq_ok]
  simp only [pure, Except.pure, Except.ok.injEq, eq_comm]

/-- Values written at one key of two maps are related where the actions on it agree. -/
theorem update_agree {Key Value Reason : Type} [DecidableEq Key] {map map' : Map Key Value} {key : Key}
    {action action' : Option Value → Result Reason Value} {related : Value → Value → Prop}
    (agree : Agree related (action (map.mayLoad key)) (action' (map'.mayLoad key))) :
    Agree (fun next next' => ∃ value value', related value value' ∧
      next = map.save key value ∧ next' = map'.save key value')
      (update map key action) (update map' key action') :=
  agree.bind fun value value' holds => .ok ⟨value, value', holds, rfl, rfl⟩

/-- The `cw20` crate's messages that the staking contract sends. -/
inductive Cw20ExecuteMsg where
  | transfer (recipient : String) (amount : Uint128)
  | transferFrom (owner recipient : String) (amount : Uint128)
  | mint (recipient : String) (amount : Uint128)
  deriving DecidableEq

/-- `WasmMsg::Execute` without funds, its payload kept as the message it encodes. -/
structure CosmosMsg where
  contractAddr : String
  msg : Cw20ExecuteMsg
  deriving DecidableEq

structure Response where
  messages : List CosmosMsg
  attributes : List (String × String)
  deriving DecidableEq

namespace Response

def new : Response := ⟨[], []⟩

def addMessage (response : Response) (msg : CosmosMsg) : Response :=
  { response with messages := response.messages ++ [msg] }

def addMessages (response : Response) (msgs : List CosmosMsg) : Response :=
  { response with messages := response.messages ++ msgs }

def addAttribute (response : Response) (key value : String) : Response :=
  { response with attributes := response.attributes ++ [(key, value)] }

end Response

/-- The value of a key among the attributes of a response, empty where they do not have it. -/
def field (attributes : List (String × String)) (key : String) : String :=
  (attributes.lookup key).getD ""

/-- The number that a text spells in decimal. -/
def number (text : String) : Nat := Nat.ofDigitChars 10 text.toList 0

@[simp] theorem number_toString (amount : Nat) : number (toString amount) = amount := by
  rw [number, Nat.toString_eq_repr, Nat.toList_repr, Nat.ofDigitChars_ten_toDigits]

end CosmwasmContracts.CosmwasmStd
