import CosmwasmContracts.Library.CheckedWord
import CosmwasmContracts.Library.SignedWord
import CosmwasmContracts.Library.FiniteMap
import CosmwasmContracts.Library.TransactionMachine
import CosmwasmContracts.Library.Lockstep
import CosmwasmContracts.Library.Projection
import CosmwasmContracts.Library.Succession
import CosmwasmContracts.Library.TimedHistory
import CosmwasmContracts.Library.TokenLedger
import CosmwasmContracts.Library.LocalAction
import CosmwasmContracts.Library.RoundedShares
import CosmwasmContracts.CosmwasmStd
import CosmwasmContracts.CwOwnable
import CosmwasmContracts.CwOwnable.Succession
import CosmwasmContracts.Counter.Contract
import CosmwasmContracts.Counter.History
import CosmwasmContracts.Cw20Token.Contract
import CosmwasmContracts.Cw20Token.Refinement
import CosmwasmContracts.Cw20Token.Conservation
import CosmwasmContracts.Cw20Token.Outflow
import CosmwasmContracts.Cw20Token.Outcomes
import CosmwasmContracts.Cw20Token.Exactness
import CosmwasmContracts.Cw20Token.Reachability
import CosmwasmContracts.Cw20Token.EventLog
import CosmwasmContracts.Cw20Token.Alike
import CosmwasmContracts.Cw20.Contract
import CosmwasmContracts.Cw20.Agreement
import CosmwasmContracts.Cw20.Equivalence
import CosmwasmContracts.Cw20.Inheritance
import CosmwasmContracts.Cw20.Holdings
import CosmwasmContracts.Staking.Contract
import CosmwasmContracts.Staking.Effects
import CosmwasmContracts.Staking.Bookkeeping
import CosmwasmContracts.Staking.RealStakes
import CosmwasmContracts.Staking.Payouts
import CosmwasmContracts.Staking.Splitting
import CosmwasmContracts.Staking.Windows
import CosmwasmContracts.Staking.Lockup
import CosmwasmContracts.Staking.RewardCap
import CosmwasmContracts.Staking.Reconfiguration
import CosmwasmContracts.Staking.Alike
import CosmwasmContracts.Staking.Isolation
import CosmwasmContracts.Staking.Governance
import CosmwasmContracts.Staking.EventLog
import CosmwasmContracts.Staking.Reachability
import CosmwasmContracts.System.Composition
import CosmwasmContracts.System.Invariants
import CosmwasmContracts.System.Accrual
import CosmwasmContracts.System.Settlement
import CosmwasmContracts.System.Issuance
import CosmwasmContracts.System.Solvency
import CosmwasmContracts.System.Withdrawal
import CosmwasmContracts.System.Health
import CosmwasmContracts.System.Observation
import CosmwasmContracts.System.Positions
import CosmwasmContracts.System.Operations
import CosmwasmContracts.System.EndToEnd
import CosmwasmContracts.System.Interchange
import CosmwasmContracts.System.Blocks
import CosmwasmContracts.System.Exit
import CosmwasmContracts.System.Bank
import CosmwasmContracts.System.Interest
import CosmwasmContracts.System.Wealth
import CosmwasmContracts.System.Stranded
