import CreditHedge.Application.Activations
import CreditHedge.Application.CoordinatorAgreement
import CreditHedge.Application.Coordinators
import CreditHedge.Application.DeploymentAcceptance
import CreditHedge.Application.EmergencyExecution
import CreditHedge.Application.EmergencyFills
import CreditHedge.Application.EntryAwaiting
import CreditHedge.Application.EntryFills
import CreditHedge.Application.EntryGate
import CreditHedge.Application.EntryProtection
import CreditHedge.Application.ExitCalls
import CreditHedge.Application.ExitCapacity
import CreditHedge.Application.ExitOrders
import CreditHedge.Application.ExitReconciliation
import CreditHedge.Application.ExitRecording
import CreditHedge.Application.ExitTasks
import CreditHedge.Application.ExitVenue
import CreditHedge.Application.JournalSnapshots
import CreditHedge.Application.KillSwitch
import CreditHedge.Application.LevelSubmissions
import CreditHedge.Application.LiveEntries
import CreditHedge.Application.MarketOrders
import CreditHedge.Application.OneLevelEntry
import CreditHedge.Application.OneLevelLifecycle
import CreditHedge.Application.OperatorCommands
import CreditHedge.Application.OptionBooks
import CreditHedge.Application.OptionExchange
import CreditHedge.Application.OptionSpreadEntry
import CreditHedge.Application.OptionSpreads
import CreditHedge.Application.Ports
import CreditHedge.Application.Process
import CreditHedge.Application.ProtectiveExits
import CreditHedge.Application.ReadOnlyReconciliation
import CreditHedge.Application.ReconciliationReports
import CreditHedge.Application.RecoveryAllocation
import CreditHedge.Application.RecoveryDebts
import CreditHedge.Application.RecoverySettlement
import CreditHedge.Application.SameLevelRecovery
import CreditHedge.Application.ShadowCharges
import CreditHedge.Application.ShadowMode
import CreditHedge.Application.ShadowPrediction
import CreditHedge.Application.SharedKillSwitch
import CreditHedge.Application.StartupOrders
import CreditHedge.Application.StartupReconciliation
import CreditHedge.Application.StartupReplay
import CreditHedge.Application.StartupSafety
import CreditHedge.Application.StopReplacement
import CreditHedge.Application.TriggerLoops
import CreditHedge.Application.TriggerStretches
import CreditHedge.Application.UnresolvedEntries
import CreditHedge.Backtesting.Historical
import CreditHedge.Backtesting.MarketPath
import CreditHedge.Backtesting.MonteCarlo
import CreditHedge.Backtesting.SimulatedExchange
import CreditHedge.Backtesting.SimulatedMoves
import CreditHedge.Backtesting.SimulatedOrders
import CreditHedge.Backtesting.SimulatedPositions
import CreditHedge.Backtesting.SimulatedReplay
import CreditHedge.Config.Deployment
import CreditHedge.Core.Accounting
import CreditHedge.Core.Accounts
import CreditHedge.Core.Compounding
import CreditHedge.Core.Conservation
import CreditHedge.Core.CreditSpread
import CreditHedge.Core.CrossingEngine
import CreditHedge.Core.CrossingOrder
import CreditHedge.Core.Crossings
import CreditHedge.Core.EventCounts
import CreditHedge.Core.FirstEntries
import CreditHedge.Core.Floor
import CreditHedge.Core.Frontier
import CreditHedge.Core.HedgeEngine
import CreditHedge.Core.Ladder
import CreditHedge.Core.Ledger
import CreditHedge.Core.Preservation
import CreditHedge.Core.RecoveryClaims
import CreditHedge.Core.Refinement
import CreditHedge.Core.Runs
import CreditHedge.Core.SampledMinimum
import CreditHedge.Core.Segments
import CreditHedge.Core.Soundness
import CreditHedge.Core.StopBudget
import CreditHedge.Core.Triggers
import CreditHedge.Core.VirtualLevels
import CreditHedge.Data.BybitOptions
import CreditHedge.Domain.ClientOrderIdText
import CreditHedge.Domain.ClientOrderIds
import CreditHedge.Domain.Control
import CreditHedge.Domain.ExchangeReports
import CreditHedge.Domain.Execution
import CreditHedge.Domain.ExitAccounting
import CreditHedge.Domain.InstrumentRules
import CreditHedge.Domain.Journal
import CreditHedge.Domain.LiveExecution
import CreditHedge.Domain.LiveOptionExecution
import CreditHedge.Domain.LiveRecovery
import CreditHedge.Domain.LocalOrderBook
import CreditHedge.Domain.MarketData
import CreditHedge.Domain.MarketDataHealth
import CreditHedge.Domain.MarketEvents
import CreditHedge.Domain.OperatorCommands
import CreditHedge.Domain.OptionPosition
import CreditHedge.Domain.ProtectedExecution
import CreditHedge.Domain.ProtectionLife
import CreditHedge.Domain.PutCreditSpread
import CreditHedge.Domain.Reconciliation
import CreditHedge.Domain.RecoveryPlanning
import CreditHedge.Domain.Risk
import CreditHedge.Domain.StepQuantisation
import CreditHedge.Domain.StopDebts
import CreditHedge.Failure
import CreditHedge.Infrastructure.BybitAgreement
import CreditHedge.Infrastructure.BybitPages
import CreditHedge.Infrastructure.BybitPayloads
import CreditHedge.Infrastructure.CanonicalJson
import CreditHedge.Infrastructure.Conversions
import CreditHedge.Infrastructure.ExecutionDatabase
import CreditHedge.Infrastructure.ExecutionRows
import CreditHedge.Infrastructure.FileDocuments
import CreditHedge.Infrastructure.KillSwitchFile
import CreditHedge.Infrastructure.MarketCapture
import CreditHedge.Infrastructure.OperatorCommandFile
import CreditHedge.Infrastructure.OptionSpreadStore
import CreditHedge.Infrastructure.OrderBookStream
import CreditHedge.Infrastructure.PrivateConnection
import CreditHedge.Infrastructure.PrivateEvents
import CreditHedge.Infrastructure.PrivateStream
import CreditHedge.Infrastructure.PublicStream
import CreditHedge.Infrastructure.ServerClock
import CreditHedge.Infrastructure.ShadowRecording
import CreditHedge.Infrastructure.SqliteExecutionStore
import CreditHedge.Infrastructure.SqliteJournalStore
import CreditHedge.Interfaces.DemoRunner
import CreditHedge.Interfaces.EmergencyAccounts
import CreditHedge.Interfaces.EmergencyBookings
import CreditHedge.Interfaces.MainnetShadow
import CreditHedge.Interfaces.OptionPairs
import CreditHedge.Interfaces.OptionRunner
import CreditHedge.Interfaces.ShadowRunner
import CreditHedge.Interfaces.SpreadPositions
import CreditHedge.Lib.Admission
import CreditHedge.Lib.AtomicFiles
import CreditHedge.Lib.AverageCost
import CreditHedge.Lib.Backoff
import CreditHedge.Lib.Calls
import CreditHedge.Lib.Clamping
import CreditHedge.Lib.ClockEstimates
import CreditHedge.Lib.Coroutines
import CreditHedge.Lib.Cursors
import CreditHedge.Lib.DecimalRounding
import CreditHedge.Lib.Dicts
import CreditHedge.Lib.Drains
import CreditHedge.Lib.Epochs
import CreditHedge.Lib.EventLog
import CreditHedge.Lib.FirstHits
import CreditHedge.Lib.Gates
import CreditHedge.Lib.Interruption
import CreditHedge.Lib.Keyed
import CreditHedge.Lib.KeyedOrder
import CreditHedge.Lib.Licences
import CreditHedge.Lib.Maintaining
import CreditHedge.Lib.Monitors
import CreditHedge.Lib.Repeats
import CreditHedge.Lib.RoundedShares
import CreditHedge.Lib.Rounding
import CreditHedge.Lib.SqlTables
import CreditHedge.Lib.Stateful
import CreditHedge.Lib.Table
import CreditHedge.Lib.Tallies
import CreditHedge.Lib.TextEnums
import CreditHedge.Lib.Transducers
import CreditHedge.Lib.WhileLoops
import CreditHedge.Visualization.Payload
