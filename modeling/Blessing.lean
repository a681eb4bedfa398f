import Blessing.Backtest.CapturedRules
import Blessing.Backtest.Conservation
import Blessing.Backtest.Discipline
import Blessing.Backtest.Economic
import Blessing.Backtest.Evaluation
import Blessing.Backtest.EventDataset
import Blessing.Backtest.EventFiles
import Blessing.Backtest.Evidence
import Blessing.Backtest.Friction
import Blessing.Backtest.NoLookAhead
import Blessing.Backtest.Replay
import Blessing.Backtest.ReplayDepth
import Blessing.Backtest.Steps
import Blessing.Backtest.VisionRows
import Blessing.Backtest.WalkForward
import Blessing.Backtest.WalkForwardReplay
import Blessing.Binance.Account
import Blessing.Binance.AccountGate
import Blessing.Binance.Adapter
import Blessing.Binance.Authentication
import Blessing.Binance.DailyLoss
import Blessing.Binance.Emergency
import Blessing.Binance.FilterPayload
import Blessing.Binance.GateSoundness
import Blessing.Binance.KillSwitch
import Blessing.Binance.Ledger
import Blessing.Binance.Limits
import Blessing.Binance.Liquidation
import Blessing.Binance.LostResponse
import Blessing.Binance.MainnetReady
import Blessing.Binance.Models
import Blessing.Binance.OneTransmission
import Blessing.Binance.OrderGate
import Blessing.Binance.Orders
import Blessing.Binance.Passes
import Blessing.Binance.PositionMirror
import Blessing.Binance.Readiness
import Blessing.Binance.Reconciliation
import Blessing.Binance.Recovery
import Blessing.Binance.RestClient
import Blessing.Binance.StreamEvents
import Blessing.Binance.SymbolRules
import Blessing.Binance.Transport
import Blessing.ControlPlane.CloudGate
import Blessing.ControlPlane.Continuation
import Blessing.ControlPlane.MemoryStore
import Blessing.ControlPlane.OneTime
import Blessing.ControlPlane.Release
import Blessing.ControlPlane.ReleaseStore
import Blessing.ControlPlane.Roles
import Blessing.ControlPlane.StableJson
import Blessing.ControlPlane.Stranded
import Blessing.ControlPlane.Truthful
import Blessing.Engines.Allocation
import Blessing.Engines.Approval
import Blessing.Engines.Derisking
import Blessing.Engines.ExposureRecovery
import Blessing.Engines.Governor
import Blessing.Engines.GridStrategy
import Blessing.Engines.Intents
import Blessing.Launch.Accounting
import Blessing.Launch.Approvals
import Blessing.Launch.Lifecycle
import Blessing.Launch.OneOrder
import Blessing.Launch.Repository
import Blessing.Launch.Submission
import Blessing.Lease.Memory
import Blessing.Lease.Postgres
import Blessing.Lib.Bisect
import Blessing.Lib.Calendar
import Blessing.Lib.Collect
import Blessing.Lib.Coroutine
import Blessing.Lib.DateTime
import Blessing.Lib.Decimal
import Blessing.Lib.DecimalContext
import Blessing.Lib.Delimited
import Blessing.Lib.Effects
import Blessing.Lib.EventLoop
import Blessing.Lib.ExactSum
import Blessing.Lib.Handlers
import Blessing.Lib.History
import Blessing.Lib.JavaScript
import Blessing.Lib.Machine
import Blessing.Lib.Overlap
import Blessing.Lib.Regex
import Blessing.Lib.Rounding
import Blessing.Lib.Schema
import Blessing.Lib.Sql
import Blessing.Lib.Substitution
import Blessing.Lib.Table
import Blessing.Lib.Text
import Blessing.Lib.Values
import Blessing.Persistence.Backoff
import Blessing.Persistence.Columns
import Blessing.Persistence.ExactlyOnce
import Blessing.Persistence.FillIdentity
import Blessing.Persistence.FillRows
import Blessing.Persistence.Latest
import Blessing.Persistence.Load
import Blessing.Persistence.Outbox
import Blessing.Persistence.StaleRows
import Blessing.Persistence.Tables
import Blessing.Persistence.WriteQueue
import Blessing.Queue.Durability
import Blessing.Queue.Fencing
import Blessing.Queue.Fields
import Blessing.Queue.Jsonl
import Blessing.Queue.LastOwner
import Blessing.Queue.LogRows
import Blessing.Queue.Models
import Blessing.Queue.Ownership
import Blessing.Queue.Readback
import Blessing.Queue.Redaction
import Blessing.Queue.Refinement
import Blessing.Queue.Retry
import Blessing.Queue.Rows
import Blessing.Queue.Security
import Blessing.Queue.Service
import Blessing.Queue.Sqlite
import Blessing.Queue.Storage
import Blessing.Queue.Timestamps
import Blessing.Queue.Worker
import Blessing.Worker.Amendments
import Blessing.Worker.Control
import Blessing.Worker.GridDepth
import Blessing.Worker.NotionalClamp
import Blessing.Worker.Pause
import Blessing.Worker.Release
import Blessing.Worker.Switches
import Blessing.ControlPlane.QueryGuard
