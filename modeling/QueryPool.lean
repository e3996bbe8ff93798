import QueryPool.Batch
import QueryPool.Board
import QueryPool.Callback.Chain
import QueryPool.Callback.Processor
import QueryPool.Connection.Basic
import QueryPool.Connection.Calls
import QueryPool.Connection.Retry
import QueryPool.Connection.Transaction
import QueryPool.Decimal.Shortest
import QueryPool.Decimal.Style
import QueryPool.Duration
import QueryPool.Error
import QueryPool.Json.Basic
import QueryPool.Json.Lexer
import QueryPool.Json.Parser
import QueryPool.Json.Printer
import QueryPool.Keyed
import QueryPool.Login
import QueryPool.Options.Basic
import QueryPool.Options.CommandLine
import QueryPool.Options.Document
import QueryPool.Pool.Basic
import QueryPool.Pool.Callers
import QueryPool.Pool.Direct
import QueryPool.Pool.Lifecycle
import QueryPool.Pool.Queued
import QueryPool.Pool.Worker
import QueryPool.Rows
import QueryPool.Server.Basic
import QueryPool.Server.Session
import QueryPool.Slot
import QueryPool.Sqlite.Cell
import QueryPool.Sqlite.Failure
import QueryPool.Sqlite.Session
import QueryPool.Statement.Bound
import QueryPool.Statement.Placeholder
import QueryPool.Statement.Template
import QueryPool.Task
import QueryPool.Text.Blank
import QueryPool.Text.Digits
import QueryPool.Text.Escape
import QueryPool.Text.Quoted
import QueryPool.Text.Search
import QueryPool.Text.Shown
import QueryPool.Timestamp.Basic
import QueryPool.Timestamp.Text
import QueryPool.Value.Basic
import QueryPool.Value.Convert
import QueryPool.Value.Diagnostic
import QueryPool.Value.Views
import QueryPool.WorkQueue
import QueryPool.Proofs.Callback.Chain
import QueryPool.Proofs.Server.Calls
import QueryPool.Proofs.Server.Calm
import QueryPool.Proofs.Connection.Frame
import QueryPool.Proofs.Connection.Retry
import QueryPool.Proofs.Connection.Run
import QueryPool.Proofs.Connection.Idle
import QueryPool.Proofs.Connection.Visibility
import QueryPool.Proofs.Connection.Steady
import QueryPool.Proofs.Connection.Coherence
import QueryPool.Proofs.Connection.Table
import QueryPool.Proofs.Connection.Recovery
import QueryPool.Proofs.Pool.Ledger
import QueryPool.Proofs.Pool.Steps
import QueryPool.Proofs.Pool.Scene
import QueryPool.Proofs.Pool.Settlement
import QueryPool.Proofs.Pool.Closing
import QueryPool.Proofs.Pool.Opening
import QueryPool.Proofs.Pool.Staffing
import QueryPool.Proofs.Pool.Lifecycle
import QueryPool.Proofs.Pool.Callers
import QueryPool.Proofs.Pool.Fatals
import QueryPool.Proofs.Handoff
import QueryPool.Proofs.Task
import QueryPool.Proofs.WorkQueue
import QueryPool.Proofs.Timestamp
import QueryPool.Proofs.Json.Tree
import QueryPool.Proofs.Options
import QueryPool.Proofs.Value
import QueryPool.Proofs.Sqlite
import QueryPool.Proofs.Connection.Report
import QueryPool.Proofs.Connection.LeftOpen
import QueryPool.Proofs.Connection.FailedOpen
import QueryPool.Proofs.Connection.Tries
import QueryPool.Proofs.Connection.CommitErrors
import QueryPool.Proofs.Server.Contention
import QueryPool.Proofs.Connection.Contention
import QueryPool.Proofs.Connection.Accounts
import QueryPool.Proofs.Connection.Preparing
import QueryPool.Proofs.Connection.Binding
import QueryPool.Proofs.Escape
import QueryPool.Proofs.Batch
import QueryPool.Proofs.Login
import QueryPool.Proofs.Connection.Secrecy
import QueryPool.Proofs.Callback.Consumers
import QueryPool.Proofs.Callback.Processor
import QueryPool.Proofs.Rows
import QueryPool.Proofs.Server.Hall
import QueryPool.Proofs.Connection.RetryLoop
import QueryPool.Proofs.Sqlite.Failure
import QueryPool.Proofs.Statement.Mark
import QueryPool.Proofs.Duration
import QueryPool.Proofs.Server.Rules
