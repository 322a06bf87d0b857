import DoubleEntry.Arithmetic
import DoubleEntry.Config.Layer
import DoubleEntry.Config.Path
import DoubleEntry.Config.Reader
import DoubleEntry.Config.Settings
import DoubleEntry.Config.Tree
import DoubleEntry.Config.VariableFile
import DoubleEntry.Decimal.Basic
import DoubleEntry.Decimal.Binary64
import DoubleEntry.Decimal.Sum
import DoubleEntry.Decimal.Text
import DoubleEntry.Error.Basic
import DoubleEntry.Error.Cause
import DoubleEntry.Error.Config
import DoubleEntry.Error.Database
import DoubleEntry.Json.Basic
import DoubleEntry.Json.Reader
import DoubleEntry.Json.Record
import DoubleEntry.Json.Writer
import DoubleEntry.Ledger.Account
import DoubleEntry.Ledger.Currency
import DoubleEntry.Ledger.Entry
import DoubleEntry.Ledger.Json
import DoubleEntry.Ledger.Page
import DoubleEntry.Ledger.Transaction
import DoubleEntry.Ledger.Transfer
import DoubleEntry.Log.Config
import DoubleEntry.Log.Directive
import DoubleEntry.Log.Event
import DoubleEntry.Log.Filter
import DoubleEntry.Log.Layout
import DoubleEntry.Log.Mask
import DoubleEntry.Log.Record
import DoubleEntry.Main
import DoubleEntry.Metrics
import DoubleEntry.Network.Address
import DoubleEntry.Network.Percent
import DoubleEntry.Network.Url
import DoubleEntry.Number
import DoubleEntry.Program
import DoubleEntry.Proofs.Decimal.Exact
import DoubleEntry.Proofs.Decimal.Rounding
import DoubleEntry.Proofs.Store.Locks
import DoubleEntry.Proofs.Store.Sessions
import DoubleEntry.Proofs.Store.Table
import DoubleEntry.Service.Account
import DoubleEntry.Service.Balance
import DoubleEntry.Service.CheckedTransfer
import DoubleEntry.Service.History
import DoubleEntry.Service.Transfer
import DoubleEntry.Service.UnitOfWork
import DoubleEntry.Simulation.Backend
import DoubleEntry.Simulation.Database
import DoubleEntry.Simulation.Fault
import DoubleEntry.Simulation.FixedEntries
import DoubleEntry.Simulation.Launch
import DoubleEntry.Simulation.Run
import DoubleEntry.Simulation.Scheduler
import DoubleEntry.Simulation.Step
import DoubleEntry.Simulation.Value
import DoubleEntry.Simulation.World
import DoubleEntry.Sql.Connection
import DoubleEntry.Sql.Endpoint
import DoubleEntry.Sql.Isolation
import DoubleEntry.Sql.Migration
import DoubleEntry.Sql.Numeric
import DoubleEntry.Sql.Row
import DoubleEntry.Sql.Statement
import DoubleEntry.Sql.Store
import DoubleEntry.Startup
import DoubleEntry.Store.LockTable
import DoubleEntry.Store.Memory
import DoubleEntry.Store.Request
import DoubleEntry.Store.Table
import DoubleEntry.Store.Tables
import DoubleEntry.Text.Alphanumeric
import DoubleEntry.Text.Blank
import DoubleEntry.Text.Cased
import DoubleEntry.Text.Digits
import DoubleEntry.Text.Lowercase
import DoubleEntry.Text.Natural
import DoubleEntry.Text.Quoted
import DoubleEntry.Text.Ranges
import DoubleEntry.Text.Utf8
import DoubleEntry.Text.Visible
import DoubleEntry.Time.Calendar
import DoubleEntry.Time.Duration
import DoubleEntry.Time.Reader
import DoubleEntry.Time.Timestamp
import DoubleEntry.Timed
import DoubleEntry.Proofs.Store.Deeds
import DoubleEntry.Proofs.Store.Desk
import DoubleEntry.Proofs.Store.Books
import DoubleEntry.Proofs.Store.Balances
import DoubleEntry.Proofs.Client.Conduct
import DoubleEntry.Proofs.Client.Traffic
import DoubleEntry.Proofs.Client.Coherence
import DoubleEntry.Proofs.Client.UnitOfWork
import DoubleEntry.Proofs.Transfer.Conduct
import DoubleEntry.Proofs.Store.Records
import DoubleEntry.Proofs.Transfer.Sessions
import DoubleEntry.Proofs.Transfer.DoubleEntry
import DoubleEntry.Proofs.Store.Presence
import DoubleEntry.Proofs.Client.Steps
import DoubleEntry.Proofs.Transfer.Atomicity
import DoubleEntry.Proofs.Client.Alone
import DoubleEntry.Proofs.Transfer.Course
import DoubleEntry.Proofs.Transfer.Serial
import DoubleEntry.Proofs.Store.Slots
import DoubleEntry.Proofs.Decimal.Value
import DoubleEntry.Proofs.Store.Kept
import DoubleEntry.Proofs.Store.Schema
import DoubleEntry.Proofs.Store.Guards
import DoubleEntry.Proofs.Store.Serve
import DoubleEntry.Proofs.Store.Leftovers
import DoubleEntry.Proofs.Store.Queue
import DoubleEntry.Proofs.Store.Upkeep
import DoubleEntry.Proofs.Client.LockOrder
import DoubleEntry.Proofs.Client.Tickets
import DoubleEntry.Proofs.Client.Waits
import DoubleEntry.Proofs.Transfer.Deadlock
import DoubleEntry.Proofs.Store.Growth
import DoubleEntry.Proofs.Store.References
import DoubleEntry.Proofs.Store.Deltas
import DoubleEntry.Proofs.Store.UncommittedWrites
import DoubleEntry.Proofs.Store.Prompt
import DoubleEntry.Proofs.Store.Isolation
import DoubleEntry.Proofs.Client.Contract
import DoubleEntry.Proofs.Sql.Dialogue
import DoubleEntry.Proofs.Transfer.Protocol
import DoubleEntry.Proofs.Client.Limits
import DoubleEntry.Proofs.Transfer.Currencies
import DoubleEntry.Proofs.History.Audit
import DoubleEntry.Proofs.Client.Answers
import DoubleEntry.Proofs.Transfer.Callers
import DoubleEntry.Proofs.Transfer.Counters
import DoubleEntry.Proofs.Store.Texts
import DoubleEntry.Proofs.Transfer.Outcome
import DoubleEntry.Proofs.Decimal.Text
import DoubleEntry.Proofs.Json.Record
import DoubleEntry.Proofs.Ledger.Json
import DoubleEntry.Proofs.Ledger.RoundTrip
import DoubleEntry.Proofs.History.Batches
import DoubleEntry.Proofs.Store.Refusals
import DoubleEntry.Proofs.Transfer.Checked
import DoubleEntry.Proofs.Client.Reliance
import DoubleEntry.Proofs.Transfer.Prospects
import DoubleEntry.Proofs.Transfer.Contention
import DoubleEntry.Proofs.Transfer.Admission
import DoubleEntry.Proofs.History.Pages
import DoubleEntry.Proofs.Store.HiddenAmounts
import DoubleEntry.Proofs.Store.AmountIndependence
import DoubleEntry.Proofs.Client.Knowledge
import DoubleEntry.Proofs.Client.AmountIndependence
import DoubleEntry.Proofs.Client.Scene
import DoubleEntry.Proofs.Transfer.Reports
import DoubleEntry.Proofs.Transfer.Disclosure
import DoubleEntry.Proofs.Decimal.Column
import DoubleEntry.Proofs.Ledger.Entry
import DoubleEntry.Proofs.Config.Tree
import DoubleEntry.Proofs.Config.Setting
import DoubleEntry.Proofs.Config.Layer
import DoubleEntry.Proofs.Config.Path
import DoubleEntry.Proofs.Config.Precedence
