import ResourceLocks.Backing
import ResourceLocks.Calendar.Date
import ResourceLocks.Calendar.Reader
import ResourceLocks.Calendar.Timestamp
import ResourceLocks.Config
import ResourceLocks.Config.Document
import ResourceLocks.Describe
import ResourceLocks.Duration
import ResourceLocks.Json.Basic
import ResourceLocks.Json.Forms
import ResourceLocks.Json.Reader
import ResourceLocks.Json.Writer
import ResourceLocks.Key
import ResourceLocks.Ledger.Basic
import ResourceLocks.Ledger.Holders
import ResourceLocks.Ledger.Owners
import ResourceLocks.LockError
import ResourceLocks.Protocol.Call
import ResourceLocks.Protocol.Describe
import ResourceLocks.Protocol.Layout
import ResourceLocks.Protocol.Registry
import ResourceLocks.Protocol.State
import ResourceLocks.Protocol.Step
import ResourceLocks.Protocol.TripWire
import ResourceLocks.ResourceSet
import ResourceLocks.Session.Basic
import ResourceLocks.Session.Command
import ResourceLocks.Session.Perform
import ResourceLocks.Session.Settle
import ResourceLocks.Status
import ResourceLocks.Stress
import ResourceLocks.Table
import ResourceLocks.Text.Blank
import ResourceLocks.Text.DefaultIgnorable
import ResourceLocks.Text.GraphemeExtend
import ResourceLocks.Text.Hexadecimal
import ResourceLocks.Text.Printable
import ResourceLocks.Text.Quoted
import ResourceLocks.Toml.Item
import ResourceLocks.Toml.Number
import ResourceLocks.Toml.Reader
import ResourceLocks.Toml.Text
import ResourceLocks.Proofs.Text.Runs
import ResourceLocks.Proofs.Ledger.Counting
import ResourceLocks.Proofs.Ledger.Undoing
import ResourceLocks.Proofs.Protocol.Effect
import ResourceLocks.Proofs.Protocol.Turn
import ResourceLocks.Proofs.Protocol.Standing
import ResourceLocks.Proofs.Protocol.Invariant
import ResourceLocks.Proofs.Protocol.Run
import ResourceLocks.Proofs.Protocol.Exclusion
import ResourceLocks.Proofs.Protocol.Accounting
import ResourceLocks.Proofs.Protocol.Failure
import ResourceLocks.Proofs.Protocol.Frame
import ResourceLocks.Proofs.Protocol.Waking
import ResourceLocks.Proofs.Protocol.Standstill
import ResourceLocks.Proofs.Protocol.MonitorOrder
import ResourceLocks.Proofs.Ledger.Likeness
import ResourceLocks.Proofs.Protocol.Backings
import ResourceLocks.Proofs.Protocol.Guards
import ResourceLocks.Proofs.Protocol.Interrupts
import ResourceLocks.Proofs.Protocol.Atomicity
import ResourceLocks.Proofs.Ledger.Totals
import ResourceLocks.Proofs.Protocol.Draining
import ResourceLocks.Proofs.Protocol.Reporting
import ResourceLocks.Proofs.Protocol.Acquisition
import ResourceLocks.Proofs.Protocol.CallsAgree
import ResourceLocks.Proofs.Protocol.Work
import ResourceLocks.Proofs.Protocol.Cascades
import ResourceLocks.Proofs.Protocol.Solo
import ResourceLocks.Proofs.Protocol.Courses
import ResourceLocks.Proofs.Protocol.Granting
import ResourceLocks.Proofs.Protocol.Introspection
import ResourceLocks.Proofs.Config.Interval
import ResourceLocks.Proofs.Calendar.DayCount
import ResourceLocks.Proofs.Calendar.RoundTrip
import ResourceLocks.Proofs.Toml.Lines
import ResourceLocks.Proofs.Config.RoundTrip
import ResourceLocks.Proofs.Json.RoundTrip
import ResourceLocks.Proofs.Json.Forms
import ResourceLocks.Proofs.Session.Providers
import ResourceLocks.Proofs.Protocol.Deadlines
import ResourceLocks.Proofs.Protocol.Commuting
import ResourceLocks.Proofs.Ledger.Multiset
import ResourceLocks.Proofs.ResourceSet.Canonical
import ResourceLocks.Proofs.Protocol.Isolation
import ResourceLocks.Proofs.Protocol.LogReplay
import ResourceLocks.Proofs.Protocol.Layouts
import ResourceLocks.Proofs.Session.Reachability
