import GpuSharing.Allocation
import GpuSharing.CommandLine.Command
import GpuSharing.CommandLine.Grammar
import GpuSharing.CommandLine.Options
import GpuSharing.CommandLine.Summary
import GpuSharing.CommandLine.Value
import GpuSharing.Decimal.Binary64
import GpuSharing.Decimal.Layout
import GpuSharing.Decimal.Reader
import GpuSharing.Decimal.Shortest
import GpuSharing.Discovery.Attributes
import GpuSharing.Discovery.Inventory
import GpuSharing.Discovery.NaturalOrder
import GpuSharing.Discovery.Report
import GpuSharing.Discovery.Source
import GpuSharing.Discovery.Tool
import GpuSharing.Discovery.ToolReport
import GpuSharing.Error
import GpuSharing.Fractional
import GpuSharing.Host.Command
import GpuSharing.Host.FileTree
import GpuSharing.Host.Rehearsal
import GpuSharing.Host.Script
import GpuSharing.Host.Tools
import GpuSharing.Isolation.Backend
import GpuSharing.Isolation.Command
import GpuSharing.Isolation.Kind
import GpuSharing.Isolation.Session
import GpuSharing.Json.Access
import GpuSharing.Json.Basic
import GpuSharing.Json.Codec
import GpuSharing.Json.Exact
import GpuSharing.Json.Number
import GpuSharing.Json.Reader
import GpuSharing.Json.Record
import GpuSharing.Json.Text
import GpuSharing.Json.Writer
import GpuSharing.Keyed
import GpuSharing.Ledger
import GpuSharing.Main
import GpuSharing.Memory
import GpuSharing.Partition.Allocator
import GpuSharing.Partition.Config
import GpuSharing.Partition.DieMap
import GpuSharing.Policy
import GpuSharing.Pool
import GpuSharing.Proofs.Fractional
import GpuSharing.Proofs.Holdings
import GpuSharing.Proofs.Ledger
import GpuSharing.Proofs.Partition.Allocator
import GpuSharing.Proofs.Partition.Device
import GpuSharing.Proofs.Partition.Dies
import GpuSharing.Proofs.Reservation.Beginning
import GpuSharing.Proofs.Reservation.Consent
import GpuSharing.Proofs.Reservation.Run
import GpuSharing.Proofs.Service.Books
import GpuSharing.Proofs.Service.DoubleBooking
import GpuSharing.Proofs.Service.Ownership
import GpuSharing.Proofs.Service.Run
import GpuSharing.Proofs.Turns.Device
import GpuSharing.Proofs.Turns.Scheduler
import GpuSharing.Registry
import GpuSharing.Request
import GpuSharing.Reservation.Basic
import GpuSharing.Reservation.Book
import GpuSharing.Reservation.Sweep
import GpuSharing.Selection
import GpuSharing.Service.Basic
import GpuSharing.Service.Booking
import GpuSharing.Service.Loops
import GpuSharing.Service.Node
import GpuSharing.Service.Release
import GpuSharing.Service.Sync
import GpuSharing.Share
import GpuSharing.Status
import GpuSharing.Text.Blank
import GpuSharing.Text.Fields
import GpuSharing.Time.Calendar
import GpuSharing.Time.Rfc3339
import GpuSharing.Time.Ticker
import GpuSharing.Time.Timestamp
import GpuSharing.Turns.Device
import GpuSharing.Turns.Scheduler
import GpuSharing.Usage
import GpuSharing.Workload
import GpuSharing.Yaml.Basic
import GpuSharing.Yaml.Cursor
import GpuSharing.Yaml.Reader
import GpuSharing.Yaml.Record
import GpuSharing.Yaml.Scalar
import GpuSharing.Proofs.Registry
import GpuSharing.Proofs.Service.Counts
import GpuSharing.Proofs.Isolation.Running
import GpuSharing.Proofs.Service.Sessions
import GpuSharing.Proofs.Reservation.Records
import GpuSharing.Proofs.Withdrawal
import GpuSharing.Proofs.Service.Stable
import GpuSharing.Proofs.Service.Synced
import GpuSharing.Proofs.Service.Refusal
import GpuSharing.Proofs.Service.Agreement
import GpuSharing.Proofs.Service.Interleaving
import GpuSharing.Proofs.Service.Ceiling
import GpuSharing.Proofs.Reservation.Caps
import GpuSharing.Proofs.Service.Shutdown
import GpuSharing.Proofs.Service.Totals
import GpuSharing.Proofs.Service.Wakeups
import GpuSharing.Proofs.Pruning
import GpuSharing.Proofs.Expiry
import GpuSharing.Proofs.Release
import GpuSharing.Proofs.Admission
import GpuSharing.Proofs.Turns.Rotation
import GpuSharing.Proofs.Turns.Line
import GpuSharing.Proofs.Turns.FirstCome
import GpuSharing.Proofs.Turns.Slices
import GpuSharing.Proofs.Share
import GpuSharing.Proofs.Reservation.Windows
import GpuSharing.Proofs.Reservation.Revision
import GpuSharing.Proofs.Reservation.DueQueue
import GpuSharing.Proofs.Reservation.Sweeps
import GpuSharing.Proofs.Reconciliation
import GpuSharing.Proofs.Discovery.Description
import GpuSharing.Proofs.Discovery.Fallback
import GpuSharing.Proofs.Discovery.Results
import GpuSharing.Proofs.Service.Rejection
import GpuSharing.Proofs.Discovery.Division
import GpuSharing.Proofs.Isolation.Effects
import GpuSharing.Proofs.Isolation.Protocol
import GpuSharing.Proofs.Selection.Choice
import GpuSharing.Proofs.Selection.Rotation
import GpuSharing.Proofs.Selection.Capable
import GpuSharing.Proofs.Service.Placement
import GpuSharing.Proofs.Service.Entry
import GpuSharing.Proofs.Service.Resync
import GpuSharing.Proofs.Availability
import GpuSharing.Proofs.Independence
import GpuSharing.Proofs.Freeing
import GpuSharing.Proofs.Service.Freeing
import GpuSharing.Proofs.Draining
import GpuSharing.Proofs.Partition.Tenure
import GpuSharing.Proofs.Discovery.ToolOutput
import GpuSharing.Proofs.Decimal.Digits
import GpuSharing.Proofs.Json.Text
import GpuSharing.Proofs.Json.Number
import GpuSharing.Proofs.Json.RoundTrip
import GpuSharing.Proofs.Naming
import GpuSharing.Proofs.Json.Record
import GpuSharing.Proofs.Time.Calendar
import GpuSharing.Proofs.Time.Rfc3339
import GpuSharing.Proofs.Allocation
