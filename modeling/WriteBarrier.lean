import WriteBarrier.PlainField
import WriteBarrier.Machine.Run
import WriteBarrier.Proofs.CardTable.Layout
import WriteBarrier.Proofs.CardTable.Drain
import WriteBarrier.Proofs.CardTable.Ranges
import WriteBarrier.Proofs.CardTable.Coverage
import WriteBarrier.Proofs.Registry.Cards
import WriteBarrier.Proofs.Registry.Recording
import WriteBarrier.Proofs.Machine.Noninterference
import WriteBarrier.Proofs.Machine.Notification
import WriteBarrier.Proofs.Log.Logger
import WriteBarrier.Proofs.Machine.Draining
import WriteBarrier.Proofs.Machine.Step
import WriteBarrier.Proofs.Machine.History
import WriteBarrier.Proofs.Memory.Frame
import WriteBarrier.Proofs.Storage.Reporting
import WriteBarrier.Proofs.Machine.Visibility
import WriteBarrier.Proofs.Counters
import WriteBarrier.Proofs.Machine.Counting
import WriteBarrier.Proofs.Memory.Words
import WriteBarrier.Proofs.Machine.Agreement
import WriteBarrier.Proofs.Machine.ArrayStore
import WriteBarrier.Proofs.Machine.Ordering
import WriteBarrier.Proofs.Machine.Conservation
import WriteBarrier.Proofs.Policy.Selection
import WriteBarrier.Proofs.Registry.Entries
import WriteBarrier.Proofs.Machine.Frame
import WriteBarrier.Proofs.Machine.Registration
import WriteBarrier.Proofs.Config.Validation
import WriteBarrier.Proofs.Machine.Unregistering
import WriteBarrier.Proofs.Machine.Configuration
import WriteBarrier.Proofs.Machine.Silence
import WriteBarrier.Proofs.Log.Forwarding
import WriteBarrier.Proofs.Machine.Fields
import WriteBarrier.Proofs.CardTable.Acceptance
import WriteBarrier.Proofs.Memory.Moving
import WriteBarrier.Proofs.Machine.RangeMarking
import WriteBarrier.Proofs.Policy.BulkReports
import WriteBarrier.Proofs.Machine.PolicyCopies
import WriteBarrier.Proofs.Machine.SliceMoves
import WriteBarrier.Proofs.Text.Numeral
import WriteBarrier.Proofs.Text.Json
import WriteBarrier.Proofs.Log.Lines
import WriteBarrier.Proofs.Log.Streams
import WriteBarrier.Proofs.Storage.TrackedReports
import WriteBarrier.Proofs.Machine.StorageRuns
import WriteBarrier.Proofs.Machine.TrackedRuns
import WriteBarrier.Proofs.Machine.Publication
import WriteBarrier.Proofs.Counters.Merging
import WriteBarrier.Proofs.Config.Environment
import WriteBarrier.Proofs.Machine.Starting
