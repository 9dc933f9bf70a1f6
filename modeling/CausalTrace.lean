import CausalTrace.Message.Payload
import CausalTrace.Bus.Script.Document
import CausalTrace.Tracer
import CausalTrace.Writer.Office
import CausalTrace.Main
import CausalTrace.Proofs.Storage.Damage
import CausalTrace.Proofs.Storage.Refinement
import CausalTrace.Proofs.Storage.Canonical
import CausalTrace.Proofs.Writing.Integrity
import CausalTrace.Proofs.Writing.Crash
import CausalTrace.Proofs.Pipeline.Directory
import CausalTrace.Proofs.Pipeline.Drain
import CausalTrace.Proofs.Pipeline.Schedules
import CausalTrace.Proofs.Storage.Grammar
import CausalTrace.Proofs.Bus.Indifference
import CausalTrace.Proofs.Bus.SideBySide
import CausalTrace.Proofs.Bus.Scripts
import CausalTrace.Proofs.Bus.Tracing
import CausalTrace.Proofs.Bus.Descent
import CausalTrace.Proofs.Storage.Rounds
import CausalTrace.Proofs.Writing.Finality
import CausalTrace.Proofs.Bus.Alone
import CausalTrace.Proofs.Bus.RecordOrder
import CausalTrace.Proofs.Bus.Demands
import CausalTrace.Proofs.Bus.Hooking
import CausalTrace.Proofs.Pipeline.Lifecycle
import CausalTrace.Proofs.Pipeline.Sites
import CausalTrace.Proofs.Pipeline.Ledger
import CausalTrace.Proofs.Bus.Releases
import CausalTrace.Proofs.Inspect.Agreement
import CausalTrace.Proofs.Storage.Alterations
import CausalTrace.Proofs.Bus.Receivers
import CausalTrace.Proofs.Bus.Rotation
import CausalTrace.Proofs.Bus.Custody
import CausalTrace.Proofs.Bus.Replies
import CausalTrace.Proofs.Inspect.Walks
import CausalTrace.Proofs.Storage.Reopening
import CausalTrace.Proofs.Recording.Captures
import CausalTrace.Proofs.Bus.Registers
import CausalTrace.Proofs.Bus.Dispatches
import CausalTrace.Proofs.Message.ValueLists
import CausalTrace.Proofs.Pipeline.RunDirectories
import CausalTrace.Proofs.Cli.Listing
