import Foreman.Api
import Foreman.Main
import Foreman.Sql.Script
import Foreman.Proofs.Accounts
import Foreman.Proofs.Calendar
import Foreman.Proofs.Checkpoint.Concurrent
import Foreman.Proofs.Checkpoint.Ledger
import Foreman.Proofs.ControlPlane.Cascade
import Foreman.Proofs.ControlPlane.Interpreter
import Foreman.Proofs.ControlPlane.Settling
import Foreman.Proofs.Delivery
import Foreman.Proofs.Metrics.Listing
import Foreman.Proofs.Metrics.Totals
import Foreman.Proofs.RequestIdentity
import Foreman.Proofs.Runner.Cancellation
import Foreman.Proofs.Runner.Crash
import Foreman.Proofs.Runner.Dispatch
import Foreman.Proofs.Runner.Release
import Foreman.Proofs.Runner.Rota
import Foreman.Proofs.Runner.Scan
import Foreman.Proofs.Runner.Selection
import Foreman.Proofs.Runner.Starvation
import Foreman.Proofs.Slice.Failure
import Foreman.Proofs.Slice.History
import Foreman.Proofs.Slice.Record
import Foreman.Proofs.Sql.TaskRow
import Foreman.Proofs.Store.Lease
import Foreman.Proofs.Store.Listing
import Foreman.Proofs.Store.Persistence
import Foreman.Proofs.Task.Candidates
import Foreman.Proofs.ControlPlane.Validation
import Foreman.Proofs.ControlPlane.Provisioned
import Foreman.Proofs.Checkpoint.Guarded
import Foreman.Proofs.Reachability
