import SearchPlan.Main
import SearchPlan.Json.Reader
import SearchPlan.Sink.Stack
import SearchPlan.Proofs.Alerts
import SearchPlan.Proofs.Truncation
import SearchPlan.Proofs.Completeness
import SearchPlan.Proofs.Punctuality
import SearchPlan.Proofs.Cancellation
import SearchPlan.Proofs.Failure
import SearchPlan.Proofs.Interleaving
import SearchPlan.Proofs.Interruption
import SearchPlan.Proofs.Node.Transit
import SearchPlan.Proofs.Capacity
import SearchPlan.Proofs.Cutoff
import SearchPlan.Proofs.Run.Lockstep
import SearchPlan.Proofs.Deadline
import SearchPlan.Proofs.Take
import SearchPlan.Proofs.Silence
import SearchPlan.Proofs.Containment
import SearchPlan.Proofs.Plan.Scripts
import SearchPlan.Proofs.Liveness
import SearchPlan.Proofs.Node.Unsent
import SearchPlan.Proofs.Run.Stream
import SearchPlan.Proofs.Agreement
import SearchPlan.Proofs.Run.Unfolds
import SearchPlan.Proofs.Backpressure
import SearchPlan.Proofs.Independence
import SearchPlan.Proofs.Potential
import SearchPlan.Proofs.Permissions
import SearchPlan.Proofs.Dormancy
import SearchPlan.Proofs.Reruns
import SearchPlan.Proofs.Plan.Sexp
import SearchPlan.Proofs.Sink.Stack
import SearchPlan.Proofs.Duration.Normal
import SearchPlan.Proofs.Plan.Jobs
import SearchPlan.Proofs.Plan.Layout
import SearchPlan.Proofs.Diagram.Lines
import SearchPlan.Proofs.Diagram.Tree
import SearchPlan.Proofs.Plan.Diagram
import SearchPlan.Proofs.Saturation
import SearchPlan.Proofs.DenyRules
import SearchPlan.Proofs.Run.Script
import SearchPlan.Proofs.Sink.Queue
import SearchPlan.Proofs.Collapse
import SearchPlan.Proofs.Json.Codec
import SearchPlan.Proofs.Settings.Environment
