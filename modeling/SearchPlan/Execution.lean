import SearchPlan.Duration.Text

/-! How a search ended: its status, and the alerts raised on the way. -/

namespace SearchPlan

inductive Status
  /-- Everything asked for ran to its end. -/
  | success
  /-- There are results, but a branch was lost or the search was cut short. -/
  | partialSuccess
  | failure
  deriving DecidableEq

namespace Status

def isOk : Status → Bool
  | .failure => false
  | _ => true

def text : Status → String
  | .success => "success"
  | .partialSuccess => "partial_success"
  | .failure => "failure"

end Status

inductive AlertKind
  | timeout
  | limitHit
  | branchFailed
  | cancelled
  deriving DecidableEq

def AlertKind.text : AlertKind → String
  | .timeout => "timeout"
  | .limitHit => "limit_hit"
  | .branchFailed => "branch_failed"
  | .cancelled => "cancelled"

/-- A remark about the job named `job`. -/
structure Alert where
  kind : AlertKind
  job : String
  message : String
  deriving DecidableEq

namespace Alert

def timeout (job : String) (after : Duration) : Alert :=
  ⟨.timeout, job, s!"{job} timed out after {after.text}; results may be incomplete"⟩

def limitHit (job : String) (limit : Nat) : Alert :=
  ⟨.limitHit, job, s!"result limit of {limit} reached; more results may exist"⟩

def branchFailed (job reason : String) : Alert :=
  ⟨.branchFailed, job, reason⟩

def cancelled (job : String) : Alert :=
  ⟨.cancelled, job, "search was cancelled before it finished"⟩

end Alert

structure Execution where
  status : Status
  alerts : List Alert := []
  deriving DecidableEq

def Execution.hasAlert (e : Execution) (kind : AlertKind) : Bool :=
  e.alerts.any (·.kind = kind)

/-- What a branch hands to the node above it. It is `cancelled` only if its token fired before it
was through; the node that fired the token decides what this means. -/
inductive Outcome
  | done : Execution → Outcome
  | cancelled : List Alert → Outcome
  deriving DecidableEq

namespace Outcome

def alerts : Outcome → List Alert
  | .done e => e.alerts
  | .cancelled as => as

/-- What the caller of the whole search gets, `root` being the name of the outermost job. -/
def execution (root : String) : Outcome → Execution
  | .done e => e
  | .cancelled as => ⟨.partialSuccess, as ++ [.cancelled root]⟩

end Outcome

end SearchPlan
