import SearchPlan.Plan
import SearchPlan.Sink.Outlet
import SearchPlan.Sink.Quota

/-! A plan while it runs: the tree of its jobs, each with what it has come to. Every node of the
plan starts when the run does, and stays in the tree after it has ended. -/

namespace SearchPlan

/-- How far a scripted search has come. -/
inductive Phase
  | idle
  /-- About to take the next of the remaining steps, or to come back if there is none. -/
  | running : (rest : List Step) → Phase
  | sleeping : (wakeAt : Nat) → (rest : List Step) → Phase
  /-- Waiting for room for a batch of `size` matches. -/
  | sending : (size : Nat) → (rest : List Step) → Phase
  /-- The script came back; `fired` says whether its token had fired by then. -/
  | returned : Ending → (fired : Bool) → Phase
  /-- The token had fired before the script was started. -/
  | skipped
  deriving DecidableEq

def Phase.outcome? (name : String) : Phase → Option Outcome
  | .returned e fired => some (e.outcome name fired)
  | .skipped => some (.cancelled [])
  | _ => none

/-- What a group has gathered from the branches that have ended. -/
structure Gathered where
  alerts : List Alert := []
  /-- The statuses of the branches that were done before the group decided. -/
  statuses : List Status := []
  interrupted : Bool := false
  /-- The status that ended the group early. -/
  decision : Option Status := none
  deriving DecidableEq

/-- The status of one branch that decides for the whole group. -/
def Mode.decisive : Mode → Option Status
  | .and => some .failure
  | .or => some .success
  | .parallel => none

/-- The status of a group whose branches are all done, none of them decisive. -/
def Mode.verdict (statuses : List Status) : Mode → Status
  | .and => if .partialSuccess ∈ statuses then .partialSuccess else .success
  | .or => if .partialSuccess ∈ statuses then .partialSuccess else .failure
  | .parallel =>
    if statuses.all (· = .success) then .success
    else if statuses.any (·.isOk) then .partialSuccess
    else .failure

namespace Gathered

/-- Alerts are always kept. After the decision nothing else matters. -/
def add (mode : Mode) (g : Gathered) (o : Outcome) : Gathered :=
  let g := { g with alerts := g.alerts ++ o.alerts }
  if g.decision.isSome then g
  else match o with
    | .cancelled _ => { g with interrupted := true }
    | .done e =>
      if mode.decisive = some e.status then { g with decision := some e.status }
      else { g with statuses := g.statuses ++ [e.status] }

/-- The outcome of the group once all its branches have ended. -/
def outcome (mode : Mode) (g : Gathered) : Outcome :=
  match g.decision with
  | some status => .done ⟨status, g.alerts⟩
  | none =>
    if g.interrupted then .cancelled g.alerts
    else .done ⟨mode.verdict g.statuses, g.alerts⟩

end Gathered

inductive Node
  | leaf : Script → Phase → Probe → Node
  | noop : (seen : Bool) → Node
  | group : Mode → (branches : List Node) → Gathered → Node
  /-- `dropped`: the required branch ended first, so the optional one was told to stop. -/
  | priority : (required optional : Node) → (dropped : Bool) → Node
  /-- `fired`: the token given to the node had fired by the time the branch ended. -/
  | timeout : Duration → Node → (expired : Bool) → (fired : Bool) → Node
  /-- `stopped`: the quota told the branch to stop; `fired` is as for a timeout. -/
  | limit : Quota → Node → (stopped : Bool) → (fired : Bool) → Node
  | filter : Checker → Node → Node

namespace Node

def name : Node → String
  | .leaf s _ _ => s.name
  | .noop _ => "NoopJob"
  | .group mode _ _ => mode.keyword
  | .priority _ _ _ => "PRIORITY"
  | .timeout _ _ _ _ => "TIMEOUT"
  | .limit _ _ _ _ => "LIMIT"
  | .filter _ _ => "FILTER"

mutual

/-- A plan that has not been run yet. -/
def ofPlan : Plan → Node
  | .leaf s => .leaf s .idle {}
  | .noop => .noop false
  | .group mode first rest => .group mode (ofPlan first :: ofPlans rest) {}
  | .priority required optional => .priority (ofPlan required) (ofPlan optional) false
  | .timeout d p => .timeout d (ofPlan p) false false
  | .limit count _ p => .limit { limit := count } (ofPlan p) false false
  | .filter allows p => .filter allows (ofPlan p)

def ofPlans : List Plan → List Node
  | [] => []
  | p :: ps => ofPlan p :: ofPlans ps

end

mutual

/-- The same tree before another run; only the probes remember the earlier ones. -/
def rearm : Node → Node
  | .leaf s _ pr => .leaf s .idle pr
  | .noop _ => .noop false
  | .group mode ns _ => .group mode (rearms ns) {}
  | .priority required optional _ => .priority required.rearm optional.rearm false
  | .timeout d n _ _ => .timeout d n.rearm false false
  | .limit q n _ _ => .limit { limit := q.limit } n.rearm false false
  | .filter allows n => .filter allows n.rearm

def rearms : List Node → List Node
  | [] => []
  | n :: ns => n.rearm :: rearms ns

end

mutual

/-- The probes of the scripts, with their names, in the order of the plan. -/
def probes : Node → List (String × Probe)
  | .leaf s _ pr => [(s.name, pr)]
  | .noop _ => []
  | .group _ ns _ => probesAll ns
  | .priority required optional _ => required.probes ++ optional.probes
  | .timeout _ n _ _ => n.probes
  | .limit _ n _ _ => n.probes
  | .filter _ n => n.probes

def probesAll : List Node → List (String × Probe)
  | [] => []
  | n :: ns => n.probes ++ probesAll ns

end

/-- The outcome of a preference once both branches have ended. An optional branch that was not
told to stop and failed without saying why gets an alert of its own. -/
def preferred (optional : String) (dropped : Bool) : (required other : Outcome) → Outcome
  | .cancelled as, o => .cancelled (as ++ o.alerts)
  | .done e, o =>
    if dropped then .done ⟨e.status, e.alerts ++ o.alerts⟩
    else match o with
      | .cancelled _ => .done e
      | .done ⟨.failure, []⟩ =>
        .done ⟨e.status, e.alerts ++ [.branchFailed optional "optional branch failed"]⟩
      | .done best => .done ⟨e.status, e.alerts ++ best.alerts⟩

/-- The outcome of a branch under a deadline, once it has ended. -/
def timed (child : String) (after : Duration) (expired fired : Bool) (o : Outcome) : Outcome :=
  if !expired then o
  else if fired then .cancelled o.alerts
  else .done ⟨.partialSuccess, o.alerts ++ [.timeout child after]⟩

/-- The outcome of a branch under a quota, once it has ended. A branch that was through when it
reached the quota keeps its status unless matches were lost. -/
def capped (child : String) (q : Quota) (fired : Bool) (o : Outcome) : Outcome :=
  if !q.reached || fired then o
  else
    let status := match o with
      | .done e => if q.truncated && e.status = .success then .partialSuccess else e.status
      | .cancelled _ => .partialSuccess
    .done ⟨status, o.alerts ++ [.limitHit child q.limit]⟩

mutual

/-- What the node hands to the one above it, once every branch below it has ended. -/
def outcome? : Node → Option Outcome
  | .leaf s ph _ => ph.outcome? s.name
  | .noop seen => if seen then some (.done ⟨.success, []⟩) else none
  | .group mode ns g => if ended ns then some (g.outcome mode) else none
  | .priority required optional dropped =>
    match required.outcome?, optional.outcome? with
    | some r, some o => some (preferred optional.name dropped r o)
    | _, _ => none
  | .timeout d n expired fired => n.outcome?.map (timed n.name d expired fired)
  | .limit q n _ fired => n.outcome?.map (capped n.name q fired)
  | .filter _ n => n.outcome?

def ended : List Node → Bool
  | [] => true
  | n :: ns => n.outcome?.isSome && ended ns

end

end Node

end SearchPlan
