import SearchPlan.Script

/-! Search plans: a tree of jobs over scripted searches. Groups have at least one branch and caps
are positive by their type, so every plan here is one that can be built. -/

namespace SearchPlan

/-- How a group of branches counts as one job: all of them must succeed, one of them must, or they
are independent. -/
inductive Mode
  | and
  | or
  | parallel
  deriving DecidableEq

def Mode.keyword : Mode → String
  | .and => "AND"
  | .or => "OR"
  | .parallel => "PARALLEL"

inductive Plan
  | leaf : Script → Plan
  | noop : Plan
  | group : Mode → (first : Plan) → (rest : List Plan) → Plan
  | priority : (required optional : Plan) → Plan
  | timeout : Duration → Plan → Plan
  | limit : (count : Nat) → 0 < count → Plan → Plan
  | filter : Checker → Plan → Plan

namespace Plan

/-- The name alerts and renderings use: a script's own name, or the keyword of the job. -/
def name : Plan → String
  | .leaf s => s.name
  | .noop => "NoopJob"
  | .group mode _ _ => mode.keyword
  | .priority _ _ => "PRIORITY"
  | .timeout _ _ => "TIMEOUT"
  | .limit _ _ _ => "LIMIT"
  | .filter _ _ => "FILTER"

/-- The branches of the outermost job, the required one before the optional one. -/
def children : Plan → List Plan
  | .leaf _ => []
  | .noop => []
  | .group _ first rest => first :: rest
  | .priority required optional => [required, optional]
  | .timeout _ p => [p]
  | .limit _ _ p => [p]
  | .filter _ p => [p]

def isCombinator : Plan → Bool
  | .leaf _ => false
  | .noop => false
  | _ => true

mutual

def nodeCount : Plan → Nat
  | .leaf _ => 1
  | .noop => 1
  | .group _ first rest => 1 + (first.nodeCount + nodeCounts rest)
  | .priority required optional => 1 + (required.nodeCount + optional.nodeCount)
  | .timeout _ p => 1 + p.nodeCount
  | .limit _ _ p => 1 + p.nodeCount
  | .filter _ p => 1 + p.nodeCount

def nodeCounts : List Plan → Nat
  | [] => 0
  | p :: ps => p.nodeCount + nodeCounts ps

end

mutual

/-- The number of terminals, jobs that have no branches. -/
def leafCount : Plan → Nat
  | .leaf _ => 1
  | .noop => 1
  | .group _ first rest => first.leafCount + leafCounts rest
  | .priority required optional => required.leafCount + optional.leafCount
  | .timeout _ p => p.leafCount
  | .limit _ _ p => p.leafCount
  | .filter _ p => p.leafCount

def leafCounts : List Plan → Nat
  | [] => 0
  | p :: ps => p.leafCount + leafCounts ps

end

theorem nodeCount_eq (p : Plan) : p.nodeCount = 1 + nodeCounts p.children := by
  cases p <;> simp [nodeCount, nodeCounts, children]

theorem leafCount_eq (p : Plan) :
    p.leafCount = if p.isCombinator then leafCounts p.children else 1 := by
  cases p <;> simp [leafCount, leafCounts, children, isCombinator]

/-- A group as a planner asks for it: nothing to do without branches, and a single branch stands
for itself. -/
def gather (mode : Mode) : List Plan → Plan
  | [] => .noop
  | [p] => p
  | first :: rest => .group mode first rest

/-- A group that stays one also around a single branch. -/
def gatherStrict (mode : Mode) : List Plan → Except PlanError Plan
  | [] => .error (.noChildren mode.keyword)
  | first :: rest => .ok (.group mode first rest)

def cap (count : Nat) (p : Plan) : Except PlanError Plan :=
  if h : 0 < count then .ok (.limit count h p) else .error .zeroLimit

end Plan

end SearchPlan
