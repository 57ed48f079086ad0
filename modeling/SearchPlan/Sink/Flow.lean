import SearchPlan.Match

/-! What passes from one sink to the one above it. -/

namespace SearchPlan

/-- What one move of a branch does to the sink above it. -/
inductive Flow
  | quiet
  /-- A batch was handed over; `waits` says whether its sender has to wait for room. -/
  | handed : (batch : Batch) → (waits : Bool) → Flow
  /-- A sender that had to wait goes on. -/
  | resumed
  deriving DecidableEq

/-- The flow past a checker: batches lose what `allows` denies, and an empty rest goes no further. -/
def Flow.filter (allows : Match → Bool) : Flow → Flow
  | .quiet => .quiet
  | .resumed => .resumed
  | .handed b waits =>
    match b.filter allows with
    | [] => .quiet
    | rest => .handed rest waits

end SearchPlan
