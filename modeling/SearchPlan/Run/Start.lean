import SearchPlan.Run.Schedule

/-! The ways to run a plan: into a collector that the caller looks at afterwards, or behind a
channel that the caller reads meanwhile. -/

namespace SearchPlan

/-- What the caller does to a run besides waiting for it. -/
structure Caller where
  /-- When it cancels the run; at 0 the token has fired before the run starts. -/
  cancelAt : Option Nat := none
  /-- After how many matches it cancels the run. -/
  cancelAfter : Option Nat := none
  deriving DecidableEq

/-- A channel with room for `buffer` batches and the caller's way of reading it. -/
structure Subscription where
  buffer : Nat
  pause : Duration := ⟨0⟩
  wants : Option Nat := none
  deriving DecidableEq

namespace Run

/-- A run into a collector. -/
def direct (tree : Node) (caller : Caller) : Run :=
  { tree
    fired := caller.cancelAt = some 0
    cancelAt := caller.cancelAt
    quota := caller.cancelAfter.map fun n => { limit := n } }

/-- A run into a channel. A reader that wants nothing is gone before the run starts. -/
def spawned (tree : Node) (caller : Caller) (sub : Subscription) : Run :=
  let reader := Reader.ofPause sub.pause sub.wants
  let channel := Channel.ofCapacity sub.buffer
  { direct tree caller with
    reader, outlet := .channel (if reader.gone then channel.close else channel) }

/-- A script run on its own, without a plan around it: nothing looks at the token before it starts. -/
def script (s : Script) (pr : Probe) (caller : Caller) : Run :=
  direct (.leaf s (.running s.steps) pr.start) caller

/-- What the script of such a run came back with. -/
def ending? (r : Run) : Option Ending :=
  match r.tree with
  | .leaf _ (.returned e _) _ => some e
  | _ => none

end Run

/-- The end of a direct run of a plan that has not been run before. -/
def Plan.run (p : Plan) (caller : Caller) : Run :=
  (Run.direct (.ofPlan p) caller).complete

def Plan.spawn (p : Plan) (caller : Caller) (sub : Subscription) : Run :=
  (Run.spawned (.ofPlan p) caller sub).complete

end SearchPlan
