import SearchPlan.Run

/-! How much a run may still have to do. No event adds to it and each takes some of it away, so it
bounds the number of events until the end. -/

namespace SearchPlan

/-- One if the time is still to come, for the tick that reaches it. -/
def Run.ahead (now time : Nat) : Nat := if now < time then 1 else 0

def Phase.work (now : Nat) (s : Script) : Phase → Nat
  | .idle => 4 * s.steps.length + 2
  | .running rest => 4 * rest.length + 1
  | .sleeping wakeAt rest => 4 * rest.length + 2 + Run.ahead now wakeAt
  | .sending _ rest => 4 * rest.length + 2
  | .returned _ _ => 0
  | .skipped => 0

namespace Node

mutual

def work (now : Nat) : Node → Nat
  | .leaf s ph _ => ph.work now s
  | .noop seen => if seen then 0 else 1
  | .group _ ns _ => workAll now ns
  | .priority required optional _ => required.work now + optional.work now
  | .timeout d n expired _ =>
    (if expired || n.outcome?.isSome then 0 else 1 + Run.ahead now d.millis) + n.work now
  | .limit _ n _ _ => n.work now
  | .filter _ n => n.work now

def workAll (now : Nat) : List Node → Nat
  | [] => 0
  | n :: ns => n.work now + workAll now ns

end

end Node

namespace Run

/-- The batches in a channel, those of waiting senders included. -/
def pending (r : Run) : Nat :=
  match r.outlet with
  | .collector _ => 0
  | .channel c => c.buffer.length + c.line.length

def work (r : Run) : Nat :=
  r.tree.work r.now
    + (if r.fired then 0 else match r.cancelAt with | some t => 1 + ahead r.now t | none => 0)
    + (if r.reader.gone then 0 else 1 + ahead r.now r.reader.due)
    + 2 * r.pending

end Run

end SearchPlan
