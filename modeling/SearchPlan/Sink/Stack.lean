import SearchPlan.Sink.Outlet
import SearchPlan.Sink.Quota

/-! Quotas and checkers stacked on an outlet, used step by step and without a plan. Each quota has a
token of its own. A send that would have to wait is given up; what it reserved stays used. -/

namespace SearchPlan

inductive Layer
  | limit : Quota → (fired : Bool) → Layer
  | filter : Checker → Layer

structure Stack where
  /-- The layers, outermost first. -/
  layers : List Layer
  outlet : Outlet

namespace Stack

/-- Sends a batch through the layers. The last part says whether the send is over. -/
def sendThrough (b : Batch) (o : Outlet) : List Layer → List Layer × Outlet × Bool
  | [] => if o.waits b then ([], o, false) else ([], o.send [] b false, true)
  | .filter allows :: layers =>
    match b.filter allows with
    | [] => (.filter allows :: layers, o, true)
    | rest =>
      let (layers, o, sent) := sendThrough rest o layers
      (.filter allows :: layers, o, sent)
  | .limit q fired :: layers =>
    match q.fit b with
    | [] => (.limit (q.receive b) (fired || (q.receive b).reached) :: layers, o, true)
    | rest =>
      let (layers, o, sent) := sendThrough rest o layers
      (.limit (q.receive b) (fired || (sent && (q.receive b).reached)) :: layers, o, sent)

def send (s : Stack) (b : Batch) : Stack × Bool :=
  let (layers, outlet, sent) := sendThrough b s.outlet s.layers
  (⟨layers, outlet⟩, sent)

/-- Fires the token of the `i`-th quota. -/
def cancel (s : Stack) (i : Nat) : Stack :=
  { s with layers := go i s.layers }
where
  go : Nat → List Layer → List Layer
    | _, [] => []
    | 0, .limit q _ :: layers => .limit q true :: layers
    | i + 1, .limit q fired :: layers => .limit q fired :: go i layers
    | i, .filter allows :: layers => .filter allows :: go i layers

/-- Takes the next batch out of the channel, if there is one. -/
def read (s : Stack) : Stack × Option Batch :=
  match s.outlet with
  | .collector _ => (s, none)
  | .channel c =>
    match c.read? with
    | some (b, c) => ({ s with outlet := .channel c }, some b)
    | none => (s, none)

def close (s : Stack) : Stack := { s with outlet := s.outlet.close }

/-- For each quota whether it is reached, whether matches were lost, and whether its token fired. -/
def quotas (s : Stack) : List (Bool × Bool × Bool) :=
  s.layers.filterMap fun
    | .limit q fired => some (q.reached, q.truncated, fired)
    | .filter _ => none

end Stack

end SearchPlan
