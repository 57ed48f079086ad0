import SearchPlan.Run.Node

/-! One move of a running plan. A move belongs to one node, found by its path: a script takes its
next step, a sleeping script notices that it was told to stop, or a deadline expires. Which of the
possible moves comes next is left open; `next?` picks the leftmost. -/

namespace SearchPlan

inductive Move
  | act
  | halt
  | expire
  deriving DecidableEq

/-- What a node sees of the world above it. -/
structure Context where
  now : Nat
  /-- Whether the token given to the node has fired. -/
  fired : Bool
  /-- Whether sending this batch now would make its sender wait. -/
  waits : Batch → Bool
  /-- Whether the waiting sender at this place below the node may go on. -/
  granted : Path → Bool

namespace Context

/-- What the branch at position `i` sees. -/
def branch (c : Context) (i : Nat) : Context := { c with granted := fun p => c.granted (i :: p) }

/-- A branch runs on a token of its own, which also fires with the token above it. -/
def scope (c : Context) (fired : Bool) : Context := { c with fired := c.fired || fired }

/-- What is seen below a sink that forwards `f b` in place of `b`, unless that is empty. -/
def through (c : Context) (f : Batch → Batch) : Context :=
  { c with waits := fun b => !(f b).isEmpty && c.waits (f b) }

end Context

namespace Phase

/-- The next move of a script. Its token is looked at before the start and before every step, and
the context tells whether a batch it sends has to wait. -/
def act (c : Context) (s : Script) (pr : Probe) : Phase → Option (Phase × Probe × Flow)
  | .idle => if c.fired then some (.skipped, pr, .quiet) else some (.running s.steps, pr.start, .quiet)
  | .running [] => some (.returned s.ending c.fired, pr, .quiet)
  | .running (step :: rest) =>
    if c.fired then some (.returned (.finished .partialSuccess) true, pr.stop, .quiet)
    else match step with
      | .sleep d =>
        if d.millis = 0 then some (.running rest, pr, .quiet)
        else some (.sleeping (c.now + d.millis) rest, pr, .quiet)
      | .emit b =>
        if c.waits b then some (.sending b.length rest, pr, .handed b true)
        else some (.running rest, pr.emit b.length, .handed b false)
  | .sleeping wakeAt rest => if wakeAt ≤ c.now then some (.running rest, pr, .quiet) else none
  | .sending size rest => if c.granted [] then some (.running rest, pr.emit size, .resumed) else none
  | .returned _ _ => none
  | .skipped => none

/-- A sleep ends at once when the token fires. -/
def halt (c : Context) (pr : Probe) : Phase → Option (Phase × Probe × Flow)
  | .sleeping _ _ =>
    if c.fired then some (.returned (.finished .partialSuccess) true, pr.stop, .quiet) else none
  | _ => none

def step (c : Context) (s : Script) (pr : Probe) (ph : Phase) : Move → Option (Phase × Probe × Flow)
  | .act => ph.act c s pr
  | .halt => ph.halt c pr
  | .expire => none

def next? (c : Context) : Phase → Option Move
  | .idle => some .act
  | .running _ => some .act
  | .sleeping wakeAt _ =>
    if wakeAt ≤ c.now then some .act else if c.fired then some .halt else none
  | .sending _ _ => if c.granted [] then some .act else none
  | .returned _ _ => none
  | .skipped => none

end Phase

namespace Node

mutual

/-- The leftmost possible move. A deadline expires only when its branch cannot move. -/
def next? (c : Context) : Node → Option (Path × Move)
  | .leaf _ ph _ => (ph.next? c).map ([], ·)
  | .noop seen => if seen then none else some ([], .act)
  | .group _ ns g => nextAt? (c.scope g.decision.isSome) 0 ns
  | .priority required optional dropped =>
    match required.next? (c.branch 0) with
    | some (p, m) => some (0 :: p, m)
    | none => (optional.next? ((c.scope dropped).branch 1)).map fun (p, m) => (1 :: p, m)
  | .timeout d n expired _ =>
    match n.next? ((c.scope expired).branch 0) with
    | some (p, m) => some (0 :: p, m)
    | none =>
      if !expired && n.outcome?.isNone && d.millis ≤ c.now then some ([], .expire) else none
  | .limit q n stopped _ =>
    (n.next? (((c.scope stopped).through q.fit).branch 0)).map fun (p, m) => (0 :: p, m)
  | .filter allows n =>
    (n.next? ((c.through (·.filter allows)).branch 0)).map fun (p, m) => (0 :: p, m)

def nextAt? (c : Context) (i : Nat) : List Node → Option (Path × Move)
  | [] => none
  | n :: ns =>
    match n.next? (c.branch i) with
    | some (p, m) => some (i :: p, m)
    | none => nextAt? c (i + 1) ns

end

mutual

/-- The tree after the move `m` of the node at a path, if that move is possible, and what the move
does to the sink above. A node above the moving one takes note of a branch that ends by it. -/
def step (m : Move) : Path → Context → Node → Option (Node × Flow)
  | [], c, .leaf s ph pr => (ph.step c s pr m).map fun (ph, pr, f) => (.leaf s ph pr, f)
  | [], _, .noop seen => if m = .act && !seen then some (.noop true, .quiet) else none
  | [], c, .timeout d n expired fired =>
    if m = .expire && !expired && n.outcome?.isNone && d.millis ≤ c.now
        && (n.next? ((c.scope expired).branch 0)).isNone then
      some (.timeout d n true fired, .quiet)
    else none
  | i :: p, c, .group mode ns g =>
    (stepAt m i p ((c.scope g.decision.isSome).branch i) ns).map fun (ns, f, o) =>
      (.group mode ns (match o with | some o => g.add mode o | none => g), f)
  | 0 :: p, c, .priority required optional dropped =>
    (required.step m p (c.branch 0)).map fun (required, f) =>
      (.priority required optional
        (dropped || required.outcome?.isSome && optional.outcome?.isNone), f)
  | 1 :: p, c, .priority required optional dropped =>
    (optional.step m p ((c.scope dropped).branch 1)).map fun (optional, f) =>
      (.priority required optional dropped, f)
  | 0 :: p, c, .timeout d n expired _ =>
    (n.step m p ((c.scope expired).branch 0)).map fun (n, f) =>
      (.timeout d n expired c.fired, f)
  | 0 :: p, c, .limit q n stopped _ =>
    (n.step m p (((c.scope stopped).through q.fit).branch 0)).map fun (n, f) =>
      let (q, f, stops) := q.pass f
      (.limit q n (stopped || stops) c.fired, f)
  | 0 :: p, c, .filter allows n =>
    (n.step m p ((c.through (·.filter allows)).branch 0)).map fun (n, f) =>
      (.filter allows n, f.filter allows)
  | _, _, _ => none

/-- The same for the branch at a position; the third part is its outcome if it has ended now. -/
def stepAt (m : Move) : Nat → Path → Context → List Node → Option (List Node × Flow × Option Outcome)
  | 0, p, c, n :: ns => (n.step m p c).map fun (n, f) => (n :: ns, f, n.outcome?)
  | i + 1, p, c, n :: ns => (stepAt m i p c ns).map fun (ns, f, o) => (n :: ns, f, o)
  | _, _, _, [] => none

end

mutual

/-- The times at which something becomes possible that now is not. -/
def alarms : Node → List Nat
  | .leaf _ (.sleeping wakeAt _) _ => [wakeAt]
  | .leaf _ _ _ => []
  | .noop _ => []
  | .group _ ns _ => alarmsAll ns
  | .priority required optional _ => required.alarms ++ optional.alarms
  | .timeout d n expired _ =>
    if expired || n.outcome?.isSome then n.alarms else d.millis :: n.alarms
  | .limit _ n _ _ => n.alarms
  | .filter _ n => n.alarms

def alarmsAll : List Node → List Nat
  | [] => []
  | n :: ns => n.alarms ++ alarmsAll ns

end

end Node

end SearchPlan
