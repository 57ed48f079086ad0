import SearchPlan.Run.Move

/-! A run of a plan: the running tree, the clock, the caller's token, and where the matches go.
`Run.step` says what each event does in a state in which it can happen, and nothing says which of the
events that can happen comes next: every order of them is a run. -/

namespace SearchPlan

/-- The reader of a channel. It waits before every read. -/
structure Reader where
  pause : Nat := 0
  /-- How many batches it still takes before it leaves; `none` if it stays to the end. -/
  wants : Option Nat := none
  /-- When its next read is due. -/
  due : Nat := 0
  seen : List Batch := []
  gone : Bool := false
  deriving DecidableEq

namespace Reader

/-- Nobody reads. -/
def absent : Reader := { gone := true }

def ofPause (pause : Duration) (wants : Option Nat) : Reader :=
  { pause := pause.millis, wants, due := pause.millis, gone := wants = some 0 }

/-- The reader after it has read `b`. -/
def read (r : Reader) (now : Nat) (b : Batch) : Reader :=
  let wants := r.wants.map (· - 1)
  { r with wants, due := now + r.pause, seen := r.seen ++ [b], gone := wants = some 0 }

def leave (r : Reader) : Reader := { r with gone := true }

end Reader

structure Run where
  now : Nat := 0
  /-- The caller's token. -/
  fired : Bool := false
  /-- When the caller fires the token. -/
  cancelAt : Option Nat := none
  tree : Node
  /-- A quota the caller has put around the outlet; it fires the caller's token. -/
  quota : Option Quota := none
  outlet : Outlet := .empty
  reader : Reader := .absent

inductive Event
  | move : Path → Move → Event
  | cancel
  | read
  | tick
  deriving DecidableEq

namespace Run

/-- What the root of the tree sees. -/
def context (r : Run) : Context :=
  let c : Context := ⟨r.now, r.fired, r.outlet.waits, r.outlet.granted⟩
  match r.quota with
  | some q => c.through q.fit
  | none => c

def outcome? (r : Run) : Option Outcome := r.tree.outcome?

def execution? (r : Run) : Option Execution := r.outcome?.map (·.execution r.tree.name)

/-- The run is over when the tree has ended and nobody reads any more. -/
def finished (r : Run) : Bool := r.outcome?.isSome && r.reader.gone

/-- The caller's quota, the flow past it, and whether it fires the token. -/
def pass (r : Run) (f : Flow) : Option Quota × Flow × Bool :=
  match r.quota with
  | some q =>
    let (q, f, stops) := q.pass f
    (some q, f, stops)
  | none => (none, f, false)

def move? (r : Run) (p : Path) (m : Move) : Option Run :=
  (r.tree.step m p r.context).map fun (tree, f) =>
    let (quota, f, stops) := r.pass f
    { r with tree, quota, outlet := r.outlet.accept p f, fired := r.fired || stops }

def cancel? (r : Run) : Option Run :=
  if !r.fired && r.cancelAt.any (· ≤ r.now) then some { r with fired := true } else none

/-- A read takes a batch or, at the end of the run, finds that there will be no more. -/
def read? (r : Run) : Option Run :=
  if r.reader.gone || r.now < r.reader.due then none
  else match r.outlet with
    | .collector _ => none
    | .channel c =>
      match c.read? with
      | some (b, c) =>
        let reader := r.reader.read r.now b
        some { r with reader, outlet := .channel (if reader.gone then c.close else c) }
      | none => if r.outcome?.isSome then some { r with reader := r.reader.leave } else none

/-- The next move of the tree. -/
def nextMove? (r : Run) : Option (Path × Move) := r.tree.next? r.context

/-- The times yet to come at which something is due. -/
def alarms (r : Run) : List Nat :=
  let read := if r.reader.gone then [] else [r.reader.due]
  let cancel := if r.fired then [] else r.cancelAt.toList
  (r.tree.alarms ++ read ++ cancel).filter (r.now < ·)

/-- When nothing else can happen, the clock goes to the next time at which something is due. -/
def tick? (r : Run) : Option Run :=
  if r.nextMove?.isSome || r.cancel?.isSome || r.read?.isSome then none
  else r.alarms.min?.map fun now => { r with now }

/-- The run after an event that can happen now. Nothing happens any more when the run is over. -/
def step (r : Run) (e : Event) : Option Run :=
  if r.finished then none
  else match e with
    | .move p m => r.move? p m
    | .cancel => r.cancel?
    | .read => r.read?
    | .tick => r.tick?

/-- The run after a list of events, if each of them can happen when its time has come. -/
def follow : List Event → Run → Option Run
  | [], r => some r
  | e :: es, r => (r.step e).bind (follow es)

theorem follow_append (es fs : List Event) (r : Run) :
    r.follow (es ++ fs) = (r.follow es).bind (follow fs) := by
  induction es generalizing r with
  | nil => rfl
  | cons e es ih =>
    simp only [List.cons_append, follow]
    cases r.step e with
    | none => rfl
    | some r => exact ih r

end Run

end SearchPlan
