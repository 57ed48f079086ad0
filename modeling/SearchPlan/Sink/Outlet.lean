import SearchPlan.Sink.Flow

/-! Where the matches of a search end up: a collector that keeps them, or a channel with room for
a number of batches, whose senders wait in line when it is full. Neither notices an empty batch. -/

namespace SearchPlan

/-- The way from the root of a plan to a node in it, by the positions of the branches. -/
abbrev Path := List Nat

structure Channel where
  capacity : Nat
  buffer : List Batch := []
  /-- The senders that wait and what they send, first come first. -/
  line : List (Path × Batch) := []
  /-- The reader is gone, and what is sent is lost. -/
  closed : Bool := false
  deriving DecidableEq

namespace Channel

/-- There is always room for one batch. -/
def ofCapacity (n : Nat) : Channel := { capacity := max n 1 }

def full (c : Channel) : Bool := c.capacity ≤ c.buffer.length

/-- Whether a sender of `b` has to wait. Nobody overtakes those in line. -/
def waits (c : Channel) (b : Batch) : Bool :=
  !b.isEmpty && !c.closed && (c.full || !c.line.isEmpty)

/-- Whether the sender at `p` need not wait any longer. -/
def granted (c : Channel) (p : Path) : Bool :=
  if c.closed then c.line.any (·.1 = p)
  else !c.full && c.line.head?.any (·.1 = p)

def send (c : Channel) (p : Path) (b : Batch) (waits : Bool) : Channel :=
  if waits then { c with line := c.line ++ [(p, b)] }
  else if b.isEmpty || c.closed then c
  else { c with buffer := c.buffer ++ [b] }

/-- The sender at `p` leaves the line, and its batch is buffered if there is still a reader. -/
def resume (c : Channel) (p : Path) : Channel :=
  if c.closed then { c with line := c.line.filter (·.1 ≠ p) }
  else match c.line with
    | [] => c
    | (_, b) :: line => { c with buffer := c.buffer ++ [b], line }

def read? (c : Channel) : Option (Batch × Channel) :=
  match c.buffer with
  | [] => none
  | b :: buffer => some (b, { c with buffer })

def close (c : Channel) : Channel := { c with closed := true, buffer := [] }

end Channel

inductive Outlet
  | collector : (held : List Batch) → Outlet
  | channel : Channel → Outlet
  deriving DecidableEq

namespace Outlet

def empty : Outlet := .collector []

/-- The batches a collector holds. -/
def held : Outlet → List Batch
  | .collector held => held
  | .channel _ => []

def waits : Outlet → Batch → Bool
  | .collector _, _ => false
  | .channel c, b => c.waits b

def granted : Outlet → Path → Bool
  | .collector _, _ => false
  | .channel c, p => c.granted p

def send (p : Path) (b : Batch) (waits : Bool) : Outlet → Outlet
  | .collector held => .collector (if b.isEmpty then held else held ++ [b])
  | .channel c => .channel (c.send p b waits)

def resume (p : Path) : Outlet → Outlet
  | .collector held => .collector held
  | .channel c => .channel (c.resume p)

/-- What a move of the sender at `p` does to the outlet. -/
def accept (o : Outlet) (p : Path) : Flow → Outlet
  | .quiet => o
  | .handed b waits => o.send p b waits
  | .resumed => o.resume p

def close : Outlet → Outlet
  | .collector held => .collector held
  | .channel c => .channel c.close

end Outlet

end SearchPlan
