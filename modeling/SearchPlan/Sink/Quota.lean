import SearchPlan.Sink.Flow

/-! A quota lets the first matches through, up to a count, and remembers how many came. -/

namespace SearchPlan

structure Quota where
  limit : Nat
  received : Nat := 0
  deriving DecidableEq

namespace Quota

/-- The part of a batch for which there is room. -/
def fit (q : Quota) (b : Batch) : Batch := b.take (q.limit - q.received)

def receive (q : Quota) (b : Batch) : Quota := { q with received := q.received + b.length }

def reached (q : Quota) : Bool := q.limit ≤ q.received

/-- Whether a match has been dropped for want of room. -/
def truncated (q : Quota) : Bool := q.limit < q.received

theorem length_fit (q : Quota) (b : Batch) :
    (q.fit b).length = min (q.limit - q.received) b.length := by
  simp [fit]

/-- The flow past a quota, and whether the quota stops its senders now. It does so when it is
reached and a send to it is over, not while the sender still waits. -/
def pass (q : Quota) : Flow → Quota × Flow × Bool
  | .quiet => (q, .quiet, false)
  | .resumed => (q, .resumed, q.reached)
  | .handed b waits =>
    let q' := q.receive b
    match q.fit b with
    | [] => (q', .quiet, q'.reached)
    | rest => (q', .handed rest waits, q'.reached && !waits)

end Quota

end SearchPlan
