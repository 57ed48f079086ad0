/-! Lengths of time, exact to the nanosecond, and the whole milliseconds a clock of that
resolution takes to let one pass. -/

namespace SearchPlan

structure Duration where
  nanos : Nat
  deriving DecidableEq

namespace Duration

def ofMillis (n : Nat) : Duration := ⟨n * 1000000⟩

def ofSecs (n : Nat) : Duration := ⟨n * 1000000000⟩

def ofParts (secs nanos : Nat) : Duration := ⟨secs * 1000000000 + nanos⟩

def secs (d : Duration) : Nat := d.nanos / 1000000000

/-- The nanoseconds beyond the last whole second. -/
def subsec (d : Duration) : Nat := d.nanos % 1000000000

/-- The whole milliseconds after which `d` has passed: `d` rounded up. -/
def millis (d : Duration) : Nat := (d.nanos + 999999) / 1000000

@[simp] theorem millis_ofMillis (n : Nat) : (ofMillis n).millis = n := by
  simp only [millis, ofMillis]
  omega

theorem ofParts_secs_subsec (d : Duration) : ofParts d.secs d.subsec = d := by
  cases d
  simp only [ofParts, secs, subsec, mk.injEq]
  omega

end Duration

end SearchPlan
