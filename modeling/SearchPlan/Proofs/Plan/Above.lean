import SearchPlan.Proofs.Node.Reach

/-! What stands on the way to a place in a plan: the caps, and the checkers that a match from there
has to pass. -/

namespace SearchPlan

namespace Plan

def caps : Plan → Nat
  | .limit _ _ _ => 1
  | _ => 0

def lets : Plan → Checker
  | .filter allows _ => allows
  | _ => .allowAll

def capsAbove : Path → Plan → Nat
  | [], _ => 0
  | i :: q, p => p.caps + ((p.children[i]?).map (capsAbove q)).getD 0

/-- The matches that every checker on the way to the path lets through. -/
def allowed : Path → Plan → Checker
  | [], _ => .allowAll
  | i :: q, p => fun m => p.lets m && ((p.children[i]?).map (allowed q)).getD .allowAll m

variable {p b : Plan} {i : Nat}

theorem capsAbove_cons (h : p.children[i]? = some b) (q : Path) :
    p.capsAbove (i :: q) = p.caps + b.capsAbove q := by
  simp [capsAbove, h]

theorem allowed_cons (h : p.children[i]? = some b) (q : Path) (m : Match) :
    p.allowed (i :: q) m = (p.lets m && b.allowed q m) := by
  simp [allowed, h]

theorem filter_allowed_nil (p : Plan) (xs : List Match) : xs.filter (p.allowed []) = xs :=
  Checker.filter_allowAll xs

/-- What gets past all the checkers gets past those below the outermost job, then past that. -/
theorem filter_allowed_cons (h : p.children[i]? = some b) (q : Path) (xs : List Match) :
    xs.filter (p.allowed (i :: q)) = (xs.filter (b.allowed q)).filter p.lets := by
  rw [List.filter_filter]
  exact List.filter_congr fun m _ => allowed_cons h q m

end Plan

namespace Node

variable {p : Plan} {n : Node}

theorem Does.cuts (h : Does p n) (hp : p.caps = 0) : n.cuts = false := by
  cases n with
  | limit => cases p <;> simp_all [Does, Plan.caps]
  | _ => rfl

theorem Does.lets (h : Does p n) : n.lets = p.lets := by
  cases n <;> cases p <;> simp_all [Does, Node.lets, Plan.lets]

end Node

end SearchPlan
