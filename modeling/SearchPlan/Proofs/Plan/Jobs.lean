import Mathlib.Algebra.GroupWithZero.Nat
import SearchPlan.Plan.Sexp
import SearchPlan.Proofs.Node.Reach

/-! All the jobs of a plan, and how many there are of a kind. -/

namespace SearchPlan.Plan

mutual

/-- The jobs of a plan, each before those below it. -/
def jobs : Plan → List Plan
  | .leaf s => [.leaf s]
  | .noop => [.noop]
  | .group mode first rest => .group mode first rest :: (first.jobs ++ jobsAll rest)
  | .priority required optional => .priority required optional :: (required.jobs ++ optional.jobs)
  | .timeout d p => .timeout d p :: p.jobs
  | .limit count hc p => .limit count hc p :: p.jobs
  | .filter allows p => .filter allows p :: p.jobs

def jobsAll : List Plan → List Plan
  | [] => []
  | p :: ps => p.jobs ++ jobsAll ps

end

def isPriority : Plan → Bool
  | .priority _ _ => true
  | _ => false

/-- What is shown of a job besides its name and its branches. -/
def parameter? : Plan → Option String
  | .timeout d _ => some d.text
  | .limit count _ _ => some (toString count)
  | .filter _ _ => some checkLabel
  | _ => none

theorem jobsAll_eq_flatMap (ps : List Plan) : jobsAll ps = ps.flatMap jobs := by
  induction ps with
  | nil => rfl
  | cons p ps ih => rw [jobsAll, ih, List.flatMap_cons]

theorem jobs_eq (p : Plan) : p.jobs = p :: p.children.flatMap jobs := by
  cases p <;> simp [jobs, children, jobsAll_eq_flatMap]

/-- A job and the jobs below it are counted apart. -/
theorem countP_jobs (kind : Plan → Bool) (p : Plan) :
    p.jobs.countP kind = (kind p).toNat + (p.children.map fun b => b.jobs.countP kind).sum := by
  rw [jobs_eq, List.countP_cons, List.countP_flatMap, Nat.add_comm]
  cases kind p <;> rfl

theorem nodeCounts_eq_sum (ps : List Plan) : nodeCounts ps = (ps.map nodeCount).sum := by
  induction ps with
  | nil => rfl
  | cons p ps ih => rw [nodeCounts, ih, List.map_cons, List.sum_cons]

end SearchPlan.Plan
