import SearchPlan.Proofs.Forecast
import SearchPlan.Proofs.Node.Reach

/-! The scripts of a plan: how long the longest of them sleeps, and how many batches they send. -/

namespace SearchPlan.Plan

mutual

/-- The scripts of a plan from left to right. -/
def scripts : Plan → List Script
  | .leaf s => [s]
  | .noop => []
  | .group _ first rest => first.scripts ++ scriptsAll rest
  | .priority required optional => required.scripts ++ optional.scripts
  | .timeout _ p => p.scripts
  | .limit _ _ p => p.scripts
  | .filter _ p => p.scripts

def scriptsAll : List Plan → List Script
  | [] => []
  | p :: ps => p.scripts ++ scriptsAll ps

end

/-- The longest time that the sleeps of one script take together. -/
def longest (p : Plan) : Nat := (p.scripts.map fun s => Step.naps s.steps).foldr max 0

def batchCount (p : Plan) : Nat := (p.scripts.map (·.batches.length)).sum

variable {p : Plan} {s : Script} {q : Path}

theorem scriptsAll_eq_flatMap (ps : List Plan) : scriptsAll ps = ps.flatMap scripts := by
  induction ps with
  | nil => rfl
  | cons p ps ih => rw [scriptsAll, ih, List.flatMap_cons]

theorem scripts_eq_flatMap (h : p.children ≠ []) : p.scripts = p.children.flatMap scripts := by
  cases p with
  | leaf => exact absurd rfl h
  | noop => exact absurd rfl h
  | group => simp [scripts, children, scriptsAll_eq_flatMap]
  | _ => simp [scripts, children]

theorem mem_scripts_of_child {b : Plan} (hb : b ∈ p.children) (h : s ∈ b.scripts) :
    s ∈ p.scripts := by
  rw [scripts_eq_flatMap (List.ne_nil_of_mem hb)]
  exact List.mem_flatMap.2 ⟨b, hb, h⟩

theorem mem_scripts_of_at? (h : p.at? q = some (.leaf s)) : s ∈ p.scripts := by
  induction q generalizing p with
  | nil =>
    cases h
    exact List.mem_singleton_self s
  | cons i q ih =>
    obtain ⟨b, hb, h⟩ := at?_cons_eq_some.1 h
    exact mem_scripts_of_child (List.mem_of_getElem? hb) (ih h)

theorem naps_le_longest (h : s ∈ p.scripts) : Step.naps s.steps ≤ p.longest := by
  rw [longest]
  generalize p.scripts = ss at h
  induction ss with
  | nil => cases h
  | cons s' ss ih =>
    rw [List.map_cons, List.foldr_cons]
    rcases List.mem_cons.1 h with rfl | h
    · exact Nat.le_max_left _ _
    · exact Nat.le_trans (ih h) (Nat.le_max_right _ _)

theorem batchCount_eq_sum (h : p.children ≠ []) :
    p.batchCount = (p.children.map batchCount).sum := by
  rw [batchCount, scripts_eq_flatMap h]
  induction p.children with
  | nil => rfl
  | cons b bs ih => rw [List.flatMap_cons, List.map_append, List.sum_append, ih, List.map_cons,
      List.sum_cons, batchCount]

end SearchPlan.Plan
