import SearchPlan.Proofs.Plan.Above

/-! Plans without their checkers, and those in which no checker stands below a cap. -/

namespace SearchPlan.Plan

variable {p p' : Plan} {q : Path} {i : Nat}

mutual

/-- The plan with checkers that let everything through. -/
def unchecked : Plan → Plan
  | .leaf s => .leaf s
  | .noop => .noop
  | .group mode first rest => .group mode first.unchecked (uncheckeds rest)
  | .priority required optional => .priority required.unchecked optional.unchecked
  | .timeout d p => .timeout d p.unchecked
  | .limit count hc p => .limit count hc p.unchecked
  | .filter _ p => .filter .allowAll p.unchecked

def uncheckeds : List Plan → List Plan
  | [] => []
  | p :: ps => p.unchecked :: uncheckeds ps

end

theorem uncheckeds_eq_map (ps : List Plan) : uncheckeds ps = ps.map unchecked := by
  induction ps with
  | nil => rfl
  | cons p ps ih => rw [uncheckeds, ih, List.map_cons]

@[simp] theorem children_unchecked (p : Plan) : p.unchecked.children = p.children.map unchecked := by
  cases p <;> simp [unchecked, children, uncheckeds_eq_map]

@[simp] theorem caps_unchecked (p : Plan) : p.unchecked.caps = p.caps := by
  cases p <;> rfl

theorem at?_unchecked (q : Path) (p : Plan) : p.unchecked.at? q = (p.at? q).map unchecked := by
  induction q generalizing p with
  | nil => rfl
  | cons i q ih =>
    rw [at?, at?, children_unchecked, List.getElem?_map, Option.bind_map, Option.map_bind]
    exact Option.bind_congr fun b _ => ih b

theorem capsAbove_unchecked (q : Path) (p : Plan) : p.unchecked.capsAbove q = p.capsAbove q := by
  induction q generalizing p with
  | nil => rfl
  | cons i q ih =>
    rw [capsAbove, capsAbove, caps_unchecked, children_unchecked, List.getElem?_map, Option.map_map]
    congr 3
    exact funext ih

theorem unchecked_unchecked (p : Plan) : p.unchecked.unchecked = p.unchecked := by
  induction p with
  | group mode first rest ih ihs =>
    simp only [unchecked, uncheckeds_eq_map, ih, List.map_map, Plan.group.injEq, true_and]
    exact List.map_congr_left ihs
  | _ => simp_all [unchecked]

/-- Nothing is checked anywhere in the plan. -/
def Unfiltered (p : Plan) : Prop := ∀ q allows b, p.at? q ≠ some (.filter allows b)

/-- No checker stands below a cap. -/
def FiltersUncapped (p : Plan) : Prop :=
  ∀ q allows b, p.at? q = some (.filter allows b) → p.capsAbove q = 0

theorem Unfiltered.child (h : p.Unfiltered) (hp : p.children[i]? = some p') : p'.Unfiltered :=
  fun q allows b hq => h (i :: q) allows b (at?_cons_eq_some.2 ⟨p', hp, hq⟩)

theorem Unfiltered.lets (h : p.Unfiltered) : p.lets = .allowAll := by
  cases p with
  | filter allows b => exact absurd rfl (h [] allows b)
  | _ => rfl

theorem Unfiltered.allowed (h : p.Unfiltered) (q : Path) : p.allowed q = .allowAll := by
  induction q generalizing p with
  | nil => rfl
  | cons i q ih =>
    funext m
    rw [Plan.allowed, h.lets]
    cases hp : p.children[i]? with
    | none => rfl
    | some p' => simp [ih (h.child hp), Checker.allowAll]

theorem FiltersUncapped.child (h : p.FiltersUncapped) (hp : p.children[i]? = some p') :
    p'.FiltersUncapped := by
  intro q allows b hq
  have habove := h (i :: q) allows b (at?_cons_eq_some.2 ⟨p', hp, hq⟩)
  rw [capsAbove_cons hp] at habove
  exact (Nat.add_eq_zero_iff.1 habove).2

theorem FiltersUncapped.below (h : p.FiltersUncapped) (hcaps : p.caps ≠ 0)
    (hp : p.children[i]? = some p') : p'.Unfiltered := by
  intro q allows b hq
  have habove := h (i :: q) allows b (at?_cons_eq_some.2 ⟨p', hp, hq⟩)
  rw [capsAbove_cons hp] at habove
  exact hcaps (Nat.add_eq_zero_iff.1 habove).1

/-- Where the checkers stand does not depend on what they are. -/
theorem FiltersUncapped.congr (h : p.FiltersUncapped) (hp : p.unchecked = p'.unchecked) :
    p'.FiltersUncapped := by
  intro q allows b hq
  have hat : (p.at? q).map unchecked = some (.filter .allowAll b.unchecked) := by
    rw [← at?_unchecked, hp, at?_unchecked, hq]
    rfl
  obtain ⟨k, hk, heq⟩ := Option.map_eq_some_iff.1 hat
  cases k with
  | filter allows' b' =>
    rw [← capsAbove_unchecked, ← hp, capsAbove_unchecked]
    exact h q allows' b' hk
  | _ => cases heq

theorem Unfiltered.unchecked (h : p.Unfiltered) : p.unchecked = p := by
  induction p with
  | leaf s => rfl
  | noop => rfl
  | group mode first rest ih ihs =>
    have hrest : rest.map Plan.unchecked = rest.map id := by
      refine List.map_congr_left fun p hp => ?_
      obtain ⟨i, hi⟩ := List.mem_iff_getElem?.1 hp
      exact ihs p hp (h.child (i := i + 1) hi)
    rw [List.map_id] at hrest
    rw [Plan.unchecked, uncheckeds_eq_map, ih (h.child (i := 0) rfl), hrest]
  | priority r o ihr iho =>
    rw [Plan.unchecked, ihr (h.child (i := 0) rfl), iho (h.child (i := 1) rfl)]
  | timeout d p ih => rw [Plan.unchecked, ih (h.child (i := 0) rfl)]
  | limit count hc p ih => rw [Plan.unchecked, ih (h.child (i := 0) rfl)]
  | filter allows p => exact absurd rfl (h [] allows p)

end SearchPlan.Plan
