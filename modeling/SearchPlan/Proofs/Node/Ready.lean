import SearchPlan.Proofs.Node.Next
import SearchPlan.Proofs.Node.Outcome

/-! The trees that a run of a plan starts from. A plan may be run again, and then nothing but the
probes of its scripts remembers the earlier runs. -/

namespace SearchPlan.Node

/-- A run starts from a new tree, or from one that an earlier run has left and that is armed
again. -/
inductive Ready (p : Plan) : Node → Prop
  | first : Ready p (ofPlan p)
  | again : Ready p k → k.follow ts = some n → Ready p n.rearm

variable {p p' : Plan} {n n' : Node} {ts : List Moment} {i : Nat} {s : Script}

theorem rearms_eq_map (ns : List Node) : rearms ns = ns.map rearm := by
  induction ns with
  | nil => rfl
  | cons n ns ih => rw [rearms, ih, List.map_cons]

theorem branches_rearm (n : Node) : n.rearm.branches = n.branches.map rearm := by
  cases n <;> simp [rearm, branches, rearms_eq_map]

@[simp] theorem rearm_rearm (n : Node) : n.rearm.rearm = n.rearm := by
  induction n with
  | group mode ns g ih =>
    simp only [rearm, rearms_eq_map, List.map_map, group.injEq, true_and, and_true]
    exact List.map_congr_left ih
  | _ => simp_all [rearm]

theorem rearm_ofPlan (p : Plan) : (ofPlan p).rearm = ofPlan p := by
  induction p with
  | group mode first rest ih ihs =>
    simp only [ofPlan, rearm, rearms, ih, rearms_eq_map, ofPlans_eq_map, List.map_map, group.injEq,
      true_and, and_true, List.cons.injEq]
    exact List.map_congr_left ihs
  | _ => simp_all [ofPlan, rearm]

theorem Does.rearm (h : Does p n) : Does p n.rearm := by
  cases n <;> cases p <;> exact h

theorem does_of_follow (h : n.follow ts = some n') (hn : Does p n) : Does p n' :=
  follow_induction (motive := fun _ k => Does p k) hn (fun _ _ _ _ _ _ ih hm => hm.does ih) h

theorem Ready.does (h : Ready p n) : Does p n := by
  induction h with
  | first => exact does_ofPlan p
  | again _ hfollow ih => exact (does_of_follow hfollow ih).rearm

theorem Ready.leaf (h : Ready (.leaf s) n) : ∃ pr, n = .leaf s .idle pr := by
  cases h with
  | first => exact ⟨{}, rfl⟩
  | @again k ts n hk hfollow =>
    have hdoes := does_of_follow hfollow hk.does
    cases n <;> cases hdoes
    exact ⟨_, rfl⟩

/-- A branch of such a tree is one for its part of the plan. -/
theorem Ready.branch (h : Ready p n) (hp : p.children[i]? = some p') :
    ∃ b, n.branches[i]? = some b ∧ Ready p' b := by
  induction h with
  | first => exact ⟨ofPlan p', branch_ofPlan hp, .first⟩
  | again _ hfollow ih =>
    obtain ⟨b, hb, hready⟩ := ih
    obtain ⟨b', hb', hshare⟩ := follow_share hfollow hb
    exact ⟨b'.rearm, by rw [branches_rearm, List.getElem?_map, hb']; rfl, .again hready hshare⟩

theorem Ready.at? (h : Ready p n) (hp : p.at? q = some p') :
    ∃ k, n.at? q = some k ∧ Ready p' k := by
  induction q generalizing p n with
  | nil =>
    cases hp
    exact ⟨n, rfl, h⟩
  | cons i q ih =>
    obtain ⟨p₁, hp₁, hp⟩ := Plan.at?_cons_eq_some.1 hp
    obtain ⟨b, hb, hready⟩ := h.branch hp₁
    obtain ⟨k, hk, hk'⟩ := ih hready hp
    exact ⟨k, at?_cons_eq_some.2 ⟨b, hb, hk⟩, hk'⟩

theorem Ready.length_branches (h : Ready p n) : n.branches.length = p.children.length := by
  induction h with
  | first => rw [branches_ofPlan, List.length_map]
  | again _ hfollow ih =>
    rw [branches_rearm, List.length_map, length_branches_of_follow hfollow, ih]

theorem Ready.rearm_eq (h : Ready p n) : n.rearm = n := by
  cases h with
  | first => exact rearm_ofPlan p
  | again => exact rearm_rearm _

theorem Ready.plan_at? {k : Node} (h : Ready p n) (hk : n.at? q = some k) :
    ∃ p', p.at? q = some p' ∧ Ready p' k := by
  induction q generalizing p n with
  | nil =>
    cases hk
    exact ⟨p, rfl, h⟩
  | cons i q ih =>
    obtain ⟨b, hb, hk⟩ := at?_cons_eq_some.1 hk
    have hi := (List.getElem?_eq_some_iff.1 hb).1
    rw [h.length_branches] at hi
    obtain ⟨b', hb', hready⟩ := h.branch (List.getElem?_eq_getElem hi)
    obtain rfl : b' = b := Option.some.inj (hb'.symm.trans hb)
    obtain ⟨p', hp', hk'⟩ := ih hready hk
    exact ⟨p', Plan.at?_cons_eq_some.2 ⟨_, List.getElem?_eq_getElem hi, hp'⟩, hk'⟩

theorem Ready.idle {ph : Phase} {pr : Probe} (h : Ready p n) (hs : n.at? q = some (.leaf s ph pr)) :
    p.at? q = some (.leaf s) ∧ ph = .idle := by
  obtain ⟨p', hp, hready⟩ := h.plan_at? hs
  have hdoes := hready.does
  cases p' <;> cases hdoes
  cases hready.rearm_eq
  exact ⟨hp, rfl⟩

theorem Ready.not_waits (h : Ready p n) (q : Path) : ¬n.Waits q := by
  rintro ⟨s, size, rest, pr, hs⟩
  cases (h.idle hs).2

/-- Nothing has ended in such a tree. -/
theorem Ready.outcome?_eq_none (h : Ready p n) : n.outcome? = none := by
  induction p generalizing n with
  | leaf s =>
    obtain ⟨pr, rfl⟩ := h.leaf
    rfl
  | noop =>
    have hdoes := h.does
    have hrearm := h.rearm_eq
    cases n <;> cases hdoes
    cases hrearm
    rfl
  | group mode first rest ih =>
    obtain ⟨b, hb, hready⟩ := h.branch (i := 0) rfl
    exact open_of_branch hb (ih hready)
  | priority r o ih =>
    obtain ⟨b, hb, hready⟩ := h.branch (i := 0) rfl
    exact open_of_branch hb (ih hready)
  | timeout d p ih =>
    obtain ⟨b, hb, hready⟩ := h.branch (i := 0) rfl
    exact open_of_branch hb (ih hready)
  | limit count hc p ih =>
    obtain ⟨b, hb, hready⟩ := h.branch (i := 0) rfl
    exact open_of_branch hb (ih hready)
  | filter allows p ih =>
    obtain ⟨b, hb, hready⟩ := h.branch (i := 0) rfl
    exact open_of_branch hb (ih hready)

end SearchPlan.Node
