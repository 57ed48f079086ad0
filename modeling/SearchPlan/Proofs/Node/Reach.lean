import SearchPlan.Proofs.Node.History

/-! The trees that a plan can come to, in whatever world. Every node of such a tree is one that its
own part of the plan can come to, so what holds of them may be shown at the root alone. -/

namespace SearchPlan

variable {p p' : Plan} {n n' k : Node} {c : Context} {m : Move} {q r : Path} {f : Flow}

def Plan.at? : Path → Plan → Option Plan
  | [], p => some p
  | i :: q, p => p.children[i]?.bind (at? q)

theorem Plan.at?_cons_eq_some {i : Nat} : p.at? (i :: q) = some p' ↔
    ∃ b, p.children[i]? = some b ∧ b.at? q = some p' := by
  rw [at?, Option.bind_eq_some_iff]

@[elab_as_elim, induction_eliminator]
theorem Plan.induct {motive : Plan → Prop}
    (leaf : ∀ s, motive (.leaf s))
    (noop : motive .noop)
    (group : ∀ mode first rest, motive first → (∀ p ∈ rest, motive p) →
      motive (.group mode first rest))
    (priority : ∀ r o, motive r → motive o → motive (.priority r o))
    (timeout : ∀ d p, motive p → motive (.timeout d p))
    (limit : ∀ count h p, motive p → motive (.limit count h p))
    (filter : ∀ allows p, motive p → motive (.filter allows p)) (p : Plan) : motive p :=
  @Plan.rec motive (fun ps => ∀ p ∈ ps, motive p) leaf noop group priority timeout limit filter
    (fun _ h => nomatch h) (fun _ _ hp hps => List.forall_mem_cons.2 ⟨hp, hps⟩) p

/-- What holds of a plan if it holds of its branches holds of every plan. -/
@[elab_as_elim]
theorem Plan.child_induction {motive : Plan → Prop}
    (step : ∀ p : Plan, (∀ p' ∈ p.children, motive p') → motive p) (p : Plan) : motive p := by
  induction p with
  | leaf s => exact step _ nofun
  | noop => exact step _ nofun
  | group mode first rest ihf ihr => exact step _ (List.forall_mem_cons.2 ⟨ihf, ihr⟩)
  | priority r o ihr iho =>
    exact step _ (List.forall_mem_cons.2 ⟨ihr, List.forall_mem_singleton.2 iho⟩)
  | timeout d p ih => exact step _ (List.forall_mem_singleton.2 ih)
  | limit count hc p ih => exact step _ (List.forall_mem_singleton.2 ih)
  | filter allows p ih => exact step _ (List.forall_mem_singleton.2 ih)

namespace Node

def Does : Plan → Node → Prop
  | .leaf s, .leaf s' _ _ => s' = s
  | .noop, .noop _ => True
  | .group mode _ _, .group mode' _ _ => mode' = mode
  | .priority _ _, .priority _ _ _ => True
  | .timeout d _, .timeout d' _ _ _ => d' = d
  | .limit count _ _, .limit q _ _ _ => q.limit = count
  | .filter allows _, .filter allows' _ => allows' = allows
  | _, _ => False

theorem does_ofPlan (p : Plan) : Does p (ofPlan p) := by
  cases p <;> simp [Does, ofPlan]

theorem Moves.does (h : Moves m q c n n' f) (hp : Does p n) : Does p n' := by
  cases h with
  | limit h => cases p <;> simp_all [Does]
  | _ => cases p <;> simp_all [Does]

theorem Does.name (h : Does p n) : n.name = p.name := by
  cases n <;> cases p <;> simp_all [Does, Node.name, Plan.name]

theorem Does.timeout {d : Duration} (h : Does (.timeout d p) n) :
    ∃ b expired fired, n = .timeout d b expired fired := by
  cases n with
  | timeout d' b expired fired =>
    obtain rfl : d' = d := h
    exact ⟨b, expired, fired, rfl⟩
  | _ => cases h

theorem Does.limit {count : Nat} {hc : 0 < count} (h : Does (.limit count hc p) n) :
    ∃ quota b stopped fired, n = .limit quota b stopped fired ∧ quota.limit = count := by
  cases n with
  | limit quota b stopped fired => exact ⟨quota, b, stopped, fired, rfl, h⟩
  | _ => cases h

theorem ofPlans_eq_map (ps : List Plan) : ofPlans ps = ps.map ofPlan := by
  induction ps with
  | nil => rfl
  | cons p ps ih => rw [ofPlans, ih, List.map_cons]

theorem branches_ofPlan (p : Plan) : (ofPlan p).branches = p.children.map ofPlan := by
  cases p <;> simp [ofPlan, branches, Plan.children, ofPlans_eq_map]

theorem branch_ofPlan {i : Nat} (h : p.children[i]? = some p') :
    (ofPlan p).branches[i]? = some (ofPlan p') := by
  rw [branches_ofPlan, List.getElem?_map, h]
  rfl

theorem exists_plan_of_at? (h : (ofPlan p).at? q = some k) :
    ∃ p', p.at? q = some p' ∧ k = ofPlan p' := by
  induction q generalizing p with
  | nil =>
    cases h
    exact ⟨p, rfl, rfl⟩
  | cons i q ih =>
    obtain ⟨b, hb, h⟩ := at?_cons_eq_some.1 h
    rw [branches_ofPlan, List.getElem?_map, Option.map_eq_some_iff] at hb
    obtain ⟨p₁, hp₁, rfl⟩ := hb
    obtain ⟨p', hp', hk⟩ := ih h
    exact ⟨p', Plan.at?_cons_eq_some.2 ⟨p₁, hp₁, hp'⟩, hk⟩

theorem outcome?_ofPlan (p : Plan) : (ofPlan p).outcome? = none := by
  induction p with
  | leaf s => rfl
  | noop => rfl
  | group mode first rest ih => simp [ofPlan, outcome?, ended, ih]
  | priority r o ihr => simp [ofPlan, outcome?, ihr]
  | timeout d p ih => simp [ofPlan, outcome?, ih]
  | limit count h p ih => simp [ofPlan, outcome?, ih]
  | filter allows p ih => simpa [ofPlan, outcome?] using ih

/-- The plan can come to this. -/
def Reached (p : Plan) (n : Node) : Prop := ∃ ts, (ofPlan p).follow ts = some n

theorem Reached.induction {motive : Node → Prop} (start : motive (ofPlan p))
    (move : ∀ {c m q k k' f}, Reached p k → motive k → Moves m q c k k' f → motive k')
    (h : Reached p n) : motive n := by
  obtain ⟨ts, h⟩ := h
  exact follow_induction (motive := fun _ k => motive k) start
    (fun ts _ _ _ _ hk ih hm => move ⟨ts, hk⟩ ih hm) h

theorem Reached.move (h : Reached p n) (hm : Moves m q c n n' f) : Reached p n' := by
  obtain ⟨ts, h⟩ := h
  exact ⟨ts ++ [⟨c, q, m⟩], follow_concat h (meet_eq_some.2 hm)⟩

theorem Reached.does (h : Reached p n) : Does p n :=
  h.induction (does_ofPlan p) fun _ ih hm => hm.does ih

theorem name_ofPlan (p : Plan) : (ofPlan p).name = p.name := by
  cases p <;> rfl

theorem Reached.name (h : Reached p n) : n.name = p.name :=
  h.induction (name_ofPlan p) fun _ ih hm => hm.name.trans ih

theorem Reached.length_branches (h : Reached p n) : n.branches.length = p.children.length := by
  obtain ⟨ts, h⟩ := h
  rw [length_branches_of_follow h, branches_ofPlan, List.length_map]

theorem Reached.branch {i : Nat} (h : Reached p n) (hk : n.branches[i]? = some k) :
    ∃ p', p.children[i]? = some p' ∧ Reached p' k := by
  obtain ⟨ts, h⟩ := h
  obtain ⟨b, hb, hf⟩ := exists_follow_share h hk
  rw [branches_ofPlan, List.getElem?_map, Option.map_eq_some_iff] at hb
  obtain ⟨p', hp', rfl⟩ := hb
  exact ⟨p', hp', _, hf⟩

theorem Reached.timeout {d : Duration} (h : Reached (.timeout d p) n) :
    ∃ b expired fired, n = .timeout d b expired fired ∧ Reached p b := by
  obtain ⟨b, expired, fired, rfl⟩ := h.does.timeout
  obtain ⟨p', hp', hb⟩ := h.branch (i := 0) rfl
  cases hp'
  exact ⟨b, expired, fired, rfl, hb⟩

theorem Reached.limit {count : Nat} {hc : 0 < count} (h : Reached (.limit count hc p) n) :
    ∃ quota b stopped fired, n = .limit quota b stopped fired ∧ quota.limit = count ∧
      Reached p b := by
  obtain ⟨quota, b, stopped, fired, rfl, hlimit⟩ := h.does.limit
  obtain ⟨p', hp', hb⟩ := h.branch (i := 0) rfl
  cases hp'
  exact ⟨quota, b, stopped, fired, rfl, hlimit, hb⟩

theorem Reached.at? (h : Reached p n) (hk : n.at? q = some k) :
    ∃ p', p.at? q = some p' ∧ Reached p' k := by
  induction q generalizing p n with
  | nil => cases hk; exact ⟨p, rfl, h⟩
  | cons i q ih =>
    obtain ⟨b, hb, hk⟩ := at?_cons_eq_some.1 hk
    obtain ⟨p₁, hp₁, hr⟩ := h.branch hb
    obtain ⟨p', hp', hr'⟩ := ih hr hk
    exact ⟨p', Plan.at?_cons_eq_some.2 ⟨p₁, hp₁, hp'⟩, hr'⟩

end Node

end SearchPlan
