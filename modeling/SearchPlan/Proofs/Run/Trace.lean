import SearchPlan.Proofs.Node.Passage
import SearchPlan.Proofs.Run.Direct

/-! What happens in a run and when: its events with the states in which they happen, and the matches
that arrive by them. -/

namespace SearchPlan

/-- A collector does not look at who sends to it. -/
theorem Outlet.accept_collector (held : List Batch) (p q : Path) (f : Flow) :
    (collector held).accept p f = (collector held).accept q f := by
  cases f <;> rfl

theorem Outlet.held_accept (held : List Batch) (p : Path) (f : Flow) :
    ((collector held).accept p f).held.flatten = held.flatten ++ f.batch := by
  cases f with
  | handed b waits => cases b <;> simp [accept, send, Outlet.held, Flow.batch]
  | _ => simp [accept, resume, Outlet.held, Flow.batch]

/-- A collector does not see a quota that has room for what is sent. -/
theorem Outlet.accept_pass {quota : Quota} {f : Flow} (held : List Batch) (p : Path)
    (hroom : quota.received + f.batch.length ≤ quota.limit) :
    (collector held).accept p (quota.pass f).2.1 = (collector held).accept p f := by
  cases f with
  | handed b waits =>
    have hfit : quota.fit b = b := List.take_of_length_le (Nat.le_sub_of_add_le' hroom)
    cases b with
    | nil =>
      simp only [Quota.pass, hfit]
      rfl
    | cons x b => simp only [Quota.pass, hfit]
  | _ => rfl

namespace Run

variable {r r' k : Run} {e : Event} {es fs : List Event} {c : Nat} {x : Run × Event}

def trace : List Event → Run → List (Run × Event)
  | [], _ => []
  | e :: es, r =>
    match r.step e with
    | none => []
    | some r' => (r, e) :: trace es r'

/-- The events of a run that happen before `time`. -/
def before (time : Nat) (es : List Event) (r : Run) : List Event :=
  ((r.trace es).filter (·.1.now < time)).map (·.2)

/-- The matches that the outlet is given in an event. -/
def delivers (r : Run) : Event → List Match
  | .move p m =>
    match r.tree.step m p r.context with
    | some (_, f) => (r.pass f).2.1.batch
    | none => []
  | _ => []

/-- The matches that the outlet is given in a run, each with the time. -/
def arrivals (es : List Event) (r : Run) : List (Nat × Match) :=
  (r.trace es).flatMap fun (k, e) => (k.delivers e).map (k.now, ·)

theorem trace_cons (h : r.step e = some k) (es : List Event) :
    r.trace (e :: es) = (r, e) :: k.trace es := by
  simp only [trace, h]

theorem trace_append (h : r.follow es = some k) (fs : List Event) :
    r.trace (es ++ fs) = r.trace es ++ k.trace fs := by
  induction es generalizing r with
  | nil =>
    cases h
    rfl
  | cons e es ih =>
    obtain ⟨r₁, he, h⟩ := follow_cons_eq_some.1 h
    rw [List.cons_append, trace_cons he, trace_cons he, ih h, List.cons_append]

theorem Happens.now_le (h : Happens r e r') : r.now ≤ r'.now := by
  cases h with
  | tick _ _ _ ha =>
    have hmem := (List.mem_filter.1 (List.min?_mem ha)).2
    rw [decide_eq_true_eq] at hmem
    exact Nat.le_of_lt hmem
  | _ => exact Nat.le_refl _

theorem now_le_of_follow (h : r.follow es = some r') : r.now ≤ r'.now := by
  refine follow_induction (motive := fun k => r.now ≤ k.now) (Nat.le_refl _) ?_ h
  exact fun hle _ he => Nat.le_trans hle he.now_le

theorem now_le_of_mem_trace (hx : x ∈ r.trace es) : r.now ≤ x.1.now := by
  induction es generalizing r with
  | nil => cases hx
  | cons e es ih =>
    simp only [trace] at hx
    split at hx
    case h_1 => cases hx
    case h_2 k hk =>
      rcases List.mem_cons.1 hx with rfl | hx
      · exact Nat.le_refl _
      · exact Nat.le_trans (happens_of_step hk).2.now_le (ih hx)

theorem before_cons (h : r.step e = some k) (hnow : r.now < c) (es : List Event) :
    r.before c (e :: es) = e :: k.before c es := by
  rw [before, trace_cons h, List.filter_cons_of_pos (by simpa using hnow)]
  rfl

theorem before_eq_nil (hnow : c ≤ r.now) (es : List Event) : r.before c es = [] := by
  rw [before, List.map_eq_nil_iff, List.filter_eq_nil_iff]
  intro x hx
  have := now_le_of_mem_trace hx
  rw [decide_eq_true_eq]
  omega

theorem before_append (h : r.follow es = some k) (c : Nat) (fs : List Event) :
    r.before c (es ++ fs) = r.before c es ++ k.before c fs := by
  simp only [before, trace_append h, List.filter_append, List.map_append]

/-- What a run does before a time comes first in it. -/
theorem follow_before (h : r.follow es = some r') (c : Nat) :
    ∃ k fs, es = r.before c es ++ fs ∧ r.follow (r.before c es) = some k ∧ k.follow fs = some r' ∧
      (fs = [] ∨ c ≤ k.now) := by
  induction es generalizing r with
  | nil =>
    cases h
    exact ⟨r', [], rfl, rfl, rfl, .inl rfl⟩
  | cons e es ih =>
    rcases Nat.lt_or_ge r.now c with hnow | hnow
    · obtain ⟨r₁, he, hfollow⟩ := follow_cons_eq_some.1 h
      obtain ⟨k, fs, hes, hk, hfs, hend⟩ := ih hfollow
      rw [before_cons he hnow]
      refine ⟨k, fs, ?_, follow_cons_eq_some.2 ⟨r₁, he, hk⟩, hfs, hend⟩
      rw [List.cons_append, ← hes]
    · rw [before_eq_nil hnow]
      exact ⟨r, e :: es, rfl, rfl, h, .inr hnow⟩

theorem trace_before (h : r.follow es = some r') (c : Nat) :
    r.trace (r.before c es) = (r.trace es).filter (·.1.now < c) := by
  induction es generalizing r with
  | nil => rfl
  | cons e es ih =>
    rcases Nat.lt_or_ge r.now c with hnow | hnow
    · obtain ⟨k, he, hfollow⟩ := follow_cons_eq_some.1 h
      rw [before_cons he hnow, trace_cons he, trace_cons he, ih hfollow,
        List.filter_cons_of_pos (by simpa using hnow)]
    · have hnil := before_eq_nil hnow (e :: es)
      rw [hnil]
      exact (List.map_eq_nil_iff.1 hnil).symm

theorem now_lt_of_mem_before (h : r.follow es = some r') (hx : x ∈ r.trace (r.before c es)) :
    x.1.now < c := by
  rw [trace_before h] at hx
  simpa using (List.mem_filter.1 hx).2

theorem arrivals_before (h : r.follow es = some r') (c : Nat) :
    r.arrivals (r.before c es) = (r.arrivals es).filter (·.1 < c) := by
  simp only [arrivals, trace_before h]
  induction r.trace es with
  | nil => rfl
  | cons x xs ih =>
    have htimes (y : Nat × Match) (hy : y ∈ (x.1.delivers x.2).map (x.1.now, ·)) :
        y.1 = x.1.now := by
      obtain ⟨m, -, rfl⟩ := List.mem_map.1 hy
      rfl
    rw [List.flatMap_cons, List.filter_append, ← ih]
    by_cases hx : x.1.now < c
    · have hkept : ((x.1.delivers x.2).map (x.1.now, ·)).filter (·.1 < c) =
          (x.1.delivers x.2).map (x.1.now, ·) :=
        List.filter_eq_self.2 fun y hy => by simpa [htimes y hy] using hx
      rw [hkept, List.filter_cons_of_pos (by simpa using hx), List.flatMap_cons]
    · have hlost : ((x.1.delivers x.2).map (x.1.now, ·)).filter (·.1 < c) = [] :=
        List.filter_eq_nil_iff.2 fun y hy => by simpa [htimes y hy] using hx
      rw [hlost, List.filter_cons_of_neg (by simpa using hx), List.nil_append]

theorem map_arrival (now : Nat) (b : Batch) : (b.map (now, ·)).map (·.2) = b := by
  simp [Function.comp_def]

theorem arrivals_cons (h : r.step e = some k) (es : List Event) :
    r.arrivals (e :: es) = (r.delivers e).map (r.now, ·) ++ k.arrivals es := by
  rw [arrivals, trace_cons h, List.flatMap_cons]
  rfl

theorem arrivals_concat (h : r.follow es = some k) (he : k.step e = some r') :
    r.arrivals (es ++ [e]) = r.arrivals es ++ (k.delivers e).map (k.now, ·) := by
  simp only [arrivals, trace_append h, trace_cons he, List.flatMap_append, List.flatMap_cons]
  exact congrArg _ (List.append_nil _)

theorem arrivals_append (h : r.follow es = some k) (fs : List Event) :
    r.arrivals (es ++ fs) = r.arrivals es ++ k.arrivals fs := by
  simp only [arrivals, trace_append h, List.flatMap_append]

theorem now_le_of_mem_arrivals {a : Nat × Match} (ha : a ∈ r.arrivals es) : r.now ≤ a.1 := by
  obtain ⟨x, hx, ha⟩ := List.mem_flatMap.1 ha
  obtain ⟨m, -, rfl⟩ := List.mem_map.1 ha
  exact now_le_of_mem_trace hx

theorem Direct.delivers_move {p : Path} {m : Move} {n : Node} {f : Flow} (h : r.Direct)
    (hm : Node.Moves m p r.context r.tree n f) : r.delivers (.move p m) = f.batch := by
  simp only [delivers, Node.step_of_moves hm, h.pass_eq]

theorem Direct.held (h : r.Direct) (he : Happens r e r') :
    r'.outlet.held.flatten = r.outlet.held.flatten ++ r.delivers e := by
  obtain ⟨held, ho⟩ := h.outlet
  cases he with
  | @move m p n f hm =>
    rw [h.delivers_move hm, h.pass_eq, ho, Outlet.held_accept]
    rfl
  | cancel => exact (List.append_nil _).symm
  | tick => exact (List.append_nil _).symm
  | read hgone => simp [h.reader] at hgone
  | leave hgone => simp [h.reader] at hgone

/-- What arrives in the run is what the root of the tree hands over. -/
theorem arrivals_eq_hands (hd : r.Direct) (h : r.follow es = some r') :
    (r.arrivals es).map (·.2) = r.tree.hands [] (r.moments es) := by
  induction es generalizing r with
  | nil => rfl
  | cons e es ih =>
    obtain ⟨k, hk, h⟩ := follow_cons_eq_some.1 h
    have he := (happens_of_step hk).2
    rw [arrivals_cons hk, List.map_append, ih (hd.happens he) h, map_arrival]
    simp only [moments, hk]
    cases he with
    | move hm => rw [hd.delivers_move hm, Node.hands_nil_cons (Node.meet_eq_some.2 hm)]
    | _ => rfl

/-- A collector holds what has arrived in the run. -/
theorem held_of_follow (hd : r.Direct) (h : r.follow es = some r') :
    r'.outlet.held.flatten = r.outlet.held.flatten ++ (r.arrivals es).map (·.2) := by
  induction es generalizing r with
  | nil =>
    cases h
    exact (List.append_nil _).symm
  | cons e es ih =>
    obtain ⟨k, hk, h⟩ := follow_cons_eq_some.1 h
    have he := (happens_of_step hk).2
    rw [ih (hd.happens he) h, hd.held he, List.append_assoc, arrivals_cons hk, List.map_append,
      map_arrival]

end Run

end SearchPlan
