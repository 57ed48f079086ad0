import SearchPlan.Proofs.Run.Line

/-! Everything that can come of a run while its reader does as it pleases: it takes any pause before
a read, and may drop the channel at any time. -/

namespace SearchPlan

namespace Run

/-- What the reader leaves when it drops the channel. -/
def drop (r : Run) : Run := { r with reader := r.reader.leave, outlet := r.outlet.close }

/-- What can come of a run, with the history of its tree on the way. -/
inductive Unfolds (r : Run) : List Moment → Run → Prop
  | refl : Unfolds r [] r
  | event : Unfolds r ts k → k.step e = some r' → Unfolds r (ts ++ k.moments [e]) r'
  | pause : Unfolds r ts k → Unfolds r ts { k with reader := { k.reader with pause } }
  | drop : Unfolds r ts k → k.reader.gone = false → Unfolds r ts k.drop

variable {r r' k : Run} {e : Event} {es : List Event} {ts : List Moment}

theorem moments_append (h : r.follow es = some k) (fs : List Event) :
    r.moments (es ++ fs) = r.moments es ++ k.moments fs := by
  induction es generalizing r with
  | nil =>
    cases h
    rfl
  | cons e es ih =>
    obtain ⟨r₁, he, h⟩ := follow_cons_eq_some.1 h
    simp only [List.cons_append, moments, he, ih h]
    cases e <;> rfl

theorem Unfolds.follow (h : r.Unfolds ts r') : r.tree.follow ts = some r'.tree := by
  induction h with
  | refl => rfl
  | event _ he ih =>
    rw [Node.follow_append, ih]
    exact follow_moments (follow_cons_eq_some.2 ⟨_, he, rfl⟩)
  | pause _ ih => exact ih
  | drop _ _ ih => exact ih

theorem Unfolds.append (h : r.Unfolds ts k) (hes : k.follow es = some r') :
    r.Unfolds (ts ++ k.moments es) r' := by
  induction es generalizing ts k with
  | nil =>
    cases hes
    rwa [moments, List.append_nil]
  | cons e es ih =>
    obtain ⟨k', he, hes⟩ := follow_cons_eq_some.1 hes
    have hfirst : k.follow [e] = some k' := follow_cons_eq_some.2 ⟨k', he, rfl⟩
    rw [← List.singleton_append, moments_append hfirst, ← List.append_assoc]
    exact ih (.event h he) hes

theorem unfolds_of_follow (h : r.follow es = some r') : r.Unfolds (r.moments es) r' :=
  Unfolds.append .refl h

theorem Unfolds.quota (h : r.Unfolds ts r') (hr : r.quota = none) : r'.quota = none := by
  induction h with
  | refl => exact hr
  | @event _ k _ _ _ he ih =>
    cases (happens_of_step he).2 with
    | move => rw [pass_unlimited ih]
    | _ => exact ih
  | pause _ ih => exact ih
  | drop _ _ ih => exact ih

/-- If the caller never cancels a run, its tree never sees the token fired. -/
theorem Unfolds.live (h : r.Unfolds ts r') (hq : r.quota = none) (hc : r.cancelAt = none)
    (hr : r.fired = false) :
    r'.fired = false ∧ r'.cancelAt = none ∧ ∀ t ∈ ts, t.context.fired = false := by
  induction h with
  | refl => exact ⟨hr, hc, nofun⟩
  | @event _ k e r' h he ih =>
    obtain ⟨hfired, hcancel, hts⟩ := ih
    have hone : r'.fired = false := by
      cases (happens_of_step he).2 with
      | move => rw [pass_unlimited (h.quota hq), hfired, Bool.or_false]
      | cancel _ hat =>
        rw [hcancel] at hat
        cases hat
      | _ => exact hfired
    refine ⟨hone, ?_, List.forall_mem_append.2 ⟨hts, ?_⟩⟩
    · cases (happens_of_step he).2 <;> exact hcancel
    · exact not_fired_moments (follow_cons_eq_some.2 ⟨r', he, rfl⟩) hone
  | pause _ ih => exact ih
  | drop _ _ ih => exact ih

theorem Unfolds.served (h : r.Unfolds ts r') (hr : r.Served) : r'.Served := by
  induction h with
  | refl => exact hr
  | event _ he ih =>
    obtain ⟨hopen, he⟩ := happens_of_step he
    exact ih.happens hopen he
  | pause _ ih =>
    cases ih with
    | collected ho hgone hfree => exact .collected ho hgone hfree
    | queued ho hcapacity hd hline hclosed => exact .queued ho hcapacity hd hline hclosed
  | @drop _ k _ hgone ih =>
    cases ih with
    | collected _ hgone' =>
      rw [hgone] at hgone'
      cases hgone'
    | @queued ch ho hcapacity hd hline hclosed =>
      have ho' : k.drop.outlet = .channel ch.close := by
        rw [Run.drop, ho]
        rfl
      exact .queued ho' hcapacity hd hline fun _ => rfl

end Run

end SearchPlan
