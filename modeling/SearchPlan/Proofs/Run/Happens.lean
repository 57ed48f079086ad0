import SearchPlan.Proofs.Node.Reach
import SearchPlan.Run

/-! What one event can do to a run, as a relation with one rule for each case, and what a run is to
its tree: a history in which nothing but the moves is seen. -/

namespace SearchPlan.Run

inductive Happens (r : Run) : Event → Run → Prop
  | move : Node.Moves m p r.context r.tree n f → Happens r (.move p m)
      { r with
        tree := n
        quota := (r.pass f).1
        outlet := r.outlet.accept p (r.pass f).2.1
        fired := r.fired || (r.pass f).2.2 }
  | cancel : r.fired = false → r.cancelAt = some t → t ≤ r.now →
      Happens r .cancel { r with fired := true }
  | read : r.reader.gone = false → r.reader.due ≤ r.now → r.outlet = .channel c →
      c.read? = some (b, c') → Happens r .read
        { r with
          reader := r.reader.read r.now b
          outlet := .channel (if (r.reader.read r.now b).gone then c'.close else c') }
  | leave : r.reader.gone = false → r.reader.due ≤ r.now → r.outlet = .channel c →
      c.read? = none → r.outcome?.isSome → Happens r .read { r with reader := r.reader.leave }
  | tick : r.nextMove? = none → r.cancel? = none → r.read? = none → r.alarms.min? = some time →
      Happens r .tick { r with now := time }

variable {r r' k : Run} {e : Event} {es : List Event}

theorem happens_of_read (h : r.read? = some r') : Happens r .read r' := by
  simp only [read?] at h
  split at h
  case isTrue => cases h
  case isFalse hr =>
    simp only [Bool.or_eq_true, decide_eq_true_eq, not_or, Bool.not_eq_true, Nat.not_lt] at hr
    cases ho : r.outlet with
    | collector held => simp [ho] at h
    | channel c =>
      simp only [ho] at h
      cases hc : c.read? with
      | none =>
        simp only [hc] at h
        split at h
        case isTrue hend =>
          cases h
          simpa only [ho] using Happens.leave hr.1 hr.2 ho hc hend
        case isFalse => cases h
      | some bc =>
        simp only [hc] at h
        cases h
        exact .read hr.1 hr.2 ho hc

theorem happens_of_step (h : r.step e = some r') : r.finished = false ∧ Happens r e r' := by
  simp only [step] at h
  split at h
  case isTrue => cases h
  case isFalse hr =>
    refine ⟨Bool.eq_false_iff.2 hr, ?_⟩
    cases e with
    | move p m =>
      simp only [move?, Option.map_eq_some_iff] at h
      obtain ⟨⟨tree, f⟩, hm, rfl⟩ := h
      exact .move (Node.moves_of_step hm)
    | cancel =>
      simp only [cancel?] at h
      split at h
      case isTrue hc =>
        cases h
        simp only [Bool.and_eq_true, Bool.not_eq_true', Option.any_eq_true, decide_eq_true_eq] at hc
        obtain ⟨hf, t, ht, htn⟩ := hc
        exact .cancel hf ht htn
      case isFalse => cases h
    | read => exact happens_of_read h
    | tick =>
      simp only [tick?] at h
      split at h
      case isTrue => cases h
      case isFalse ht =>
        simp only [Bool.or_eq_true, not_or, Bool.not_eq_true, Option.isSome_eq_false_iff,
          Option.isNone_iff_eq_none] at ht
        simp only [Option.map_eq_some_iff] at h
        obtain ⟨now, hnow, rfl⟩ := h
        exact .tick ht.1.1 ht.1.2 ht.2 hnow

theorem Happens.step (h : Happens r e r') (hopen : r.finished = false) : r.step e = some r' := by
  cases h with
  | move hm =>
    simp only [Run.step, hopen, move?, Node.step_of_moves hm]
    rfl
  | cancel hf ht hdue => simp [Run.step, hopen, cancel?, hf, ht, hdue]
  | read hgone hdue ho hc => simp [Run.step, hopen, read?, hgone, Nat.not_lt.2 hdue, ho, hc]
  | leave hgone hdue ho hc hend =>
    simp [Run.step, hopen, read?, hgone, Nat.not_lt.2 hdue, ho, hc, hend]
  | tick hm hc hr ha => simp [Run.step, hopen, tick?, hm, hc, hr, ha]

theorem follow_cons_eq_some : r.follow (e :: es) = some r' ↔
    ∃ k, r.step e = some k ∧ k.follow es = some r' := by
  simp only [follow, Option.bind_eq_some_iff]

theorem follow_concat (h : r.follow es = some r') (he : r'.step e = some k) :
    r.follow (es ++ [e]) = some k := by
  rw [follow_append, h]
  exact follow_cons_eq_some.2 ⟨k, he, rfl⟩

/-- What holds at the start and is kept by every event holds after all events. -/
theorem follow_induction {motive : Run → Prop} (start : motive r)
    (event : ∀ {r r' : Run} {e}, motive r → r.finished = false → Happens r e r' → motive r')
    (h : r.follow es = some r') : motive r' := by
  induction es generalizing r with
  | nil => cases h; exact start
  | cons e es ih =>
    obtain ⟨k, hk, h⟩ := follow_cons_eq_some.1 h
    obtain ⟨hr, hk⟩ := happens_of_step hk
    exact ih (event start hr hk) h

def moments : List Event → Run → List Moment
  | [], _ => []
  | e :: es, r =>
    match r.step e with
    | none => []
    | some r' =>
      match e with
      | .move p m => ⟨r.context, p, m⟩ :: moments es r'
      | _ => moments es r'

theorem follow_moments (h : r.follow es = some r') :
    r.tree.follow (r.moments es) = some r'.tree := by
  induction es generalizing r with
  | nil => cases h; rfl
  | cons e es ih =>
    obtain ⟨k, hk, h⟩ := follow_cons_eq_some.1 h
    have hfollow := ih h
    simp only [moments, hk]
    cases (happens_of_step hk).2 with
    | move hm => exact Node.follow_cons_eq_some.2 ⟨_, _, Node.meet_eq_some.2 hm, hfollow⟩
    | _ => exact hfollow

theorem reached {p : Plan} (ht : r.tree = .ofPlan p) (h : r.follow es = some r') :
    Node.Reached p r'.tree :=
  ⟨r.moments es, by rw [← ht]; exact follow_moments h⟩

theorem Happens.fired (h : Happens r e r') (hr : r.fired = true) : r'.fired = true := by
  cases h <;> simp [hr]

theorem context_fired (r : Run) : r.context.fired = r.fired := by
  simp only [context]
  cases r.quota <;> rfl

theorem fired_moments (h : r.follow es = some r') (hr : r.fired = true) :
    ∀ t ∈ r.moments es, t.context.fired = true := by
  induction es generalizing r with
  | nil => simp [moments]
  | cons e es ih =>
    obtain ⟨k, hk, h⟩ := follow_cons_eq_some.1 h
    have he := (happens_of_step hk).2
    have hmoments := ih h (he.fired hr)
    simp only [moments, hk]
    cases he with
    | move hm => exact List.forall_mem_cons.2 ⟨(context_fired r).trans hr, hmoments⟩
    | _ => exact hmoments

/-- If the token of the caller has not fired in the end, the tree has never seen it fired. -/
theorem not_fired_moments (h : r.follow es = some r') (hr : r'.fired = false) :
    ∀ t ∈ r.moments es, t.context.fired = false := by
  induction es generalizing r with
  | nil => simp [moments]
  | cons e es ih =>
    obtain ⟨k, hk, h⟩ := follow_cons_eq_some.1 h
    simp only [moments, hk]
    have hfired : r.fired = false := Bool.eq_false_iff.2 fun hfired => by
      have := follow_induction (motive := fun r => r.fired = true)
        ((happens_of_step hk).2.fired hfired) (fun hr _ he => he.fired hr) h
      rw [hr] at this
      cases this
    cases (happens_of_step hk).2 with
    | move hm => exact List.forall_mem_cons.2 ⟨(context_fired r).trans hfired, ih h⟩
    | _ => exact ih h

end SearchPlan.Run
