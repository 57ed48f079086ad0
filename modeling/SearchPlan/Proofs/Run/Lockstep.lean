import SearchPlan.Proofs.Cancellation
import SearchPlan.Proofs.Node.Suspended
import SearchPlan.Proofs.Run.Termination
import SearchPlan.Proofs.Run.Trace

/-! A run of a plan beside one of a larger plan, of which it is the only branch. The two go in step
until the branch is told to stop. From then on the larger one has nothing to do but to wind down. -/

namespace SearchPlan

namespace Event

/-- The event as one in a tree that has the old one as its first branch. -/
def lift : Event → Event
  | .move p m => .move (0 :: p) m
  | e => e

/-- What the event is in the first branch. -/
def ofBranch? : Event → Option Event
  | .move (0 :: p) m => some (.move p m)
  | .move _ _ => none
  | e => some e

variable {e e' : Event}

theorem ofBranch?_lift (e : Event) : e.lift.ofBranch? = some e := by
  cases e <;> rfl

theorem eq_lift_of_ofBranch? (h : e'.ofBranch? = some e) : e' = e.lift := by
  cases e' with
  | move p m =>
    match p, h with
    | 0 :: p, h =>
      cases h
      rfl
  | _ =>
    cases h
    rfl

end Event

namespace Run

/-- A run, after the events `pre`, and a larger one are side by side until they part, and then the
branch of the larger one has been told to stop. -/
structure Lockstep (Side Parted : List Event → Run → Run → Prop) : Prop where
  live : ∀ {pre r r'}, Side pre r r' → r'.tree.stops 0 = false
  stopped : ∀ {pre r r'}, Parted pre r r' → r'.tree.stops 0 = true
  finished : ∀ {pre r r'}, Side pre r r' → r.finished = true → r'.finished = true
  /-- The larger run can go on as long as the other does. -/
  progress : ∀ {pre r r' e k}, Side pre r r' → r.step e = some k →
    ∃ e' k', r'.step e' = some k' ∧ (e' = e.lift ∨ e'.ofBranch? = none)
  /-- They part when the larger one does something of its own. -/
  own : ∀ {pre r r' e' k'}, Side pre r r' → r'.step e' = some k' → e'.ofBranch? = none →
    Parted pre r k'
  same : ∀ {pre r r' e k k'}, Side pre r r' → r.step e = some k → r'.step e.lift = some k' →
    Side (pre ++ [e]) k k' ∨ Parted (pre ++ [e]) k k'

variable {r r' k k' : Run} {e e' : Event} {es es' pre : List Event}

/-- What happens in the first branch of the tree until that is told to stop. -/
def beforeStop (es : List Event) (r : Run) : List Event :=
  ((r.trace es).takeWhile (!·.1.tree.stops 0)).filterMap (·.2.ofBranch?)

theorem beforeStop_cons (h : r.step e = some k) (hs : r.tree.stops 0 = false) (es : List Event) :
    r.beforeStop (e :: es) = e.ofBranch?.toList ++ k.beforeStop es := by
  rw [beforeStop, trace_cons h, List.takeWhile_cons_of_pos (by simp [hs])]
  cases he : e.ofBranch? with
  | none => exact List.filterMap_cons_none he
  | some e' => exact List.filterMap_cons_some he

theorem beforeStop_of_stops (hs : r.tree.stops 0 = true) (es : List Event) :
    r.beforeStop es = [] := by
  cases es with
  | nil => rfl
  | cons e es =>
    cases he : r.step e with
    | none => simp only [beforeStop, trace, he]; rfl
    | some k =>
      rw [beforeStop, trace_cons he, List.takeWhile_cons_of_neg (by simp [hs])]
      rfl

namespace Lockstep

variable {Side Parted : List Event → Run → Run → Prop}

theorem exists_run (h : Lockstep Side Parted) (hside : Side pre r r') (hes : r.follow es = some k)
    (hfinished : k.finished = true) :
    ∃ es' k', r'.follow es' = some k' ∧ k'.Over ∧ r'.beforeStop es' <+: es := by
  induction es generalizing pre r r' with
  | nil =>
    cases hes
    exact ⟨[], r', rfl, over_of_finished (h.finished hside hfinished), List.nil_prefix⟩
  | cons e es ih =>
    obtain ⟨r₁, he, hes⟩ := follow_cons_eq_some.1 hes
    obtain ⟨e', r₁', he', hcase⟩ := h.progress hside he
    -- once they have parted, the larger run may come to its end in any way
    have hparted (hs : r₁'.tree.stops 0 = true) (hfirst : e'.ofBranch?.toList <+: e :: es) :
        ∃ es' k', r'.follow es' = some k' ∧ k'.Over ∧ r'.beforeStop es' <+: e :: es := by
      obtain ⟨es', k', hes', hover⟩ := exists_over r₁'
      refine ⟨e' :: es', k', follow_cons_eq_some.2 ⟨r₁', he', hes'⟩, hover, ?_⟩
      rwa [beforeStop_cons he' (h.live hside), beforeStop_of_stops hs, List.append_nil]
    rcases hcase with rfl | hown
    · rcases h.same hside he he' with hside' | hpart
      · obtain ⟨es', k', hes', hover, hfirst⟩ := ih hside' hes
        refine ⟨e.lift :: es', k', follow_cons_eq_some.2 ⟨r₁', he', hes'⟩, hover, ?_⟩
        rw [beforeStop_cons he' (h.live hside), Event.ofBranch?_lift]
        exact (List.prefix_cons_inj e).2 hfirst
      · apply hparted (h.stopped hpart)
        rw [Event.ofBranch?_lift]
        exact (List.prefix_cons_inj e).2 List.nil_prefix
    · apply hparted (h.stopped (h.own hside he' hown))
      rw [hown]
      exact List.nil_prefix

/-- A larger run that takes the events in the same order as the other has stayed with it to the
end, or has parted from it on the way. -/
theorem side_or_parted (h : Lockstep Side Parted) (hside : Side pre r r')
    (hes : r.follow es = some k) (hes' : r'.follow es' = some k') (hover : k'.Over)
    (hsame : r'.beforeStop es' <+: es) :
    Side (pre ++ es) k k' ∨ ∃ es₁ es₂ r₁ k₁ fs, es = es₁ ++ es₂ ∧ r₁.follow es₂ = some k ∧
      Parted (pre ++ es₁) r₁ k₁ ∧ k₁.follow fs = some k' := by
  induction es' generalizing pre r r' es with
  | nil =>
    cases hes'
    cases es with
    | nil =>
      cases hes
      left
      rwa [List.append_nil]
    | cons e es =>
      -- the larger run could go on with the other
      obtain ⟨r₁, he, -⟩ := follow_cons_eq_some.1 hes
      obtain ⟨e', r₁', he', -⟩ := h.progress hside he
      rw [hover e'] at he'
      cases he'
  | cons e' es' ih =>
    obtain ⟨r₁', he', hrest⟩ := follow_cons_eq_some.1 hes'
    rw [beforeStop_cons he' (h.live hside)] at hsame
    cases hb : e'.ofBranch? with
    | none =>
      right
      refine ⟨[], es, r, r₁', es', rfl, hes, ?_, hrest⟩
      rw [List.append_nil]
      exact h.own hside he' hb
    | some e =>
      obtain rfl := Event.eq_lift_of_ofBranch? hb
      rw [hb] at hsame
      obtain ⟨es, rfl, hfirst⟩ := List.cons_prefix_iff.1 hsame
      obtain ⟨r₁, he, hes⟩ := follow_cons_eq_some.1 hes
      rcases h.same hside he he' with hside' | hpart
      · rcases ih hside' hes hrest hfirst with hend | ⟨es₁, es₂, r₂, k₂, fs, rfl, hr₂, hk₂, hfs⟩
        · left
          rwa [List.append_assoc] at hend
        · right
          refine ⟨e :: es₁, es₂, r₂, k₂, fs, rfl, hr₂, ?_, hfs⟩
          rwa [List.append_assoc] at hk₂
      · exact .inr ⟨[e], es, r₁, r₁', es', rfl, hes, hpart, hrest⟩

end Lockstep

end Run

namespace Node

variable {n n' b : Node} {m : Move} {p : Path} {c : Context} {f : Flow}

/-- Where nothing waits, a branch that has not been told to stop sees what the node sees. -/
theorem under_idle {i : Nat} (hs : n.stops i = false) (now : Nat) :
    n.under (.idle now) i = .idle now := by
  cases n <;> simp_all [under, stops, Context.scope, Context.through, Context.branch, Context.idle]

theorem ended_of_branch (hn : n.branches = [b]) (hb : b.outcome?.isSome) :
    n.outcome?.isSome := by
  cases n with
  | leaf => cases hn
  | noop => cases hn
  | group mode ns g =>
    obtain rfl : ns = [b] := hn
    simp [outcome?, ended, hb]
  | priority => cases hn
  | timeout =>
    cases hn
    rwa [outcome?, Option.isSome_map]
  | limit =>
    cases hn
    rwa [outcome?, Option.isSome_map]
  | filter =>
    cases hn
    exact hb

/-- A node that has told its only branch to stop does nothing itself and hands nothing over any
more. -/
theorem Moves.of_stops (h : Moves m p c n n' f) (hn : n.branches = [b])
    (hs : n.stops 0 = true) : (∃ q, p = 0 :: q) ∧ f.batch = [] := by
  cases p with
  | nil =>
    cases h with
    | leaf => cases hs
    | noop => cases hs
    | expire => cases hs
  | cons i p =>
    obtain ⟨k, k', f', hk, hm, -, -, hfirst, -⟩ := h.branch
    rw [hn] at hk
    obtain ⟨rfl, -⟩ := getElem?_single hk
    rw [hm.batch_of_fired (by rw [under_fired, hs, Bool.or_true])] at hfirst
    exact ⟨⟨p, rfl⟩, List.prefix_nil.1 hfirst⟩

end Node

namespace Run

variable {r r' : Run} {e : Event} {es : List Event} {now : Nat} {arrived : List Match}

/-- A finished run that is left alone is not cancelled. -/
theorem Undisturbed.done {p : Plan} (h : r.Undisturbed) (ht : r.tree = .ofPlan p)
    (hes : r.follow es = some r') (hfinished : r'.finished = true) :
    ∃ x, r'.tree.outcome? = some (.done x) := by
  have hended : r'.tree.outcome?.isSome := (Bool.and_eq_true_iff.1 hfinished).1
  obtain ⟨o, ho⟩ := Option.isSome_iff_exists.1 hended
  cases o with
  | done x => exact ⟨x, ho⟩
  | cancelled as =>
    have hfired := (Node.heeds_iff.1 (heeds ht hes)).1 ⟨as, ho⟩
    rw [(h.follow hes).fired] at hfired
    cases hfired

/-- A run that has told the only branch of its tree to stop. -/
structure Winding (now : Nat) (arrived : List Match) (r : Run) : Prop extends Undisturbed r where
  now_eq : r.now = now
  arrived : r.outlet.held.flatten = arrived
  alone : ∃ b, r.tree.branches = [b]
  stopped : r.tree.stops 0 = true
  unwarned : r.tree.warned = false

namespace Winding

theorem nextMove?_ne_none (h : r.Winding now arrived) (hopen : r.finished = false) :
    r.nextMove? ≠ none := by
  intro hx
  obtain ⟨b, hb⟩ := h.alone
  have hended := (h.still hx).ended_of_stops (i := 0) (b := b) (by rw [hb]; rfl) h.stopped
  have := Node.ended_of_branch hb (Option.ne_none_iff_isSome.1 hended)
  rw [h.outcome?_eq_none hopen] at this
  cases this

/-- Nothing arrives any more, and no time passes. -/
theorem happens (h : r.Winding now arrived) (hopen : r.finished = false) (he : Happens r e r') :
    r'.Winding now arrived := by
  have hundisturbed := h.toUndisturbed.happens he
  have hheld := h.toDirect.held he
  cases he with
  | @move m p n f hm =>
    obtain ⟨b, hb⟩ := h.alone
    obtain ⟨⟨q, rfl⟩, hnothing⟩ := hm.of_stops hb h.stopped
    refine ⟨hundisturbed, h.now_eq, ?_, ?_, hm.stops h.stopped, ?_⟩
    · rw [hheld, h.delivers_move hm, hnothing, List.append_nil, h.arrived]
    · apply List.length_eq_one_iff.1
      rw [hm.length_branches, hb]
      rfl
    · apply Bool.eq_false_iff.2
      intro hwarned
      have hfired := hm.of_warned hwarned
      rw [context_fired, h.fired] at hfired
      cases hfired
  | tick hx => exact absurd hx (h.nextMove?_ne_none hopen)
  | cancel _ ht => simp [h.cancelAt] at ht
  | read hgone => simp [h.reader] at hgone
  | leave hgone => simp [h.reader] at hgone

theorem follow (h : r.Winding now arrived) (hes : r.follow es = some r') :
    r'.Winding now arrived :=
  follow_induction h (fun hr hopen he => hr.happens hopen he) hes

theorem finished_of_over (h : r.Winding now arrived) (hover : r.Over) : r.finished = true := by
  refine hover.finished fun hopen => ?_
  obtain ⟨⟨p, m⟩, hx⟩ := Option.ne_none_iff_exists'.1 (h.nextMove?_ne_none hopen)
  obtain ⟨n, f, hm⟩ := Node.exists_moves_of_next? hx
  exact ⟨_, _, (Happens.move hm).step hopen⟩

end Winding

end Run

end SearchPlan
