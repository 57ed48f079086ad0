import SearchPlan.Proofs.Node.Outcome
import SearchPlan.Proofs.Node.Suspended
import SearchPlan.Proofs.Run.Termination
import SearchPlan.Proofs.Run.Trace

/-! A direct run that its caller cancels, beside the same run left alone. Up to the cancellation
they are the same, and there the cancelled one ends. -/

namespace SearchPlan

namespace Run

variable {p : Plan} {r r' k : Run} {e : Event} {es : List Event} {c time : Nat}

/-- The run as it is if its caller is to cancel it at `c`, with the clock not beyond that. -/
def cutAt (c : Nat) (r : Run) : Run := { r with now := min r.now c, cancelAt := some c }

theorem direct_cutAt (hc : 0 < c) (tree : Node) :
    (direct tree {}).cutAt c = direct tree { cancelAt := some c } := by
  simp [direct, cutAt, Nat.ne_of_gt hc]

theorem context_cutAt (h : r.now ≤ c) : (r.cutAt c).context = r.context := by
  simp only [context, cutAt, Nat.min_eq_left h]

theorem min?_concat {xs : List Nat} (h : xs.min? = some time) (c : Nat) :
    (xs ++ [c]).min? = some (min time c) := by
  rw [List.min?_eq_some_iff] at h ⊢
  simp only [List.mem_append, List.mem_singleton]
  grind

theorem Undisturbed.alarms_cutAt (h : r.Undisturbed) (hnow : r.now < c) :
    (r.cutAt c).alarms = r.alarms ++ [c] := by
  simp [alarms, cutAt, h.reader, h.fired, h.cancelAt, Nat.min_eq_left (Nat.le_of_lt hnow), hnow]

theorem Undisturbed.happens_cutAt (h : r.Undisturbed) (hnow : r.now < c) (he : Happens r e r') :
    Happens (r.cutAt c) e (r'.cutAt c) := by
  have hcontext := context_cutAt (r := r) (Nat.le_of_lt hnow)
  cases he with
  | move hm => exact .move (by rw [hcontext]; exact hm)
  | cancel _ ht => simp [h.cancelAt] at ht
  | read hgone => simp [h.reader] at hgone
  | leave hgone => simp [h.reader] at hgone
  | @tick time hx hcancel hread ha =>
    refine .tick ?_ ?_ ?_ ?_
    · rw [nextMove?, hcontext]
      exact hx
    · simp [cancel?, cutAt, Nat.min_eq_left (Nat.le_of_lt hnow), hnow]
    · simp [read?, cutAt, h.reader]
    · rw [h.alarms_cutAt hnow]
      exact min?_concat ha c

/-- Until the time of the cancellation, both runs do the same. -/
theorem Undisturbed.follow_cutAt (h : r.Undisturbed) (hes : r.follow es = some r')
    (hbefore : ∀ x ∈ r.trace es, x.1.now < c) :
    (r.cutAt c).follow es = some (r'.cutAt c) ∧ (r.cutAt c).before c es = es := by
  induction es generalizing r with
  | nil =>
    cases hes
    exact ⟨rfl, rfl⟩
  | cons e es ih =>
    obtain ⟨k, hk, hes⟩ := follow_cons_eq_some.1 hes
    rw [trace_cons hk] at hbefore
    obtain ⟨hnow, hbefore⟩ := List.forall_mem_cons.1 hbefore
    obtain ⟨hopen, he⟩ := happens_of_step hk
    have hstep : (r.cutAt c).step e = some (k.cutAt c) := (h.happens_cutAt hnow he).step hopen
    obtain ⟨hfollow, hall⟩ := ih (h.happens he) hes hbefore
    refine ⟨follow_cons_eq_some.2 ⟨_, hstep, hfollow⟩, ?_⟩
    rw [before_cons hstep (Nat.lt_of_le_of_lt (Nat.min_le_left _ _) hnow), hall]

theorem exists_tick_of_crossing (hnow : r.now < c) (hes : r.follow es = some k)
    (hbefore : ∀ x ∈ r.trace es, x.1.now < c) (hk : c ≤ k.now) :
    ∃ es₀ k₀, r.follow es₀ = some k₀ ∧ k₀.finished = false ∧ Happens k₀ .tick k := by
  rcases List.eq_nil_or_concat es with rfl | ⟨es₀, e, rfl⟩
  · cases hes
    omega
  · rw [List.concat_eq_append, follow_append, Option.bind_eq_some_iff] at hes
    obtain ⟨k₀, hk₀, hlast⟩ := hes
    obtain ⟨k₁, he, hk₁⟩ := follow_cons_eq_some.1 hlast
    cases hk₁
    rw [List.concat_eq_append, trace_append hk₀, trace_cons he] at hbefore
    have hnow₀ : k₀.now < c := hbefore _ (List.mem_append_right _ List.mem_cons_self)
    obtain ⟨hopen, he⟩ := happens_of_step he
    refine ⟨es₀, k₀, hk₀, hopen, ?_⟩
    cases he with
    | tick hx hcancel hread ha => exact .tick hx hcancel hread ha
    | _ => exact absurd hk (Nat.not_le.2 hnow₀)

/-- The event ends a sleep, or is the expiry of a deadline. -/
def Elapses (r : Run) : Event → Prop
  | .move p m => r.tree.Elapses p m
  | _ => False

instance : ∀ e : Event, Decidable (r.Elapses e)
  | .move p m => inferInstanceAs (Decidable (r.tree.Elapses p m))
  | .cancel => .isFalse id
  | .read => .isFalse id
  | .tick => .isFalse id

/-- The clock goes on to a time only for something that takes place then. -/
theorem Undisturbed.elapses (h : r.Undisturbed) (ht : Happens r .tick k) (he : Happens k e r') :
    k.Elapses e := by
  cases ht with
  | @tick time hx _ _ ha =>
    cases he with
    | move hm =>
      rw [context_tick] at hm
      exact (hm.elapses hx).1
    | cancel _ ht => simp [h.cancelAt] at ht
    | read hgone => simp [h.reader] at hgone
    | leave hgone => simp [h.reader] at hgone
    | tick hx' =>
      rw [h.alarms_eq hx] at ha
      have hlt := Node.now_lt_of_mem_alarms hx' (List.min?_mem ha)
      rw [context_now] at hlt
      exact absurd hlt (Nat.lt_irrefl _)

/-- If nothing is timed to take place at a time to come, nothing happens at that time. -/
theorem Undisturbed.trace_quiet (h : r.Undisturbed) (hnow : r.now < c)
    (hes : r.follow es = some r')
    (hquiet : ∀ x ∈ r.trace es, x.1.Elapses x.2 → x.1.now ≠ c) :
    ∀ x ∈ r.trace es, x.1.now ≠ c := by
  intro x hx hxc
  obtain ⟨k, fs, hsplit, hk, hfs, hend⟩ := follow_before hes c
  have hbefore : ∀ x ∈ r.trace (r.before c es), x.1.now < c :=
    fun x hx => now_lt_of_mem_before hes hx
  rw [hsplit, trace_append hk] at hx hquiet
  rcases List.mem_append.1 hx with hx | hx
  · have := hbefore x hx
    omega
  · cases fs with
    | nil => cases hx
    | cons e fs =>
      have hkc : c ≤ k.now := hend.resolve_left (List.cons_ne_nil e fs)
      obtain ⟨es₀, k₀, hk₀, -, ht⟩ := exists_tick_of_crossing hnow hk hbefore hkc
      obtain ⟨k₁, he, -⟩ := follow_cons_eq_some.1 hfs
      have hfirst : (k, e) ∈ k.trace (e :: fs) := by
        rw [trace_cons he]
        exact List.mem_cons_self
      have helapses := (h.follow hk₀).elapses ht (happens_of_step he).2
      have hne : k.now ≠ c := hquiet (k, e) (List.mem_append_right _ hfirst) helapses
      have := now_le_of_mem_trace hx
      omega

/-- A run that its caller cancels now, when nothing is left of it but what sleeps longer. -/
structure Stopping (p : Plan) (c : Nat) (arrived : List Match) (r : Run) : Prop extends
    Direct r where
  now_eq : r.now = c
  cancelAt : r.cancelAt = some c
  arrived : r.outlet.held.flatten = arrived
  reached : Node.Reached p r.tree
  suspended : r.tree.Suspended c
  quiet : r.fired = false → r.nextMove? = none

theorem Undisturbed.stopping (h : r.Undisturbed) (hp : Node.Reached p r.tree)
    (hopen : r.finished = false) (ht : Happens r .tick k) (hk : c < k.now) :
    (k.cutAt c).Stopping p c k.outlet.held.flatten := by
  cases ht with
  | @tick time hx _ _ ha =>
    rw [h.alarms_eq hx, List.min?_eq_some_iff] at ha
    have hlater : ∀ a ∈ r.tree.alarms, c < a := fun a hmem => Nat.lt_of_lt_of_le hk (ha.2 a hmem)
    have hpauses : r.tree.Pauses r.now r.context :=
      ⟨context_now r, by rw [context_fired, h.fired], h.still hx⟩
    have hcontext : (cutAt c { r with now := time }).context = { r.context with now := c } := by
      simp only [context, cutAt, h.quota, Nat.min_eq_right (Nat.le_of_lt hk)]
    refine ⟨⟨h.free, h.quota, h.outlet, h.reader⟩, Nat.min_eq_right (Nat.le_of_lt hk), rfl, rfl, hp,
      hpauses.suspended hp (h.outcome?_eq_none hopen) hlater, fun _ => ?_⟩
    rw [nextMove?, hcontext, Option.eq_none_iff_forall_ne_some]
    rintro ⟨q, m⟩ hq
    obtain ⟨n, f, hm⟩ := Node.exists_moves_of_next? hq
    obtain ⟨-, a, hmem, hle⟩ := hm.elapses hx
    exact absurd (hlater a hmem) (Nat.not_lt.2 hle)

namespace Stopping

variable {arrived : List Match}

theorem happens (h : r.Stopping p c arrived) (hopen : r.finished = false) (he : Happens r e r') :
    r'.Stopping p c arrived := by
  have hdirect := h.toDirect.happens he
  cases he with
  | @move m q n f hm =>
    have hfired : r.fired = true := by
      by_contra hfired
      exact hm.next?_ne_none (h.quiet (Bool.eq_false_iff.2 hfired))
    have hc : r.context.fired = true := by rw [context_fired, hfired]
    obtain ⟨held, ho⟩ := h.outlet
    refine ⟨hdirect, h.now_eq, h.cancelAt, ?_, h.reached.move hm, ?_, ?_⟩
    · rw [← h.arrived, ho, h.pass_eq, Outlet.held_accept, hm.batch_of_fired hc, List.append_nil]
      rfl
    · have hs := h.suspended
      rw [← h.now_eq, ← context_now r] at hs
      have := hs.move hm (h.reached.move hm) hc
      rwa [context_now, h.now_eq] at this
    · intro hlive
      rw [hfired] at hlive
      cases hlive
  | cancel => exact ⟨hdirect, h.now_eq, h.cancelAt, h.arrived, h.reached, h.suspended, nofun⟩
  | read hgone => simp [h.reader] at hgone
  | leave hgone => simp [h.reader] at hgone
  | tick hx hcancel =>
    cases hfired : r.fired with
    | false => simp [cancel?, hfired, h.cancelAt, h.now_eq] at hcancel
    | true => exact absurd hx (h.nextMove?_ne_none hopen hfired)

theorem exists_step (h : r.Stopping p c arrived) (hopen : r.finished = false) :
    ∃ e r', r.step e = some r' := by
  cases hfired : r.fired with
  | false =>
    have hdue : c ≤ r.now := Nat.le_of_eq h.now_eq.symm
    exact ⟨.cancel, _, (Happens.cancel hfired h.cancelAt hdue).step hopen⟩
  | true =>
    obtain ⟨⟨q, m⟩, hx⟩ := Option.ne_none_iff_exists'.1 (h.nextMove?_ne_none hopen hfired)
    obtain ⟨n, f, hm⟩ := Node.exists_moves_of_next? hx
    exact ⟨.move q m, _, (Happens.move hm).step hopen⟩

theorem result (h : r.Stopping p c arrived) (hfinished : r.finished = true) :
    ∃ as, r.execution? = some ⟨.partialSuccess, as ++ [.cancelled p.name]⟩ ∧
      ∀ a ∈ as, a.kind ≠ .cancelled := by
  have hended : r.tree.outcome?.isSome := (Bool.and_eq_true_iff.1 hfinished).1
  obtain ⟨as, ho⟩ := h.suspended.gaveUp h.reached hended
  refine ⟨as, ?_, fun a ha => h.reached.kind_ne_cancelled (by rwa [Node.raised_eq ho])⟩
  rw [execution?, outcome?, ho, h.reached.name]
  rfl

end Stopping

/-- The run that is to be cancelled at `c` does all that the other does before. Then it is at its
end with it, or can only stop. -/
theorem Undisturbed.exists_cut (h : r.Undisturbed) (hp : r.tree = .ofPlan p) (hnow : r.now < c)
    (hes : r.follow es = some r') (hfinished : r'.finished = true)
    (hquiet : ∀ x ∈ r.trace es, x.1.Elapses x.2 → x.1.now ≠ c) :
    ∃ k, r.follow (r.before c es) = some k ∧
      (r.cutAt c).follow (r.before c es) = some (k.cutAt c) ∧
      (r.cutAt c).before c (r.before c es) = r.before c es ∧
      (r'.now < c ∧ k = r' ∨
        c < r'.now ∧ (k.cutAt c).Stopping p c k.outlet.held.flatten) := by
  obtain ⟨k, fs, hsplit, hk, hfs, hend⟩ := follow_before hes c
  have hbefore : ∀ x ∈ r.trace (r.before c es), x.1.now < c :=
    fun x hx => now_lt_of_mem_before hes hx
  obtain ⟨hfollow, hall⟩ := h.follow_cutAt hk hbefore
  refine ⟨k, hk, hfollow, hall, ?_⟩
  rcases Nat.lt_or_ge k.now c with hkc | hkc
  · obtain rfl : fs = [] := hend.resolve_right (Nat.not_le.2 hkc)
    cases hfs
    exact .inl ⟨hkc, rfl⟩
  · obtain ⟨es₀, k₀, hk₀, hopen, ht⟩ := exists_tick_of_crossing hnow hk hbefore hkc
    have h₀ := h.follow hk₀
    have hlt : c < k.now := by
      refine Nat.lt_of_le_of_ne hkc (Ne.symm ?_)
      cases fs with
      | nil =>
        cases hfs
        have hopen' : r'.finished = k₀.finished := by cases ht; rfl
        rw [hopen', hopen] at hfinished
        cases hfinished
      | cons e fs =>
        obtain ⟨k₁, he, -⟩ := follow_cons_eq_some.1 hfs
        refine h.trace_quiet hnow hes hquiet (k, e) ?_
        rw [hsplit, trace_append hk, trace_cons he]
        exact List.mem_append_right _ List.mem_cons_self
    exact .inr ⟨Nat.lt_of_lt_of_le hlt (now_le_of_follow hfs),
      h₀.stopping (reached hp hk₀) hopen ht hlt⟩

/-- A run cancelled at a time at which no sleep ends and no deadline expires is the other run, if
that is over before. Otherwise it ends at this time, with what has arrived before, partially, and
says last and once that it was cancelled. -/
theorem cut_by_cancellation (hc : 0 < c) (hes : (direct (.ofPlan p) {}).follow es = some r)
    (hfinished : r.finished = true)
    (hquiet : ∀ x ∈ (direct (.ofPlan p) {}).trace es, x.1.Elapses x.2 → x.1.now ≠ c) :
    -- some run that is cancelled at `c` does the same as the other before `c`, and comes to an end
    (∃ es' r', (direct (.ofPlan p) { cancelAt := some c }).follow es' = some r' ∧ r'.Over ∧
      (direct (.ofPlan p) { cancelAt := some c }).before c es' =
        (direct (.ofPlan p) {}).before c es) ∧
    -- every such run is finished when it can do no more
    ∀ es' r', (direct (.ofPlan p) { cancelAt := some c }).follow es' = some r' → r'.Over →
      (direct (.ofPlan p) { cancelAt := some c }).before c es' =
        (direct (.ofPlan p) {}).before c es →
      r'.finished = true ∧
      (r.now < c → r' = { r with cancelAt := some c }) ∧
      (c < r.now → r'.now = c ∧
        r'.outlet.held.flatten =
          (((direct (.ofPlan p) {}).arrivals es).filter (·.1 < c)).map (·.2) ∧
        ∃ as, r'.execution? = some ⟨.partialSuccess, as ++ [.cancelled p.name]⟩ ∧
          ∀ a ∈ as, a.kind ≠ .cancelled) := by
  have h := undisturbed_ofPlan p
  obtain ⟨k, hk, hcut, hall, hcase⟩ := h.exists_cut rfl hc hes hfinished hquiet
  rw [direct_cutAt hc] at hcut hall
  refine ⟨?_, ?_⟩
  · obtain ⟨fs, r', hfs, hover⟩ := exists_over (k.cutAt c)
    refine ⟨_ ++ fs, r', by rw [follow_append, hcut]; exact hfs, hover, ?_⟩
    have hnothing : (k.cutAt c).before c fs = [] := by
      rcases hcase with ⟨-, rfl⟩ | ⟨-, hstopping⟩
      · obtain ⟨-, rfl⟩ := eq_of_over (over_of_finished (r := k.cutAt c) hfinished) hfs
        rfl
      · exact before_eq_nil (Nat.le_of_eq hstopping.now_eq.symm) fs
    rw [before_append hcut, hall, hnothing, List.append_nil]
  · intro es' r' hes' hover hsame
    obtain ⟨k', fs, -, hk', hfs, -⟩ := follow_before hes' c
    obtain rfl : k.cutAt c = k' := by
      rw [hsame, hcut] at hk'
      exact Option.some.inj hk'
    rcases hcase with ⟨hlt, rfl⟩ | ⟨hlt, hstopping⟩
    · obtain ⟨rfl, -⟩ := eq_of_over (over_of_finished (r := k.cutAt c) hfinished) hfs
      refine ⟨hfinished, fun _ => ?_, fun hgt => absurd hgt (Nat.lt_asymm hlt)⟩
      rw [cutAt, Nat.min_eq_left (Nat.le_of_lt hlt)]
    · have hend : r'.Stopping p c k.outlet.held.flatten :=
        follow_induction hstopping (fun hr hopen he => hr.happens hopen he) hfs
      have hfinished' : r'.finished = true := by
        by_contra hopen
        obtain ⟨e, r'', he⟩ := hend.exists_step (Bool.eq_false_iff.2 hopen)
        rw [hover e] at he
        cases he
      refine ⟨hfinished', fun hgt => absurd hgt (Nat.lt_asymm hlt), fun _ => ?_⟩
      refine ⟨hend.now_eq, ?_, hend.result hfinished'⟩
      rw [hend.arrived, held_of_follow h.toDirect hk, arrivals_before hes]
      rfl

end Run

/-! A run that is cancelled while one of its scripts sleeps below a cap, and another below a choice
of which one branch has failed. -/

namespace Cut

def early : Script :=
  { name := "early", steps := [.emit [.ofRepo "a"], .sleep (.ofMillis 5), .emit [.ofRepo "b"]] }

def bad : Script := { name := "bad", status := .failure }

def slow : Script := { name := "slow", steps := [.sleep (.ofMillis 8)] }

def plan : Plan :=
  .group .parallel (.limit 9 (by decide) (.leaf early)) [.group .or (.leaf bad) [.leaf slow]]

def asleep : List Event :=
  [.move [0, 0] .act, .move [1, 0] .act, .move [0, 0] .act, .move [0, 0] .act, .move [1, 0] .act,
    .move [1, 1] .act, .move [1, 1] .act, .tick]

def events : List Event :=
  asleep ++ [.move [0, 0] .act, .move [0, 0] .act, .move [0, 0] .act, .tick, .move [1, 1] .act,
    .move [1, 1] .act]

def stopped : List Event := asleep ++ [.cancel, .move [1, 1] .halt, .move [0, 0] .halt]

theorem stopped_at_three : ∃ r,
    (Run.direct (.ofPlan plan) { cancelAt := some 3 }).follow stopped = some r ∧ r.now = 3 ∧
      r.outlet.held.flatten = [.ofRepo "a"] ∧
      ∃ as, r.execution? = some ⟨.partialSuccess, as ++ [.cancelled "PARALLEL"]⟩ ∧
        ∀ a ∈ as, a.kind ≠ .cancelled := by
  have hend : ((Run.direct (.ofPlan plan) {}).follow events).map (fun r => (r.finished, r.now)) =
      some (true, 8) := rfl
  obtain ⟨r, hr, hresult⟩ := Option.map_eq_some_iff.1 hend
  obtain ⟨hfinished, hnow⟩ := Prod.mk.inj hresult
  have hquiet : ∀ x ∈ (Run.direct (.ofPlan plan) {}).trace events,
      x.1.Elapses x.2 → x.1.now ≠ 3 := by
    have hnever : 3 ∉ ((Run.direct (.ofPlan plan) {}).trace events).map (·.1.now) := by decide
    exact fun x hx _ hthree => hnever (List.mem_map.2 ⟨x, hx, hthree⟩)
  have hend' : ((Run.direct (.ofPlan plan) { cancelAt := some 3 }).follow stopped).map
      Run.finished = some true := rfl
  obtain ⟨r', hr', hfinished'⟩ := Option.map_eq_some_iff.1 hend'
  have hsame : (Run.direct (.ofPlan plan) { cancelAt := some 3 }).before 3 stopped =
      (Run.direct (.ofPlan plan) {}).before 3 events := by decide
  obtain ⟨-, hcut⟩ := Run.cut_by_cancellation (by decide) hr hfinished hquiet
  obtain ⟨-, -, hresult⟩ := hcut stopped r' hr' (Run.over_of_finished hfinished') hsame
  obtain ⟨hnow', hheld, halerts⟩ := hresult (by rw [hnow]; decide)
  exact ⟨r', hr', hnow', hheld, halerts⟩

end Cut

end SearchPlan
