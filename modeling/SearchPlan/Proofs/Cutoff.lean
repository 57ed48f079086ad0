import SearchPlan.Proofs.Node.Punctual
import SearchPlan.Proofs.Punctuality
import SearchPlan.Proofs.Run.Trace

/-! What the scripts of a plan without caps send in a direct run that nobody cancels. A script goes
by its own steps until the first of the jobs above it ends. -/

namespace SearchPlan

/-- The batches that a script sends if it takes these steps from `now` on, each with the time. -/
def Step.schedule (now : Nat) : List Step → List (Nat × Batch)
  | [] => []
  | .sleep d :: rest => schedule (now + d.millis) rest
  | .emit b :: rest => (now, b) :: schedule now rest

def Script.schedule (s : Script) : List (Nat × Batch) := Step.schedule 0 s.steps

def Flow.batches : Flow → List Batch
  | .handed b _ => [b]
  | _ => []

/-- A script has sent the batches of its schedule so far, and was stopped at `cut` if at all. -/
inductive Phase.Course (cut : ℕ∞) (now : Nat) (s : Script) :
    Phase → Probe → List (Nat × Batch) → Prop
  | idle : now = 0 → pr.stopped = false → Course cut now s .idle pr []
  | running : now + Step.naps rest = Step.naps s.steps →
      sent ++ Step.schedule now rest = s.schedule → pr.stopped = false →
      Course cut now s (.running rest) pr sent
  | sleeping : now ≤ wakeAt → wakeAt + Step.naps rest = Step.naps s.steps →
      sent ++ Step.schedule wakeAt rest = s.schedule → pr.stopped = false →
      Course cut now s (.sleeping wakeAt rest) pr sent
  | finished : Step.naps s.steps ≤ cut → sent = s.schedule → pr.stopped = false →
      Course cut now s (.returned e fired) pr sent
  | stopped {due : Nat} : cut ≤ due → due + Step.naps rest = Step.naps s.steps →
      sent ++ Step.schedule due rest = s.schedule → pr.stopped = true →
      Course cut now s (.returned e fired) pr sent
  | skipped : cut = 0 → Course cut now s .skipped pr []

variable {c : Context} {m : Move} {f : Flow} {now now' : Nat} {s : Script}
  {sent : List (Nat × Batch)} {x : Nat × Batch} {cut : ℕ∞}

theorem Step.le_of_mem_schedule {steps : List Step} (h : x ∈ schedule now steps) : now ≤ x.1 := by
  induction steps generalizing now with
  | nil => cases h
  | cons st rest ih =>
    cases st with
    | sleep d => exact Nat.le_trans (Nat.le_add_right _ _) (ih h)
    | emit b =>
      rcases List.mem_cons.1 h with rfl | h
      · exact Nat.le_refl _
      · exact ih h

namespace Phase

variable {ph ph' : Phase} {pr pr' : Probe}

theorem Moves.course (h : Moves c s m ph pr ph' pr' f) (ht : ph.Course cut c.now s pr sent)
    (hnow : c.now ≤ cut) (hfired : c.fired = true → cut ≤ c.now)
    (hw : ∀ b, c.waits b = false) :
    ph'.Course cut c.now s pr' (sent ++ f.batches.map (c.now, ·)) := by
  cases h with
  | queue _ hb => simp [hw] at hb
  | emit =>
    obtain _ | ⟨hnaps, hsent, hpr⟩ := ht
    refine .running ?_ ?_ hpr
    · rwa [Step.naps_cons, Step.nap, Nat.zero_add] at hnaps
    · rw [List.append_assoc]
      exact hsent
  | skip hc =>
    obtain ⟨hzero, -⟩ := ht
    have hcut := hfired hc
    rw [hzero] at hcut
    exact .skipped (le_antisymm hcut zero_le)
  | start =>
    obtain ⟨hzero, hpr⟩ := ht
    exact .running (by rw [hzero, Nat.zero_add]) (by rw [hzero]; rfl) hpr
  | finish =>
    obtain _ | ⟨hnaps, hsent, hpr⟩ := ht
    have hnaps : c.now = Step.naps s.steps := hnaps
    rw [hnaps] at hnow
    exact .finished hnow hsent hpr
  | stop hc =>
    obtain _ | ⟨hnaps, hsent, hpr⟩ := ht
    exact .stopped (hfired hc) hnaps (by simpa [Flow.batches] using hsent) rfl
  | pass _ hd =>
    obtain _ | ⟨hnaps, hsent, hpr⟩ := ht
    rw [Step.naps_cons, Step.nap, hd, Nat.zero_add] at hnaps
    rw [Step.schedule, hd] at hsent
    exact .running hnaps (by simpa [Flow.batches] using hsent) hpr
  | sleep =>
    obtain _ | ⟨hnaps, hsent, hpr⟩ := ht
    rw [Step.naps_cons, Step.nap, ← Nat.add_assoc] at hnaps
    rw [Step.schedule] at hsent
    exact .sleeping (Nat.le_add_right _ _) hnaps (by simpa [Flow.batches] using hsent) hpr
  | wake hdue =>
    cases ht with
    | sleeping hle hnaps hsent hpr =>
      rw [← Nat.le_antisymm hle hdue] at hnaps hsent
      exact .running hnaps (by simpa [Flow.batches] using hsent) hpr
  | resume => cases ht
  | halt hc =>
    cases ht with
    | sleeping hle hnaps hsent hpr =>
      have hcut := (hfired hc).trans (Nat.cast_le.2 hle)
      exact .stopped hcut hnaps (by simpa [Flow.batches] using hsent) rfl

theorem Course.tick (ht : ph.Course cut c.now s pr sent) (hx : ph.next? c = none)
    (ha : ∀ wakeAt rest, ph = .sleeping wakeAt rest → c.now < wakeAt → now' ≤ wakeAt) :
    ph.Course cut now' s pr sent := by
  cases ht with
  | sleeping hle hnaps hsent hpr =>
    simp only [next?] at hx
    split at hx
    · cases hx
    case isFalse hdue => exact .sleeping (ha _ _ rfl (Nat.lt_of_not_le hdue)) hnaps hsent hpr
  | finished hcut hsent hpr => exact .finished hcut hsent hpr
  | stopped hcut hnaps hsent hpr => exact .stopped hcut hnaps hsent hpr
  | skipped hcut => exact .skipped hcut
  | _ => cases hx

theorem Course.result {name : String} (ht : ph.Course cut now s pr sent)
    (ho : (ph.outcome? name).isSome) :
    (∃ rest, sent ++ rest = s.schedule ∧ ∀ x ∈ rest, cut ≤ x.1) ∧
      (0 < cut → (cut < Step.naps s.steps → pr.stopped = true) ∧
        (Step.naps s.steps < cut → pr.stopped = false)) := by
  cases ht with
  | finished hcut hsent hpr =>
    refine ⟨⟨[], by rw [List.append_nil, hsent], nofun⟩, ?_⟩
    intro _
    exact ⟨fun hlt => absurd hcut (not_le.2 hlt), fun _ => hpr⟩
  | stopped hcut hnaps hsent hpr =>
    refine ⟨⟨_, hsent, ?_⟩, ?_⟩
    · intro x hx
      exact hcut.trans (Nat.cast_le.2 (Step.le_of_mem_schedule hx))
    · intro _
      refine ⟨fun _ => hpr, ?_⟩
      intro hlt
      have hle := hcut.trans (Nat.cast_le.2 (Nat.le.intro hnaps))
      exact absurd hle (not_le.2 hlt)
  | skipped hcut =>
    refine ⟨⟨s.schedule, rfl, ?_⟩, ?_⟩
    · intro x _
      rw [hcut]
      exact zero_le
    · intro hlt
      exact absurd hlt (by rw [hcut]; exact lt_irrefl 0)
  | _ => cases ho

end Phase

namespace Run

variable {p : Plan} {q : Path} {r r' k : Run} {e : Event} {es : List Event}

/-- The batches that the script at a path sends in an event. -/
def sends (q : Path) (r : Run) : Event → List Batch
  | .move p m =>
    if p = q then
      match (r.tree.at? q).bind (Node.step m [] (r.tree.sees q r.context)) with
      | some (_, f) => f.batches
      | none => []
    else []
  | _ => []

/-- The batches that the script at a path sends in a run, each with the time. -/
def sendings (q : Path) (es : List Event) (r : Run) : List (Nat × Batch) :=
  (r.trace es).flatMap fun (k, e) => (k.sends q e).map (k.now, ·)

theorem sendings_nil (q : Path) (r : Run) : r.sendings q [] = [] := rfl

theorem sendings_cons (h : r.step e = some k) (q : Path) (es : List Event) :
    r.sendings q (e :: es) = (r.sends q e).map (r.now, ·) ++ k.sendings q es := by
  rw [sendings, trace_cons h, List.flatMap_cons]
  rfl

/-- A run on time in which the script at `q` has sent these batches. -/
structure Courses (p : Plan) (q : Path) (s : Script) (r : Run) (sent : List (Nat × Batch)) :
    Prop where
  onTime : r.OnTime p
  reached : Node.Reached p r.tree
  punctual : r.tree.Punctual r.now p
  course : ∃ ph pr, r.tree.at? q = some (.leaf s ph pr) ∧
    ph.Course (p.cut q) r.now s pr sent ∧ (ph.outcome? s.name = none → r.now ≤ p.cut q)
  sent_le : ∀ x ∈ sent, x.1 ≤ p.cut q

theorem courses_direct (h : p.uncapped = true) (hq : p.at? q = some (.leaf s)) :
    (direct (.ofPlan p) {}).Courses p q s [] where
  onTime := onTime_direct h
  reached := ⟨[], rfl⟩
  punctual := Node.punctual_ofPlan h
  course := ⟨.idle, {}, Node.ofPlan_at? hq, .idle rfl rfl, fun _ => zero_le⟩
  sent_le := nofun

namespace Courses

/-- The token of the script fires when a job above it ends. -/
theorem cut_le_now (h : r.Courses p q s sent) (hq : p.at? q = some (.leaf s))
    (hk : r.tree.at? q = some n) (hfired : (r.tree.sees q r.context).fired = true) :
    p.cut q ≤ r.now := by
  rw [Node.sees_fired hk, h.onTime.context_fired, Bool.false_or] at hfired
  exact h.punctual.cut_le_now h.reached hq hfired

theorem sees_waits (h : r.Courses p q s sent) (b : Batch) :
    (r.tree.sees q r.context).waits b = false := by
  apply Bool.eq_false_iff.2
  intro hb
  obtain ⟨b', hb'⟩ := Node.sees_waits hb
  rw [h.onTime.direct.context_waits] at hb'
  cases hb'

theorem move {m : Move} {p' : Path} {n : Node} (h : r.Courses p q s sent)
    (hq : p.at? q = some (.leaf s)) (hm : Node.Moves m p' r.context r.tree n f) :
    ∃ ph' pr', n.at? q = some (.leaf s ph' pr') ∧
      ph'.Course (p.cut q) r.now s pr' (sent ++ (r.sends q (.move p' m)).map (r.now, ·)) ∧
      (ph'.outcome? s.name = none → r.now ≤ p.cut q) ∧
      ∀ b ∈ r.sends q (.move p' m), r.now ≤ p.cut q := by
  obtain ⟨ph, pr, hk, hcourse, hnow⟩ := h.course
  by_cases hp : p' = q
  · subst hp
    rw [← List.append_nil p'] at hm
    obtain ⟨k, k', f', hat, hat', hm⟩ := hm.of_append
    obtain rfl : Node.leaf s ph pr = k := Option.some.inj (hk.symm.trans hat)
    have hsends : r.sends p' (.move p' m) = f'.batches := by
      simp only [sends, if_true, hk, Option.bind_some, Node.step_of_moves hm]
    have hsees : (r.tree.sees p' r.context).now = r.now := by
      rw [Node.sees_now, context_now]
    cases hm with
    | leaf hm =>
      have hle := hnow (hm.outcome?_eq_none _)
      rw [hsends]
      refine ⟨_, _, hat', ?_, fun _ => hle, fun _ _ => hle⟩
      rw [← hsees] at hcourse hle ⊢
      apply hm.course hcourse hle ?_ h.sees_waits
      rw [hsees]
      exact h.cut_le_now hq hk
  · have hsends : r.sends q (.move p' m) = [] := if_neg hp
    obtain ⟨k', hat'⟩ := hm.exists_at? hk
    obtain ⟨k, hat, hmove⟩ := hm.at? hat'
    obtain rfl : Node.leaf s ph pr = k := Option.some.inj (hk.symm.trans hat)
    obtain rfl : k' = .leaf s ph pr := by
      refine hmove.resolve_right ?_
      rintro ⟨r', f', hp', hleaf⟩
      cases hleaf
      exact hp (hp'.trans (List.append_nil q))
    rw [hsends, List.map_nil, List.append_nil]
    exact ⟨ph, pr, hat', hcourse, hnow, nofun⟩

theorem tick {time : Nat} (h : r.Courses p q s sent) (hq : p.at? q = some (.leaf s))
    (hx : r.nextMove? = none) (ha : r.alarms.min? = some time)
    (hpunctual : r.tree.Punctual time p) :
    ∃ ph pr, r.tree.at? q = some (.leaf s ph pr) ∧ ph.Course (p.cut q) time s pr sent ∧
      (ph.outcome? s.name = none → time ≤ p.cut q) := by
  obtain ⟨ph, pr, hk, hcourse, -⟩ := h.course
  have hstill := (h.onTime.direct.still hx).at? hk
  refine ⟨ph, pr, hk, ?_, ?_⟩
  · rw [← context_now r, ← Node.sees_now q r.context r.tree] at hcourse
    apply hcourse.tick (Option.map_eq_none_iff.1 hstill.next)
    rintro wakeAt rest rfl hlt
    rw [Node.sees_now, context_now] at hlt
    have hmem : wakeAt ∈ r.tree.alarms := Node.alarms_at? hk (List.mem_singleton_self _)
    exact (List.min?_eq_some_iff.1 ha).2 wakeAt (by simp [alarms, hmem, hlt])
  · intro ho
    apply hpunctual.now_le_cut hk hq ?_ ho
    -- a script that has been told to stop has come back before the clock goes on
    apply Bool.eq_false_iff.2
    intro htold
    have hended := hstill.ended (by rw [Node.sees_fired hk, htold, Bool.or_true])
    rw [Node.outcome?, ho] at hended
    cases hended

theorem happens (h : r.Courses p q s sent) (hq : p.at? q = some (.leaf s))
    (hopen : r.finished = false) (he : Happens r e r') :
    r'.Courses p q s (sent ++ (r.sends q e).map (r.now, ·)) := by
  have honTime := h.onTime.happens hopen he
  cases he with
  | @move m p' n f hm =>
    obtain ⟨ph, pr, hk, hcourse, hnow, hsends⟩ := h.move hq hm
    refine ⟨honTime, h.reached.move hm, ?_, ⟨ph, pr, hk, hcourse, hnow⟩, ?_⟩
    · have hpunctual := h.punctual
      rw [← context_now r] at hpunctual
      have := hpunctual.move hm h.onTime.context_fired h.onTime.direct.context_waits h.onTime.free
      rwa [context_now r] at this
    · apply List.forall_mem_append.2 ⟨h.sent_le, ?_⟩
      intro x hx
      obtain ⟨b, hb, rfl⟩ := List.mem_map.1 hx
      exact hsends b hb
  | cancel _ ht => simp [h.onTime.cancelAt] at ht
  | read hgone => simp [h.onTime.reader] at hgone
  | leave hgone => simp [h.onTime.reader] at hgone
  | @tick time hx _ _ ha =>
    obtain ⟨hmem, hle⟩ := List.min?_eq_some_iff.1 ha
    have hlt : r.now < time := by simpa using (List.mem_filter.1 hmem).2
    have hpunctual : r.tree.Punctual time p := by
      apply h.punctual.tick (h.onTime.pauses hx) hlt
      intro a hmem hlt
      exact hle a (by simp [alarms, hmem, hlt])
    have hsends : r.sends q .tick = [] := rfl
    rw [hsends, List.map_nil, List.append_nil]
    exact ⟨honTime, h.reached, hpunctual, h.tick hq hx ha hpunctual, h.sent_le⟩

theorem follow (h : r.Courses p q s sent) (hq : p.at? q = some (.leaf s))
    (hes : r.follow es = some r') : r'.Courses p q s (sent ++ r.sendings q es) := by
  induction es generalizing r sent with
  | nil =>
    cases hes
    rwa [sendings_nil, List.append_nil]
  | cons e es ih =>
    obtain ⟨k, hk, hes⟩ := follow_cons_eq_some.1 hes
    obtain ⟨hopen, he⟩ := happens_of_step hk
    rw [sendings_cons hk, ← List.append_assoc]
    exact ih (h.happens hq hopen he) hes

end Courses

/-- Whatever the order of its events, in the whole of a direct run of a plan without caps that
nobody cancels each script sends the first batches of its schedule, all those that are due before
the first of the jobs above it ends and none that is due after that. Its probe says whether it was
stopped, if its own end is not at that time and this is not the start of the run. -/
theorem sends_until_cut (hp : p.uncapped = true) (hq : p.at? q = some (.leaf s))
    (h : (direct (.ofPlan p) {}).follow es = some r) (hover : r.Over) :
    ∃ ph pr rest, r.tree.at? q = some (.leaf s ph pr) ∧
      (direct (.ofPlan p) {}).sendings q es ++ rest = s.schedule ∧
      (∀ x ∈ (direct (.ofPlan p) {}).sendings q es, x.1 ≤ p.cut q) ∧
      (∀ x ∈ rest, p.cut q ≤ x.1) ∧
      (0 < p.cut q → (p.cut q < (Plan.leaf s).forecast.time → pr.stopped = true) ∧
        ((Plan.leaf s).forecast.time < p.cut q → pr.stopped = false)) := by
  have hr := (courses_direct hp hq).follow hq h
  rw [List.nil_append] at hr
  obtain ⟨ph, pr, hk, hcourse, -⟩ := hr.course
  have hended : r.tree.outcome?.isSome :=
    (Bool.and_eq_true_iff.1 (hover.finished hr.onTime.exists_step)).1
  obtain ⟨⟨rest, hrest, hlate⟩, hstopped⟩ := hcourse.result (Node.ended_at? hended hk)
  exact ⟨ph, pr, rest, hk, hrest, hr.sent_le, hlate, hstopped⟩

end Run

/-! A script under a deadline that never passes, stopped by another one that succeeds first. -/

namespace Outrun

def fast : Script := { name := "fast", steps := [.sleep (.ofMillis 2)] }

def slow : Script :=
  { name := "slow"
    steps := [.emit [.ofRepo "a"], .sleep (.ofMillis 1), .emit [.ofRepo "b"],
      .sleep (.ofMillis 4), .emit [.ofRepo "c"]] }

def plan : Plan := .group .or (.leaf fast) [.timeout (.ofMillis 9) (.leaf slow)]

def events : List Event :=
  [.move [0] .act, .move [1, 0] .act, .move [1, 0] .act, .move [1, 0] .act, .move [0] .act,
    .tick, .move [1, 0] .act, .move [1, 0] .act, .move [1, 0] .act, .tick, .move [0] .act,
    .move [0] .act, .move [1, 0] .halt]

theorem two_sent : ∃ r ph pr, (Run.direct (.ofPlan plan) {}).follow events = some r ∧ r.Over ∧
    plan.cut [1, 0] = 2 ∧
    (Run.direct (.ofPlan plan) {}).sendings [1, 0] events =
      [(0, [.ofRepo "a"]), (1, [.ofRepo "b"])] ∧
    r.tree.at? [1, 0] = some (.leaf slow ph pr) ∧ pr.stopped = true := by
  have hend : ((Run.direct (.ofPlan plan) {}).follow events).map Run.finished = some true := rfl
  obtain ⟨r, hr, hfinished⟩ := Option.map_eq_some_iff.1 hend
  have hover := Run.over_of_finished hfinished
  have hcut : plan.cut [1, 0] = 2 := by decide +kernel
  obtain ⟨ph, pr, rest, hk, -, -, -, hstopped⟩ :=
    Run.sends_until_cut (p := plan) rfl (q := [1, 0]) rfl hr hover
  rw [hcut] at hstopped
  exact ⟨r, ph, pr, hr, hover, hcut, by decide +kernel, hk,
    (hstopped (by decide)).1 (by decide +kernel)⟩

end Outrun

end SearchPlan
