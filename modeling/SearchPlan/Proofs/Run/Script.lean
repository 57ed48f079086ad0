import SearchPlan.Proofs.Cutoff
import SearchPlan.Proofs.Liveness
import SearchPlan.Proofs.Node.Memory

/-! A script that is run on its own into a collector. It goes by its steps and comes back as it
says, unless its token fires first: then it stops there, wherever in its sleeps it is. -/

namespace SearchPlan

/-- The times at which a script that takes these steps from `now` on comes out of its sleeps. -/
def Step.wakes (now : Nat) : List Step → List Nat
  | [] => []
  | .sleep d :: rest => (now + d.millis) :: wakes (now + d.millis) rest
  | .emit _ :: rest => wakes now rest

/-- What is seen of a script in one run in which it sends these batches. -/
def Probe.ofSent (sent : List (Nat × Batch)) (stopped : Bool) : Probe where
  runs := 1
  emitted := (sent.flatMap (·.2)).length
  stopped := stopped

theorem Probe.ofSent_concat (sent : List (Nat × Batch)) (stopped : Bool) (now : Nat) (b : Batch) :
    ofSent (sent ++ [(now, b)]) stopped = (ofSent sent stopped).emit b.length := by
  simp [ofSent, emit]

/-- The part of a schedule before a time that comes before all of the rest. -/
theorem Step.filter_schedule {now c : Nat} {s : Script} {rest : List Step}
    {sent : List (Nat × Batch)} (hsent : sent ++ schedule now rest = s.schedule)
    (hearly : ∀ x ∈ sent, x.1 < c) (hlate : c ≤ now) :
    s.schedule.filter (·.1 < c) = sent := by
  rw [← hsent, List.filter_append, List.filter_eq_self.2 fun x hx => decide_eq_true (hearly x hx),
    List.filter_eq_nil_iff.2, List.append_nil]
  intro x hx
  have := le_of_mem_schedule hx
  simp only [decide_eq_true_eq]
  omega

namespace Phase

/-- A script whose token, if it fires at all, does so at a time that is none of its `wakes`. It has
sent the batches of its schedule up to now, or to that time, by which it was then stopped. -/
inductive Solo (s : Script) (old : Probe) (cancelAt : Option Nat) (fired : Bool) (now : Nat) :
    Phase → Probe → List (Nat × Batch) → Prop
  | running : fired = false → (∀ c ∈ cancelAt, now < c ∧ c ∉ Step.wakes now rest) →
      now + Step.naps rest = Step.naps s.steps → sent ++ Step.schedule now rest = s.schedule →
      (∀ x ∈ sent, x.1 ≤ now) →
      Solo s old cancelAt fired now (.running rest) (old.plus (.ofSent sent false)) sent
  | sleeping : (fired = true → cancelAt = some now) → now ≤ wakeAt →
      (∀ c ∈ cancelAt, now ≤ c ∧ c ≠ wakeAt ∧ c ∉ Step.wakes wakeAt rest) →
      wakeAt + Step.naps rest = Step.naps s.steps →
      sent ++ Step.schedule wakeAt rest = s.schedule →
      (∀ x ∈ sent, x.1 ≤ now ∧ ∀ c ∈ cancelAt, x.1 < c) →
      Solo s old cancelAt fired now (.sleeping wakeAt rest) (old.plus (.ofSent sent false)) sent
  | finished : (∀ c ∈ cancelAt, now < c) → now = Step.naps s.steps → sent = s.schedule →
      Solo s old cancelAt fired now (.returned s.ending f) (old.plus (.ofSent sent false)) sent
  | stopped : cancelAt = some now → now < Step.naps s.steps → sent = s.schedule.filter (·.1 < now) →
      Solo s old cancelAt fired now (.returned (.finished .partialSuccess) f)
        (old.plus (.ofSent sent true)) sent

variable {c : Context} {m : Move} {f : Flow} {s : Script} {old pr pr' : Probe} {ph ph' : Phase}
  {cancelAt : Option Nat} {sent : List (Nat × Batch)}

theorem Moves.solo (h : Moves c s m ph pr ph' pr' f)
    (hs : ph.Solo s old cancelAt c.fired c.now pr sent) (hw : ∀ b, c.waits b = false) :
    ph'.Solo s old cancelAt c.fired c.now pr' (sent ++ f.batches.map (c.now, ·)) := by
  cases h with
  | queue _ hb => simp [hw] at hb
  | skip => cases hs
  | start => cases hs
  | resume => cases hs
  | finish =>
    simp only [Flow.batches, List.map_nil, List.append_nil]
    obtain ⟨-, hcancel, hnaps, hsent, -⟩ := hs
    exact .finished (fun c hc => (hcancel c hc).1) hnaps (by simpa [Step.schedule] using hsent)
  | stop hc =>
    obtain ⟨hlive, -⟩ := hs
    rw [hlive] at hc
    cases hc
  | pass _ hd =>
    simp only [Flow.batches, List.map_nil, List.append_nil]
    obtain ⟨hlive, hcancel, hnaps, hsent, hearly⟩ := hs
    rw [Step.naps_cons, Step.nap, hd, Nat.zero_add] at hnaps
    rw [Step.schedule, hd] at hsent
    simp only [Step.wakes, hd, Nat.add_zero, List.mem_cons, not_or] at hcancel
    exact .running hlive (fun c hc => ⟨(hcancel c hc).1, (hcancel c hc).2.2⟩) hnaps hsent hearly
  | sleep _ hd =>
    simp only [Flow.batches, List.map_nil, List.append_nil]
    obtain ⟨hlive, hcancel, hnaps, hsent, hearly⟩ := hs
    rw [Step.naps_cons, Step.nap, ← Nat.add_assoc] at hnaps
    simp only [Step.wakes, List.mem_cons, not_or] at hcancel
    refine .sleeping ?_ (Nat.le_add_right _ _) ?_ hnaps hsent ?_
    · rw [hlive]
      exact fun hfired => absurd hfired Bool.false_ne_true
    · intro c hc
      exact ⟨Nat.le_of_lt (hcancel c hc).1, (hcancel c hc).2⟩
    · intro x hx
      exact ⟨hearly x hx, fun c hc => Nat.lt_of_le_of_lt (hearly x hx) (hcancel c hc).1⟩
  | @emit b rest =>
    obtain ⟨hlive, hcancel, hnaps, hsent, hearly⟩ := hs
    rw [Step.naps_cons, Step.nap, Nat.zero_add] at hnaps
    rw [Probe.emit_plus, ← Probe.ofSent_concat]
    refine .running hlive hcancel hnaps ?_ ?_
    · rw [List.append_assoc]
      exact hsent
    · exact List.forall_mem_append.2 ⟨hearly, List.forall_mem_singleton.2 (Nat.le_refl _)⟩
  | wake hdue =>
    simp only [Flow.batches, List.map_nil, List.append_nil]
    cases hs with
    | sleeping hfired hle hcancel hnaps hsent hearly =>
      obtain rfl := Nat.le_antisymm hle hdue
      refine .running ?_ ?_ hnaps hsent fun x hx => (hearly x hx).1
      · exact Bool.eq_false_iff.2 fun hc => (hcancel _ (hfired hc)).2.1 rfl
      · intro c hc
        obtain ⟨hle, hne, hrest⟩ := hcancel c hc
        exact ⟨Nat.lt_of_le_of_ne hle (Ne.symm hne), hrest⟩
  | halt hc =>
    simp only [Flow.batches, List.map_nil, List.append_nil]
    cases hs with
    | sleeping hfired hle hcancel hnaps hsent hearly =>
      have hat := hfired hc
      have hlt : c.now < _ := Nat.lt_of_le_of_ne hle (hcancel _ hat).2.1
      rw [Probe.stop_plus]
      refine .stopped hat (Nat.lt_of_lt_of_le hlt (Nat.le.intro hnaps)) ?_
      exact (Step.filter_schedule hsent (fun x hx => (hearly x hx).2 _ hat)
        (Nat.le_of_lt hlt)).symm

/-- Time goes on only while the script sleeps, and no further than to its alarm or its token. -/
theorem Solo.tick {now time : Nat} (h : ph.Solo s old cancelAt false now pr sent)
    (hx : ph.next? c = none) (ho : ph.outcome? s.name = none) (hlt : now < time)
    (hwake : ∀ wakeAt rest, ph = .sleeping wakeAt rest → time ≤ wakeAt)
    (hcancel : ∀ c ∈ cancelAt, time ≤ c) : ph.Solo s old cancelAt false time pr sent := by
  cases h with
  | running => cases hx
  | sleeping hfired hle hc hnaps hsent hearly =>
    refine .sleeping nofun (hwake _ _ rfl) ?_ hnaps hsent ?_
    · intro c hmem
      exact ⟨hcancel c hmem, (hc c hmem).2⟩
    · intro x hx
      exact ⟨Nat.le_trans (hearly x hx).1 (Nat.le_of_lt hlt), (hearly x hx).2⟩
  | finished => cases ho
  | stopped => cases ho

theorem Solo.cancel {now time : Nat} (h : ph.Solo s old cancelAt false now pr sent)
    (ho : ph.outcome? s.name = none) (hat : cancelAt = some time) (hdue : time ≤ now) :
    ph.Solo s old cancelAt true now pr sent := by
  cases h with
  | running _ hc => exact absurd (hc time hat).1 (Nat.not_lt.2 hdue)
  | sleeping _ hle hc hnaps hsent hearly =>
    refine .sleeping (fun _ => ?_) hle hc hnaps hsent hearly
    rw [hat, Nat.le_antisymm hdue (hc time hat).1]
  | finished => cases ho
  | stopped => cases ho

end Phase

/-- A collector keeps the batches that are sent to it, but for the empty ones. -/
theorem Outlet.held_accept_eq (held : List Batch) (p : Path) (f : Flow) :
    ((collector held).accept p f).held = held ++ f.batches.filter (!·.isEmpty) := by
  cases f with
  | handed b waits => cases b <;> simp [accept, send, Outlet.held, Flow.batches]
  | _ => simp [accept, resume, Outlet.held, Flow.batches]

namespace Run

variable {s : Script} {old : Probe} {cancelAt : Option Nat} {sent : List (Nat × Batch)}
  {r r' : Run} {e : Event} {es : List Event}

/-- A run of the script alone in which it has sent these batches. -/
structure Solo (s : Script) (old : Probe) (cancelAt : Option Nat) (sent : List (Nat × Batch))
    (r : Run) : Prop extends Direct r where
  cancelAt_eq : r.cancelAt = cancelAt
  phase : ∃ ph pr, r.tree = .leaf s ph pr ∧ ph.Solo s old cancelAt r.fired r.now pr sent
  held : r.outlet.held = (sent.map (·.2)).filter (!·.isEmpty)

theorem not_waits_script (s : Script) (old : Probe) (caller : Caller) (q : Path) :
    ¬(script s old caller).tree.Waits q := by
  rintro ⟨s', size, rest, pr, hq⟩
  cases q <;> cases hq

theorem direct_script (s : Script) (old : Probe) (cancelAt : Option Nat) :
    (script s old { cancelAt }).Direct where
  free := not_waits_script s old _
  quota := rfl
  outlet := ⟨[], rfl⟩
  reader := rfl

theorem served_script (s : Script) (old : Probe) (caller : Caller) :
    (script s old caller).Served :=
  .collected rfl rfl (not_waits_script s old caller)

theorem solo_script (old : Probe) (hcancel : ∀ c ∈ cancelAt, 0 < c ∧ c ∉ Step.wakes 0 s.steps) :
    (script s old { cancelAt }).Solo s old cancelAt [] where
  toDirect := direct_script s old cancelAt
  cancelAt_eq := rfl
  phase := by
    have hstart : old.start = old.plus (.ofSent [] false) := by
      simp [Probe.start, Probe.plus, Probe.ofSent]
    refine ⟨_, _, rfl, ?_⟩
    rw [hstart]
    refine .running ?_ hcancel (Nat.zero_add _) rfl (List.forall_mem_nil _)
    exact decide_eq_false fun hzero => Nat.lt_irrefl 0 (hcancel 0 hzero).1
  held := rfl

theorem Solo.happens (h : r.Solo s old cancelAt sent) (hopen : r.finished = false)
    (he : Happens r e r') :
    r'.Solo s old cancelAt (sent ++ (r.sends [] e).map (r.now, ·)) := by
  have hdirect := h.toDirect.happens he
  obtain ⟨ph, pr, htree, hphase⟩ := h.phase
  have ho : ph.outcome? s.name = none := by
    have := h.toDirect.outcome?_eq_none hopen
    rwa [htree] at this
  cases he with
  | @move m p n f hm =>
    obtain ⟨held, hout⟩ := h.outlet
    have hstep := Node.step_of_moves hm
    rw [htree] at hm
    cases hm with
    | leaf hm =>
      have hsends : r.sends [] (.move [] m) = f.batches := by
        simp only [sends, if_true, Node.at?, Option.bind_some, Node.sees, hstep]
      rw [← context_fired, ← context_now] at hphase
      have hphase' := hm.solo hphase h.context_waits
      rw [context_fired, context_now] at hphase'
      rw [hsends]
      refine ⟨hdirect, h.cancelAt_eq, ⟨_, _, rfl, ?_⟩, ?_⟩
      · rwa [h.pass_eq, Bool.or_false]
      · have hheld := h.held
        rw [hout] at hheld
        rw [h.pass_eq, hout, Outlet.held_accept_eq, List.map_append, List.filter_append, ← hheld,
          List.map_map]
        simp [Function.comp_def, Outlet.held]
  | @cancel time hlive hat hdue =>
    have hnothing : r.sends [] .cancel = [] := rfl
    rw [hnothing, List.map_nil, List.append_nil]
    rw [hlive] at hphase
    exact ⟨hdirect, h.cancelAt_eq,
      ⟨ph, pr, htree, hphase.cancel ho (h.cancelAt_eq.symm.trans hat) hdue⟩, h.held⟩
  | @tick time hx hcancel _ ha =>
    have hnothing : r.sends [] .tick = [] := rfl
    rw [hnothing, List.map_nil, List.append_nil]
    have hlive : r.fired = false := Bool.eq_false_iff.2 fun hfired =>
      h.nextMove?_ne_none hopen hfired hx
    obtain ⟨hmem, hmin⟩ := List.min?_eq_some_iff.1 ha
    have hlt := (mem_alarms.1 hmem).1
    refine ⟨hdirect, h.cancelAt_eq, ⟨ph, pr, htree, ?_⟩, h.held⟩
    dsimp only
    rw [hlive] at hphase ⊢
    rw [nextMove?, htree] at hx
    refine hphase.tick (Option.map_eq_none_iff.1 hx) ho hlt ?_ ?_
    · rintro wakeAt rest rfl
      apply hmin
      refine tree_alarm (by rw [nextMove?, htree]; exact hx) ?_
      rw [htree]
      exact List.mem_singleton_self wakeAt
    · intro c hc
      have hat : r.cancelAt = some c := h.cancelAt_eq.trans hc
      -- a token that is due fires before the clock goes on
      have hnow : r.now < c := by
        apply Nat.lt_of_not_le
        intro hdue
        simp [cancel?, hlive, hat, hdue] at hcancel
      exact hmin c (mem_alarms.2 ⟨hnow, .inr (.inr ⟨hlive, hat⟩)⟩)
  | read hgone => simp [h.reader] at hgone
  | leave hgone => simp [h.reader] at hgone

theorem Solo.follow (h : r.Solo s old cancelAt sent) (hes : r.follow es = some r') :
    r'.Solo s old cancelAt (sent ++ r.sendings [] es) := by
  induction es generalizing r sent with
  | nil =>
    cases hes
    rwa [sendings_nil, List.append_nil]
  | cons e es ih =>
    obtain ⟨k, hk, hes⟩ := follow_cons_eq_some.1 hes
    obtain ⟨hopen, he⟩ := happens_of_step hk
    rw [sendings_cons hk, ← List.append_assoc]
    exact ih (h.happens hopen he) hes

/-- A script on its own has come back by these events: when and how, and what it has sent. -/
structure Recital (s : Script) (old : Probe) (caller : Caller) (es : List Event) (r : Run)
    (time : Nat) (e : Ending) (sent : List (Nat × Batch)) (stopped : Bool) : Prop where
  sends : (script s old caller).sendings [] es = sent
  held : r.outlet.held = (sent.map (·.2)).filter (!·.isEmpty)
  now : r.now = time
  ending : r.ending? = some e
  probes : r.tree.probes = [(s.name, old.plus (.ofSent sent stopped))]

theorem Solo.finished (hes : (script s old { cancelAt }).follow es = some r)
    (hcancel : ∀ c ∈ cancelAt, 0 < c ∧ c ∉ Step.wakes 0 s.steps) (hfinished : r.finished = true) :
    (∀ c ∈ cancelAt, Step.naps s.steps < c) ∧
        Recital s old { cancelAt } es r (Step.naps s.steps) s.ending s.schedule false ∨
      ∃ c, cancelAt = some c ∧ c < Step.naps s.steps ∧
        Recital s old { cancelAt } es r c (.finished .partialSuccess)
          (s.schedule.filter (·.1 < c)) true := by
  have h := (solo_script old hcancel).follow hes
  rw [List.nil_append] at h
  obtain ⟨ph, pr, htree, hphase⟩ := h.phase
  have hheld := h.held
  have hended := (Bool.and_eq_true_iff.1 hfinished).1
  rw [outcome?, htree] at hended
  generalize hsends : (script s old { cancelAt }).sendings [] es = sent at hphase hheld
  cases hphase with
  | running => cases hended
  | sleeping => cases hended
  | finished hc hnow hsent =>
    subst hsent
    refine .inl ⟨by rwa [← hnow], hsends, hheld, hnow, ?_, ?_⟩
    · rw [ending?, htree]
    · rw [htree]
      rfl
  | stopped hat hlt hsent =>
    subst hsent
    refine .inr ⟨r.now, hat, hlt, hsends, hheld, rfl, ?_, ?_⟩
    · rw [ending?, htree]
    · rw [htree]
      rfl

/-- A script whose token has fired looks at it before a step, but not before it comes back. -/
theorem Happens.of_script {steps : List Step} {pr : Probe} (h : Happens r e r') (hd : r.Direct)
    (hopen : r.finished = false) (htree : r.tree = .leaf s (.running steps) pr)
    (hfired : r.fired = true) :
    r.sends [] e = [] ∧ r'.outlet = r.outlet ∧ r'.now = r.now ∧
      r'.tree = if steps = [] then .leaf s (.returned s.ending true) pr
        else .leaf s (.returned (.finished .partialSuccess) true) pr.stop := by
  cases h with
  | @move m p n f hm =>
    have hstep := Node.step_of_moves hm
    have hcontext : r.context.fired = true := by rw [context_fired, hfired]
    rw [htree] at hm
    cases hm with
    | leaf hm =>
      have hsends : r.sends [] (.move [] m) = f.batches := by
        simp only [sends, if_true, Node.at?, Option.bind_some, Node.sees, hstep]
      rw [hsends, hd.pass_eq]
      cases hm with
      | finish =>
        rw [hcontext]
        exact ⟨rfl, rfl, rfl, rfl⟩
      | stop => exact ⟨rfl, rfl, rfl, rfl⟩
      | pass hc => simp [hcontext] at hc
      | sleep hc => simp [hcontext] at hc
      | queue hc => simp [hcontext] at hc
      | emit hc => simp [hcontext] at hc
  | cancel hlive =>
    rw [hfired] at hlive
    cases hlive
  | tick hx => exact absurd hx (hd.nextMove?_ne_none hopen hfired)
  | read hgone => simp [hd.reader] at hgone
  | leave hgone => simp [hd.reader] at hgone

/-- A script whose token has fired before its start comes back with its first event. -/
theorem forestalled (hes : (script s old { cancelAt := some 0 }).follow es = some r)
    (hfinished : r.finished = true) :
    Recital s old { cancelAt := some 0 } es r 0
      (if s.steps = [] then s.ending else .finished .partialSuccess) [] (!s.steps.isEmpty) := by
  cases es with
  | nil =>
    cases hes
    cases hfinished
  | cons e es =>
    obtain ⟨k, he, hes⟩ := follow_cons_eq_some.1 hes
    obtain ⟨hopen, hhappens⟩ := happens_of_step he
    have hdirect := direct_script s old (some 0)
    obtain ⟨hsends, hout, hnow, htree⟩ := hhappens.of_script hdirect hopen rfl rfl
    have hreader := (hdirect.happens hhappens).reader
    have hk : k.finished = true := by
      rw [finished, outcome?, htree, hreader]
      split <;> rfl
    obtain ⟨rfl, rfl⟩ := eq_of_over (over_of_finished hk) hes
    refine ⟨?_, ?_, hnow, ?_, ?_⟩
    · rw [sendings_cons he, hsends]
      rfl
    · rw [hout]
      rfl
    · rw [ending?, htree, apply_ite some]
      by_cases hnil : s.steps = []
      · rw [if_pos hnil, if_pos hnil]
      · rw [if_neg hnil, if_neg hnil]
    · rw [htree]
      by_cases hnil : s.steps = []
      · simp [Node.probes, hnil, Probe.start, Probe.plus, Probe.ofSent]
      · simp [Node.probes, hnil, Probe.start, Probe.plus, Probe.ofSent, Probe.stop]

variable (s) (old) in
/-- A script on its own does come back. If its token does not fire it has sent its whole schedule,
and comes back at the end of its sleeps as it says. A token that fires later than that changes
nothing, and one that fires earlier, inside a sleep, stops it there. One that has fired before the
start leaves it only its ending, and that only if there is no step before it. -/
theorem recited_unless_interrupted (cancelAt : Option Nat) :
    (∃ es r, (script s old { cancelAt }).follow es = some r ∧ r.finished = true) ∧
    ∀ es r, (script s old { cancelAt }).follow es = some r → r.Over →
      r.finished = true ∧
      (cancelAt = none →
        Recital s old { cancelAt } es r (Step.naps s.steps) s.ending s.schedule false) ∧
      (∀ c, cancelAt = some c → 0 < c → c ∉ Step.wakes 0 s.steps →
        (Step.naps s.steps < c →
          Recital s old { cancelAt } es r (Step.naps s.steps) s.ending s.schedule false) ∧
        (c < Step.naps s.steps →
          Recital s old { cancelAt } es r c (.finished .partialSuccess)
            (s.schedule.filter (·.1 < c)) true)) ∧
      (cancelAt = some 0 →
        Recital s old { cancelAt } es r 0
          (if s.steps = [] then s.ending else .finished .partialSuccess) []
          (!s.steps.isEmpty)) := by
  have hserved := served_script s old { cancelAt }
  refine ⟨hserved.exists_finished, fun es r hes hover => ?_⟩
  have hfinished := hover.finished (hserved.follow hes).exists_step
  refine ⟨hfinished, ?_, ?_, ?_⟩
  · rintro rfl
    obtain ⟨-, hdone⟩ | ⟨c, hc, -⟩ := Solo.finished hes nofun hfinished
    · exact hdone
    · cases hc
  · rintro c rfl hpos hwake
    have hcancel : ∀ c' ∈ some c, 0 < c' ∧ c' ∉ Step.wakes 0 s.steps := by
      rintro c' ⟨⟩
      exact ⟨hpos, hwake⟩
    obtain ⟨hlater, hdone⟩ | ⟨c', ⟨⟩, hlt, hcut⟩ := Solo.finished hes hcancel hfinished
    · exact ⟨fun _ => hdone, fun hlt => absurd (hlater c rfl) (Nat.lt_asymm hlt)⟩
    · exact ⟨fun hlater => absurd hlater (Nat.lt_asymm hlt), fun _ => hcut⟩
  · rintro rfl
    exact forestalled hes hfinished

end Run

/-! A failing script that has slept for less than a millisecond, not at all, and then too long. -/

namespace Roused

def text : Script where
  name := "text"
  steps := [.emit [.ofRepo "a"], .sleep ⟨1500⟩, .emit [], .emit [.ofRepo "b", .ofRepo "c"],
    .sleep ⟨0⟩, .sleep (.ofMillis 4), .emit [.ofRepo "d"]]
  failure := some (.unavailable "text")

def events : List Event :=
  [.move [] .act, .move [] .act, .tick, .move [] .act, .move [] .act, .move [] .act, .move [] .act,
    .move [] .act, .tick, .cancel, .move [] .halt]

theorem three_sent : ∃ r, (Run.script text {} { cancelAt := some 3 }).follow events = some r ∧
    r.Over ∧ 0 < 3 ∧ 3 ∉ Step.wakes 0 text.steps ∧ 3 < Step.naps text.steps ∧
    Run.Recital text {} { cancelAt := some 3 } events r 3 (.finished .partialSuccess)
      [(0, [.ofRepo "a"]), (1, []), (1, [.ofRepo "b", .ofRepo "c"])] true := by
  have hend : ((Run.script text {} { cancelAt := some 3 }).follow events).map Run.finished =
    some true := rfl
  obtain ⟨r, hr, hfinished⟩ := Option.map_eq_some_iff.1 hend
  have hover := Run.over_of_finished hfinished
  have hwake : 3 ∉ Step.wakes 0 text.steps := by decide
  have hearly : 3 < Step.naps text.steps := by decide
  have hcut := (((Run.recited_unless_interrupted text {} (some 3)).2 events r hr hover).2.2.1
    3 rfl (by decide) hwake).2 hearly
  have hsent : text.schedule.filter (·.1 < 3) =
    [(0, [.ofRepo "a"]), (1, []), (1, [.ofRepo "b", .ofRepo "c"])] := by decide
  rw [hsent] at hcut
  exact ⟨r, hr, hover, by decide, hwake, hearly, hcut⟩

end Roused

end SearchPlan
