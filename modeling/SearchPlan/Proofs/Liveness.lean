import SearchPlan.Proofs.Plan.Scripts
import SearchPlan.Proofs.Run.Line
import SearchPlan.Proofs.Run.Termination

/-! Every run comes to its end: there is only so much work in it, and as long as it is not over
something can happen. A run into a collector ends before its longest script would have slept out. -/

namespace SearchPlan

namespace Run

/-- What comes of a run by a list of events if its reader may take another pause at any time. -/
inductive Paced (r : Run) : List Event → Run → Prop
  | refl : Paced r [] r
  | event : Paced r es k → k.step e = some r' → Paced r (es ++ [e]) r'
  | pause : Paced r es k → Paced r es { k with reader := { k.reader with pause } }

variable {r r' r₀ : Run} {e : Event} {es : List Event} {p : Plan} {n : Node} {time : Nat}

theorem Paced.of_follow (h : r.follow es = some r') : Paced r es r' := by
  induction es using List.reverseRecOn generalizing r' with
  | nil =>
    cases h
    exact .refl
  | append_singleton es e ih =>
    rw [follow_append, Option.bind_eq_some_iff] at h
    obtain ⟨k, hk, h⟩ := h
    obtain ⟨k', hk', h⟩ := follow_cons_eq_some.1 h
    cases h
    exact .event (ih hk) hk'

/-- Each event takes some of the work, and no pause adds to it. -/
theorem Paced.length_add_work_le (h : Paced r es r') : es.length + r'.work ≤ r.work := by
  induction h with
  | refl => simp
  | event _ hstep ih =>
    have hlt := (happens_of_step hstep).2.work_lt
    rw [List.length_append, List.length_singleton]
    omega
  | pause _ ih => exact ih

theorem Paced.served (h : Paced r es r') (hr : r.Served) : r'.Served := by
  induction h with
  | refl => exact hr
  | event _ hstep ih =>
    obtain ⟨hopen, he⟩ := happens_of_step hstep
    exact ih.happens hopen he
  | pause _ ih =>
    cases ih with
    | collected ho hgone hfree => exact .collected ho hgone hfree
    | queued ho hcapacity hd hline hclosed => exact .queued ho hcapacity hd hline hclosed

theorem read?_ne_none {ch : Channel} (ho : r.outlet = .channel ch) (hgone : r.reader.gone = false)
    (hdue : r.reader.due ≤ r.now) (h : ch.read? ≠ none ∨ r.outcome?.isSome) : r.read? ≠ none := by
  cases hc : ch.read? with
  | some bc => simp [read?, hgone, Nat.not_lt.2 hdue, ho, hc]
  | none =>
    have hend := h.resolve_left (absurd hc)
    simp [read?, hgone, Nat.not_lt.2 hdue, ho, hc, hend]

/-- When nothing else can happen, a script sleeps, or the reader has yet to read. -/
theorem Served.exists_alarm (h : r.Served) (hopen : r.finished = false) (hx : r.nextMove? = none)
    (hread : r.read? = none) : ∃ time, time ∈ r.alarms := by
  have hreader {ch : Channel} (ho : r.outlet = .channel ch) (hgone : r.reader.gone = false)
      (hsome : ch.read? ≠ none ∨ r.outcome?.isSome) : ∃ time, time ∈ r.alarms := by
    refine ⟨_, mem_alarms.2 ⟨Nat.lt_of_not_le fun hdue => ?_, .inr (.inl ⟨hgone, rfl⟩)⟩⟩
    exact read?_ne_none ho hgone hdue hsome hread
  by_cases hfree : ∀ q, ¬r.tree.Waits q
  · cases ho : r.outcome? with
    | none =>
      obtain ⟨q, s, wakeAt, rest, pr, hs⟩ := Node.Still.exists_asleep ⟨hx, hfree⟩ ho
      exact ⟨wakeAt, tree_alarm hx (Node.alarms_at? hs (List.mem_singleton_self wakeAt))⟩
    | some o =>
      have hgone : r.reader.gone = false := by simpa [finished, ho] using hopen
      cases h with
      | collected _ hgone' => simp [hgone] at hgone'
      | queued hout => exact hreader hout hgone (.inr (by rw [ho]; rfl))
  · obtain ⟨q, hq⟩ := not_forall.1 hfree
    have hq := not_not.1 hq
    cases h with
    | collected _ _ hfree' => exact absurd hq (hfree' q)
    | @queued ch hout hcapacity _ hline hclosed =>
      -- nobody in the line can go on, so there is something to read
      have hstuck : ∀ q ∈ ch.senders, ch.granted q = false := by
        intro q hq
        rw [Bool.eq_false_iff]
        intro hg
        refine ((hline q).2 hq).next?_ne_none ?_ hx
        rw [context_granted, hout]
        exact hg
      obtain ⟨hlive, b, ch', hsome⟩ := Channel.full_of_senders hcapacity ((hline q).1 hq) hstuck
      refine hreader hout ((hclosed hopen).symm.trans hlive) (.inl ?_)
      rw [hsome]
      exact Option.some_ne_none _

/-- As long as a run is not over, something can happen in it. -/
theorem Served.exists_step (h : r.Served) (hopen : r.finished = false) :
    ∃ e k, r.step e = some k := by
  cases hx : r.nextMove? with
  | some qm =>
    obtain ⟨n, f, hm⟩ := Node.exists_moves_of_next? (q := qm.1) (m := qm.2) hx
    exact ⟨_, _, (Happens.move hm).step hopen⟩
  | none =>
    cases hcancel : r.cancel? with
    | some k => exact ⟨.cancel, k, by simp [step, hopen, hcancel]⟩
    | none =>
      cases hread : r.read? with
      | some k => exact ⟨.read, k, by simp [step, hopen, hread]⟩
      | none =>
        obtain ⟨time, ha⟩ := h.exists_alarm hopen hx hread
        cases hmin : r.alarms.min? with
        | none =>
          rw [List.min?_eq_none_iff.1 hmin] at ha
          cases ha
        | some now => exact ⟨_, _, (Happens.tick hx hcancel hread hmin).step hopen⟩

end Run

/-- The time that has passed so far, with the sleeps that a script has yet to take, is no more than
all of its sleeps. -/
inductive Phase.Dated (now : Nat) (s : Script) : Phase → Prop
  | idle : now = 0 → Dated now s .idle
  | running : now + Step.naps rest ≤ Step.naps s.steps → Dated now s (.running rest)
  | sleeping : now ≤ wakeAt → wakeAt + Step.naps rest ≤ Step.naps s.steps →
      Dated now s (.sleeping wakeAt rest)
  | returned : Dated now s (.returned e fired)
  | skipped : Dated now s .skipped

theorem Phase.Moves.dated {c : Context} {m : Move} {f : Flow} {s : Script} {ph ph' : Phase}
    {pr pr' : Probe} (h : Moves c s m ph pr ph' pr' f) (hd : ph.Dated c.now s)
    (hw : ∀ b, c.waits b = false) : ph'.Dated c.now s := by
  cases h with
  | skip => exact .skipped
  | finish => exact .returned
  | stop => exact .returned
  | halt => exact .returned
  | start =>
    obtain ⟨hnow⟩ := hd
    exact .running (Nat.le_of_eq (by rw [hnow, Nat.zero_add]))
  | pass _ hz =>
    obtain _ | hle := hd
    rw [Step.naps_cons, Step.nap, hz, Nat.zero_add] at hle
    exact .running hle
  | sleep =>
    obtain _ | hle := hd
    rw [Step.naps_cons, Step.nap, ← Nat.add_assoc] at hle
    exact .sleeping (Nat.le_add_right _ _) hle
  | emit =>
    obtain _ | hle := hd
    rw [Step.naps_cons, Step.nap, Nat.zero_add] at hle
    exact .running hle
  | queue _ hb => simp [hw] at hb
  | wake hdue =>
    cases hd with
    | sleeping hle hnaps =>
      rw [Nat.le_antisymm hdue hle] at hnaps
      exact .running hnaps
  | resume => cases hd

namespace Run

variable {r r' r₀ : Run} {e : Event} {es : List Event} {p : Plan} {n : Node}

/-- A run into a collector of which no script is late. -/
structure Dated (p : Plan) (r : Run) : Prop where
  outlet : ∃ held, r.outlet = .collector held
  scripts : ∀ q s ph pr, r.tree.at? q = some (.leaf s ph pr) → s ∈ p.scripts ∧ ph.Dated r.now s
  now_le : r.now ≤ p.longest

theorem dated_direct (hn : Node.Ready p n) (caller : Caller) : (direct n caller).Dated p where
  outlet := ⟨[], rfl⟩
  scripts q s ph pr hs := by
    obtain ⟨hp, rfl⟩ := hn.idle hs
    exact ⟨Plan.mem_scripts_of_at? hp, .idle rfl⟩
  now_le := Nat.zero_le _

theorem Dated.happens (h : r.Dated p) (hs : r.Served) (hopen : r.finished = false)
    (he : Happens r e r') : r'.Dated p := by
  obtain ⟨held, ho⟩ := h.outlet
  cases hs with
  | queued ho' =>
    rw [ho] at ho'
    cases ho'
  | collected _ hgone hfree =>
    cases he with
    | @move m p n f hm =>
      refine ⟨?_, ?_, h.now_le⟩
      · rw [ho]
        exact Outlet.exists_accept ..
      · intro q s ph' pr' hs'
        obtain ⟨k, hk, rfl | ⟨q', f', rfl, hleaf⟩⟩ := hm.at? hs'
        · exact h.scripts q s ph' pr' hk
        · cases hleaf with
          | leaf hph =>
            obtain ⟨hmem, hd⟩ := h.scripts _ _ _ _ hk
            have hnow : (r.tree.sees q r.context).now = r.now := by rw [Node.sees_now, context_now]
            have hwaits (b : Batch) : (r.tree.sees q r.context).waits b = false := by
              rw [Bool.eq_false_iff]
              intro hb
              obtain ⟨b', hb'⟩ := Node.sees_waits hb
              simp [collector_waits ho] at hb'
            rw [← hnow] at hd
            have hd' := hph.dated hd hwaits
            rw [hnow] at hd'
            exact ⟨hmem, hd'⟩
    | cancel => exact ⟨h.outlet, h.scripts, h.now_le⟩
    | read hreader => simp [hgone] at hreader
    | leave hreader => simp [hgone] at hreader
    | @tick time hx _ _ hmin =>
      have hstill : r.tree.Still r.context := ⟨hx, hfree⟩
      have hle {q : Path} {s : Script} {wakeAt : Nat} {rest : List Step} {pr : Probe}
          (hq : r.tree.at? q = some (.leaf s (.sleeping wakeAt rest) pr)) : time ≤ wakeAt :=
        (List.min?_eq_some_iff.1 hmin).2 _
          (tree_alarm hx (Node.alarms_at? hq (List.mem_singleton_self wakeAt)))
      refine ⟨h.outlet, ?_, ?_⟩
      · intro q s ph pr hq
        obtain ⟨hmem, hd⟩ := h.scripts q s ph pr hq
        have hnext := (hstill.at? hq).next
        refine ⟨hmem, ?_⟩
        cases hd with
        | idle => cases hnext
        | running => cases hnext
        | sleeping _ hnaps => exact .sleeping (hle hq) hnaps
        | returned => exact .returned
        | skipped => exact .skipped
      · have ho : r.tree.outcome? = none := by simpa [finished, outcome?, hgone] using hopen
        obtain ⟨q, s, wakeAt, rest, pr, hq⟩ := hstill.exists_asleep ho
        obtain ⟨hmem, hd⟩ := h.scripts _ _ _ _ hq
        obtain _ | _ | ⟨-, hnaps⟩ := hd
        calc
          time ≤ wakeAt := hle hq
          _ ≤ wakeAt + Step.naps rest := Nat.le_add_right _ _
          _ ≤ Step.naps s.steps := hnaps
          _ ≤ p.longest := Plan.naps_le_longest hmem

theorem Paced.dated (h : Paced r es r') (hr : r.Dated p) (hs : r.Served) : r'.Dated p := by
  induction h with
  | refl => exact hr
  | event h hstep ih =>
    obtain ⟨hopen, he⟩ := happens_of_step hstep
    exact ih.happens (h.served hs) hopen he
  | pause _ ih => exact ⟨ih.outlet, ih.scripts, ih.now_le⟩

theorem Served.exists_finished (h : r.Served) :
    ∃ es k, r.follow es = some k ∧ k.finished = true := by
  obtain ⟨es, k, hes, hover⟩ := exists_over r
  exact ⟨es, k, hes, hover.finished (h.follow hes).exists_step⟩

/-- However the events of a run follow each other and whatever pauses its reader takes, there are no
more of them than the run had work to do. Before it is over one can always happen, and some of them
bring it to its end. Into a collector, it takes no longer than the sleeps of one script. -/
theorem comes_to_end {caller : Caller} (hn : Node.Ready p n)
    (hr : r = direct n caller ∨ ∃ sub, r = spawned n caller sub) (hes : Paced r es r') :
    es.length + r'.work ≤ r.work ∧ (r'.finished = false → ∃ e k, r'.step e = some k) ∧
      (∃ fs k, r'.follow fs = some k ∧ k.finished = true) ∧
      (r = direct n caller → r'.now ≤ p.longest) := by
  have hserved : r.Served := by
    rcases hr with rfl | ⟨sub, rfl⟩
    · exact served_direct hn caller
    · exact served_spawned hn caller sub
  have hserved' := hes.served hserved
  refine ⟨hes.length_add_work_le, hserved'.exists_step, hserved'.exists_finished, ?_⟩
  rintro rfl
  exact (hes.dated (dated_direct hn caller) hserved).now_le

end Run

/-! A script that waits for a reader who has changed its pause. -/

namespace Blocked

def talk : Script := { name := "talk", steps := [.emit [.ofRepo "a"], .emit [.ofRepo "b"]] }

def start : Run :=
  .spawned (.ofPlan (.leaf talk)) {} { buffer := 0, pause := .ofMillis 5 }

def events : List Event := [.move [] .act, .move [] .act, .move [] .act]

def full : Run :=
  { tree := .leaf talk (.sending 1 []) { runs := 1, emitted := 1 }
    outlet := .channel { capacity := 1, buffer := [[.ofRepo "a"]], line := [([], [.ofRepo "b"])] }
    reader := { pause := 9, due := 5 } }

theorem full_goes_on : Run.Paced start events full ∧ full.nextMove? = none ∧
    full.finished = false ∧ (∃ e r, full.step e = some r) ∧
    ∃ es r, full.follow es = some r ∧ r.finished = true := by
  have hpaced : Run.Paced start events full :=
    .pause (k := { full with reader := { full.reader with pause := 5 } }) (.of_follow rfl)
  have hopen : full.finished = false := rfl
  obtain ⟨-, hstep, hend, -⟩ := Run.comes_to_end .first (.inr ⟨_, rfl⟩) hpaced
  exact ⟨hpaced, rfl, hopen, hstep hopen, hend⟩

end Blocked

end SearchPlan
