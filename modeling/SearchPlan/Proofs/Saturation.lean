import SearchPlan.Proofs.Liveness
import SearchPlan.Proofs.Node.Script
import SearchPlan.Proofs.Take

/-! A script whose last batch fills the cap that it is under. The send that fills the cap is over
before the script comes back, so the script's token has fired by then, although nothing that the
script had to do was left. -/

namespace SearchPlan

namespace Quota

/-- Unless its sender has to wait, a flow that reaches the quota makes it stop its senders. -/
theorem reached_or_stops (q : Quota) {f : Flow} (h : ∀ b, f ≠ .handed b true) :
    (q.reached || (q.pass f).2.2) = (q.pass f).1.reached := by
  cases f with
  | quiet => exact Bool.or_false _
  | resumed => exact Bool.or_self _
  | handed b waits =>
    cases waits with
    | true => exact absurd rfl (h b)
    | false =>
      have hmono : q.reached = true → (q.receive b).reached = true := fun hr =>
        decide_eq_true (Nat.le_trans (of_decide_eq_true hr) (Nat.le_add_right _ _))
      simp only [pass]
      split <;> cases hr : q.reached <;> simp_all

end Quota

namespace Phase

/-- A script that nobody stops has taken the first of its steps. If `fires`, its token fires with
the last of them. -/
inductive Steady (s : Script) (fires : Bool) : Phase → List Step → Prop
  | idle : Steady s fires .idle []
  | running : taken ++ rest = s.steps → Steady s fires (.running rest) taken
  | sleeping : taken ++ rest = s.steps → rest ≠ [] → Steady s fires (.sleeping wakeAt rest) taken
  | returned : Steady s fires (.returned s.ending fires) s.steps

variable {c : Context} {s : Script} {fires : Bool} {m : Move} {ph ph' : Phase} {pr pr' : Probe}
  {f : Flow} {taken rest : List Step} {b : Batch}

theorem Moves.not_handed (h : Moves c s m ph pr ph' pr' f) (hw : ∀ b, c.waits b = false)
    (b : Batch) : f ≠ .handed b true := by
  cases h with
  | queue _ hb => simp [hw] at hb
  | _ => exact nofun

theorem ne_nil_of_sleep {d : Duration} (hlast : s.steps.getLast? = some (.emit b))
    (h : taken ++ .sleep d :: rest = s.steps) : rest ≠ [] := by
  rintro rfl
  rw [← h, List.getLast?_concat] at hlast
  cases hlast

theorem Moves.steady (h : Moves c s m ph pr ph' pr' f) (hs : ph.Steady s fires taken)
    (hlast : s.steps.getLast? = some (.emit b)) (hw : ∀ b, c.waits b = false)
    (hfired : c.fired = true ↔ fires = true ∧ taken = s.steps) :
    ph'.Steady s fires (taken ++ ph.enters ph') := by
  -- with steps left to take, the token has not fired
  have hleft {st : Step} {rest : List Step} (h : taken ++ st :: rest = s.steps) :
      c.fired ≠ true := by
    intro hc
    have hnil := (hfired.1 hc).2.trans h.symm
    simp at hnil
  cases h with
  | skip hc =>
    cases hs
    rw [← (hfired.1 hc).2] at hlast
    cases hlast
  | start =>
    cases hs
    exact .running rfl
  | finish =>
    cases hs with
    | running h =>
      rw [List.append_nil] at h
      subst h
      have hc : c.fired = fires := by
        rw [Bool.eq_iff_iff, hfired]
        simp
      rw [hc]
      simp only [enters, List.append_nil]
      exact .returned
  | stop hc =>
    cases hs with
    | running h => exact absurd hc (hleft h)
  | pass =>
    cases hs with
    | running h => exact .running (by simpa [enters] using h)
  | sleep =>
    cases hs with
    | running h => exact .sleeping (by simpa [enters] using h) (ne_nil_of_sleep hlast h)
  | queue _ hb => simp [hw] at hb
  | emit =>
    cases hs with
    | running h => exact .running (by simpa [enters] using h)
  | wake =>
    cases hs with
    | sleeping h => exact .running (by simpa [enters] using h)
  | resume => cases hs
  | halt hc =>
    cases hs with
    | sleeping h hrest =>
      obtain ⟨st, rest, rfl⟩ := List.exists_cons_of_ne_nil hrest
      exact absurd hc (hleft h)

/-- What a script that nobody stops hands over is what the steps yield that it takes. -/
theorem Moves.exists_steady (h : Moves c s m ph pr ph' pr' f) (hs : ph.Steady s fires taken)
    (hlast : s.steps.getLast? = some (.emit b)) (hw : ∀ b, c.waits b = false)
    (hfired : c.fired = true ↔ fires = true ∧ taken = s.steps) :
    ∃ taken', ph'.Steady s fires taken' ∧
      taken'.flatMap Step.yield = taken.flatMap Step.yield ++ f.batch :=
  ⟨_, h.steady hs hlast hw hfired, by rw [List.flatMap_append, h.batch_eq]⟩

theorem Steady.exists_rest (h : ph.Steady s fires taken) : ∃ rest, taken ++ rest = s.steps := by
  cases h with
  | idle => exact ⟨_, rfl⟩
  | running h => exact ⟨_, h⟩
  | sleeping h => exact ⟨_, h⟩
  | returned => exact ⟨_, List.append_nil _⟩

theorem Steady.length_le (h : ph.Steady s fires taken) :
    (taken.flatMap Step.yield).length ≤ s.batches.flatten.length := by
  obtain ⟨rest, hrest⟩ := h.exists_rest
  rw [Script.flatten_batches, ← hrest, List.flatMap_append, List.length_append]
  exact Nat.le_add_right _ _

/-- As long as a step is left, so is a match. -/
theorem Steady.full_iff (h : ph.Steady s fires taken) (hlast : s.steps.getLast? = some (.emit b))
    (hb : b ≠ []) :
    s.batches.flatten.length ≤ (taken.flatMap Step.yield).length ↔ taken = s.steps := by
  rw [Script.flatten_batches]
  refine ⟨fun hle => ?_, fun htaken => Nat.le_of_eq (by rw [htaken])⟩
  obtain ⟨rest, hrest⟩ := h.exists_rest
  rw [← hrest, List.flatMap_append, List.length_append] at hle
  have hnothing : rest.flatMap Step.yield = [] := List.length_eq_zero_iff.1 (by omega)
  cases rest using List.reverseRecOn with
  | nil => rw [← hrest, List.append_nil]
  | append_singleton rest st =>
    rw [← hrest, ← List.append_assoc, List.getLast?_concat, Option.some.injEq] at hlast
    rw [List.flatMap_append, List.append_eq_nil_iff, List.flatMap_singleton, hlast] at hnothing
    exact absurd hnothing.2 hb

end Phase

/-- With its token fired by its last send, a script that failed is taken for one that was cut
off. -/
theorem Ending.exists_capped (e : Ending) (name : String) {q : Quota} (hr : q.reached = true)
    (ht : q.truncated = false) : ∃ x : Execution, e.outcome name false = .done x ∧
      Node.capped name q false (e.outcome name true) = .done
        (if x.status = .failure then ⟨.partialSuccess, [.limitHit name q.limit]⟩
        else ⟨x.status, x.alerts ++ [.limitHit name q.limit]⟩) := by
  cases e with
  | finished status =>
    cases status <;> exact ⟨_, rfl, by simp [Node.capped, outcome, hr, ht, Outcome.alerts]⟩
  | failed e => exact ⟨_, rfl, by simp [Node.capped, outcome, hr, Outcome.alerts]⟩

namespace Run

variable {s : Script} {count : Nat} {r r' : Run} {e : Event} {b : Batch}

/-- A run of the script alone. -/
structure Plays (s : Script) (r : Run) : Prop extends Undisturbed r where
  steady : ∃ ph pr taken, r.tree = .leaf s ph pr ∧ ph.Steady s false taken ∧
    r.outlet.held.flatten = taken.flatMap Step.yield

/-- A run of the script under a cap that it does not exceed. -/
structure Saturates (s : Script) (count : Nat) (r : Run) : Prop extends Undisturbed r where
  steady : ∃ ph pr taken,
    r.tree = .limit (r.room count) (.leaf s ph pr) (r.room count).reached false ∧
    ph.Steady s true taken ∧ r.outlet.held.flatten = taken.flatMap Step.yield

theorem plays_direct (s : Script) : (direct (.ofPlan (.leaf s)) {}).Plays s where
  toUndisturbed := undisturbed_ofPlan _
  steady := ⟨_, _, _, rfl, .idle, rfl⟩

theorem saturates_direct (s : Script) (hc : 0 < count) :
    (direct (.ofPlan (.limit count hc (.leaf s))) {}).Saturates s count where
  toUndisturbed := undisturbed_ofPlan _
  steady := by
    have hroom : (room count (direct (.ofPlan (.limit count hc (.leaf s))) {})).reached = false :=
      decide_eq_false (Nat.not_le.2 hc)
    refine ⟨.idle, {}, [], ?_, .idle, rfl⟩
    rw [hroom]
    rfl

theorem Plays.step (h : r.Plays s) (hlast : s.steps.getLast? = some (.emit b))
    (he : r.step e = some r') : r'.Plays s := by
  refine ⟨h.toUndisturbed.happens (happens_of_step he).2, ?_⟩
  obtain ⟨ph, pr, taken, htree, hsteady, harrived⟩ := h.steady
  obtain ⟨-, ⟨m, q, n, f, rfl, hm, rfl⟩ | ⟨time, rfl, -, -, rfl⟩⟩ := h.step_cases he
  · rw [htree, h.context_eq] at hm
    cases hm with
    | leaf hm =>
      obtain ⟨taken', hsteady', hyield⟩ :=
        hm.exists_steady hsteady hlast (fun _ => rfl) (by simp [Context.idle])
      refine ⟨_, _, taken', rfl, hsteady', ?_⟩
      rw [h.held_accept, harrived, hyield]
  · exact ⟨ph, pr, taken, htree, hsteady, harrived⟩

theorem Saturates.step (h : r.Saturates s count) (hlast : s.steps.getLast? = some (.emit b))
    (hb : b ≠ []) (hcount : s.batches.flatten.length = count) (he : r.step e = some r') :
    r'.Saturates s count := by
  refine ⟨h.toUndisturbed.happens (happens_of_step he).2, ?_⟩
  obtain ⟨ph, pr, taken, htree, hsteady, harrived⟩ := h.steady
  have hreached : (r.room count).reached = true ↔ taken = s.steps := by
    rw [Quota.reached, decide_eq_true_eq, room, harrived, ← hcount]
    exact hsteady.full_iff hlast hb
  obtain ⟨-, ⟨m, q, n, f, rfl, hm, rfl⟩ | ⟨time, rfl, -, -, rfl⟩⟩ := h.step_cases he
  · rw [htree, h.context_eq] at hm
    cases hm with
    | @limit _ _ _ f _ _ _ _ hm =>
      cases hm with
      | leaf hm =>
        have hroomy (b : Batch) : ((((Context.idle r.now).scope (r.room count).reached).through
            (r.room count).fit).branch 0).waits b = false := Bool.and_false _
        obtain ⟨taken', hsteady', hyield⟩ := hm.exists_steady hsteady hlast hroomy
          (by rw [← hreached, eq_self, true_and]; rfl)
        have hfits : r.outlet.held.flatten.length + f.batch.length ≤ count := by
          rw [harrived, ← List.length_append, ← hyield, ← hcount]
          exact hsteady'.length_le
        rw [Quota.reached_or_stops _ (hm.not_handed hroomy), pass_room, ← List.length_append,
          ← h.held_accept [0] f, h.accept_room [0] hfits]
        refine ⟨_, _, taken', rfl, hsteady', ?_⟩
        rw [h.held_accept, harrived, hyield]
  · exact ⟨ph, pr, taken, htree, hsteady, harrived⟩

theorem Plays.finished (h : r.Plays s) (hfinished : r.finished = true) :
    r.outcome? = some (s.ending.outcome s.name false) ∧
      r.outlet.held.flatten = s.batches.flatten := by
  obtain ⟨ph, pr, taken, htree, hsteady, harrived⟩ := h.steady
  have hended := (Bool.and_eq_true_iff.1 hfinished).1
  rw [outcome?, htree] at hended ⊢
  cases hsteady with
  | returned => exact ⟨rfl, harrived.trans s.flatten_batches.symm⟩
  | _ => cases hended

theorem Saturates.finished (h : r.Saturates s count) (hfinished : r.finished = true) :
    r.outcome? = some (Node.capped s.name ⟨count, s.batches.flatten.length⟩ false
      (s.ending.outcome s.name true)) ∧ r.outlet.held.flatten = s.batches.flatten := by
  obtain ⟨ph, pr, taken, htree, hsteady, harrived⟩ := h.steady
  have hended := (Bool.and_eq_true_iff.1 hfinished).1
  rw [outcome?, htree] at hended ⊢
  cases hsteady with
  | returned =>
    have hheld := harrived.trans s.flatten_batches.symm
    rw [room, hheld]
    exact ⟨rfl, rfl⟩
  | _ => cases hended

/-- A script whose last step fills its cap hands over all its matches. Its own end counts for the
cap unless it failed, which then is not told from being cut off. -/
theorem last_send_fills_cap (s : Script) (hc : 0 < count)
    (hlast : s.steps.getLast? = some (.emit b)) (hb : b ≠ [])
    (hcount : s.batches.flatten.length = count) :
    (∃ es r, (direct (.ofPlan (.leaf s)) {}).follow es = some r ∧ r.finished = true) ∧
    (∃ es r, (direct (.ofPlan (.limit count hc (.leaf s))) {}).follow es = some r ∧
      r.finished = true) ∧
    ∀ es r es' r', (direct (.ofPlan (.leaf s)) {}).follow es = some r → r.Over →
      (direct (.ofPlan (.limit count hc (.leaf s))) {}).follow es' = some r' → r'.Over →
      r.finished = true ∧ r'.finished = true ∧
      r.outlet.held.flatten = s.batches.flatten ∧ r'.outlet.held.flatten = s.batches.flatten ∧
      ∃ x, r.execution? = some x ∧ r'.execution? = some
        (if x.status = .failure then ⟨.partialSuccess, [.limitHit s.name count]⟩
        else ⟨x.status, x.alerts ++ [.limitHit s.name count]⟩) := by
  have hserved : (direct (.ofPlan (.leaf s)) {}).Served := served_direct .first {}
  have hserved' : (direct (.ofPlan (.limit count hc (.leaf s))) {}).Served :=
    served_direct .first {}
  refine ⟨hserved.exists_finished, hserved'.exists_finished, ?_⟩
  intro es r es' r' hes hover hes' hover'
  have hfinished := hover.finished (hserved.follow hes).exists_step
  have hfinished' := hover'.finished (hserved'.follow hes').exists_step
  have hplays : r.Plays s := by
    refine follow_induction (plays_direct s) (fun hr hopen he => ?_) hes
    exact hr.step hlast (he.step hopen)
  have hsaturates : r'.Saturates s count := by
    refine follow_induction (saturates_direct s hc) (fun hr hopen he => ?_) hes'
    exact hr.step hlast hb hcount (he.step hopen)
  obtain ⟨ho, hheld⟩ := hplays.finished hfinished
  obtain ⟨ho', hheld'⟩ := hsaturates.finished hfinished'
  have hreached : Quota.reached ⟨count, s.batches.flatten.length⟩ = true :=
    decide_eq_true (Nat.le_of_eq hcount.symm)
  have hnothing : Quota.truncated ⟨count, s.batches.flatten.length⟩ = false :=
    decide_eq_false (Nat.not_lt.2 (Nat.le_of_eq hcount))
  obtain ⟨x, hx, hx'⟩ := s.ending.exists_capped s.name hreached hnothing
  refine ⟨hfinished, hfinished', hheld, hheld', x, ?_, ?_⟩
  · rw [execution?, ho, hx]
    rfl
  · rw [execution?, ho', hx']
    rfl

end Run

/-! A script that fails after its last match, the only one that its cap lets through. -/

namespace Suppressed

def text : Script := { name := "text", steps := [.emit [.ofRepo "a"]], status := .failure }

def alone : Plan := .leaf text

def capped : Plan := .limit 1 Nat.one_pos alone

def events : List Event := [.move [] .act, .move [] .act, .move [] .act]

theorem failure_lost : text.steps.getLast? = some (.emit [.ofRepo "a"]) ∧ ∃ r r',
    (Run.direct (.ofPlan alone) {}).follow events = some r ∧
    (Run.direct (.ofPlan capped) {}).follow (events.map Event.lift) = some r' ∧
    r.execution? = some ⟨.failure, [.branchFailed "text" "text reported failure"]⟩ ∧
    r'.outlet.held.flatten = [.ofRepo "a"] ∧
    r'.execution? = some ⟨.partialSuccess, [.limitHit "text" 1]⟩ := by
  have hlast : text.steps.getLast? = some (.emit [.ofRepo "a"]) := rfl
  have hend : ((Run.direct (.ofPlan alone) {}).follow events).map
      (fun r => (r.finished, r.execution?)) =
        some (true, some ⟨.failure, [.branchFailed "text" "text reported failure"]⟩) := rfl
  obtain ⟨r, hr, hresult⟩ := Option.map_eq_some_iff.1 hend
  obtain ⟨hfinished, hx⟩ := Prod.mk.inj hresult
  have hend' : ((Run.direct (.ofPlan capped) {}).follow (events.map Event.lift)).map
      Run.finished = some true := rfl
  obtain ⟨r', hr', hfinished'⟩ := Option.map_eq_some_iff.1 hend'
  obtain ⟨-, -, hfills⟩ := Run.last_send_fills_cap text Nat.one_pos hlast (List.cons_ne_nil _ _) rfl
  obtain ⟨-, -, -, hheld, x, hx', hcapped⟩ := hfills _ r _ r' hr (Run.over_of_finished hfinished)
    hr' (Run.over_of_finished hfinished')
  obtain rfl := Option.some.inj (hx'.symm.trans hx)
  exact ⟨hlast, r, r', hr, hr', hx, hheld, hcapped⟩

end Suppressed

end SearchPlan
