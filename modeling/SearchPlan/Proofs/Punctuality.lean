import SearchPlan.Proofs.Node.OnTime
import SearchPlan.Proofs.Run.Direct
import SearchPlan.Proofs.Run.Termination

/-! A direct run of a plan without caps that nobody cancels. Whatever the order of its events, it
ends when the plan is forecast to end, and with the status it is forecast to have. -/

namespace SearchPlan

namespace Run

variable {p : Plan} {r r' : Run} {e : Event} {es : List Event}

/-- A direct run that nobody cancels, with its tree on time. -/
structure OnTime (p : Plan) (r : Run) : Prop where
  tree : r.tree.OnTime r.now p
  free : ∀ q, ¬r.tree.Waits q
  now_le : r.now ≤ p.forecast.time
  fired : r.fired = false
  cancelAt : r.cancelAt = none
  quota : r.quota = none
  outlet : ∃ held, r.outlet = .collector held
  reader : r.reader.gone = true

theorem onTime_direct (h : p.uncapped = true) : (direct (.ofPlan p) {}).OnTime p where
  tree := Node.onTime_ofPlan h
  free := (direct_ofPlan p none).free
  now_le := Nat.zero_le _
  fired := rfl
  cancelAt := rfl
  quota := rfl
  outlet := ⟨[], rfl⟩
  reader := rfl

namespace OnTime

theorem direct (h : r.OnTime p) : r.Direct := ⟨h.free, h.quota, h.outlet, h.reader⟩

theorem context_fired (h : r.OnTime p) : r.context.fired = false := by
  rw [Run.context_fired, h.fired]

theorem pauses (h : r.OnTime p) (hx : r.nextMove? = none) : r.tree.Pauses r.now r.context where
  now_eq := context_now r
  live := h.context_fired
  still := h.direct.still hx

theorem exists_alarm (h : r.OnTime p) (hopen : r.finished = false) (hx : r.nextMove? = none) :
    ∃ time ∈ r.alarms, time ≤ p.forecast.time := by
  obtain ⟨time, ha, hlt, hle⟩ := h.tree.alarm (h.pauses hx) (h.direct.outcome?_eq_none hopen)
  refine ⟨time, ?_, hle⟩
  simp [alarms, ha, hlt]

theorem happens (h : r.OnTime p) (hopen : r.finished = false) (he : Happens r e r') :
    r'.OnTime p := by
  obtain ⟨hfree, hquota, houtlet, hreader⟩ := h.direct.happens he
  cases he with
  | @move m q n f hm =>
    refine ⟨?_, hfree, h.now_le, ?_, h.cancelAt, hquota, houtlet, hreader⟩
    · have htree := h.tree
      rw [← context_now r] at htree
      have := htree.move hm h.context_fired h.direct.context_waits h.free
      rwa [context_now r] at this
    · rw [h.direct.pass_eq, Bool.or_false, h.fired]
  | cancel _ ht => simp [h.cancelAt] at ht
  | read hgone => simp [h.reader] at hgone
  | leave hgone => simp [h.reader] at hgone
  | @tick time hx _ _ ht =>
    obtain ⟨hmem, hle⟩ := List.min?_eq_some_iff.1 ht
    have hlt : r.now < time := by simpa using (List.mem_filter.1 hmem).2
    obtain ⟨a, ha, hat⟩ := h.exists_alarm hopen hx
    refine { h with tree := ?_, now_le := Nat.le_trans (hle a ha) hat }
    refine h.tree.tick (h.pauses hx) hlt ?_
    intro a ha hnow
    exact hle a (by simp [alarms, ha, hnow])

theorem exists_step (h : r.OnTime p) (hopen : r.finished = false) : ∃ e r', r.step e = some r' := by
  cases hx : r.nextMove? with
  | some qm =>
    obtain ⟨q, m⟩ := qm
    obtain ⟨n, f, hm⟩ := Node.exists_moves_of_next? hx
    exact ⟨.move q m, _, (Happens.move hm).step hopen⟩
  | none =>
    have hcancel : r.cancel? = none := by simp [cancel?, h.cancelAt]
    obtain ⟨a, ha, -⟩ := h.exists_alarm hopen hx
    cases ht : r.alarms.min? with
    | none =>
      rw [List.min?_eq_none_iff.1 ht] at ha
      cases ha
    | some time => exact ⟨.tick, _, (Happens.tick hx hcancel h.direct.read?_eq_none ht).step hopen⟩

end OnTime

theorem OnTime.result (h : r.OnTime p) (hfinished : r.finished = true) :
    r.now = p.forecast.time ∧ ∃ as, r.execution? = some ⟨p.forecast.status, as⟩ := by
  have hended : r.tree.outcome?.isSome := by
    rw [finished, Bool.and_eq_true] at hfinished
    exact hfinished.1
  obtain ⟨⟨as, ho⟩, ht⟩ := h.tree.report hended
  refine ⟨Nat.le_antisymm h.now_le ht, as, ?_⟩
  rw [execution?, outcome?, ho]
  rfl

theorem onTime_of_follow (hp : p.uncapped = true)
    (h : (direct (.ofPlan p) {}).follow es = some r) : r.OnTime p :=
  follow_induction (onTime_direct hp) (fun hr hopen he => hr.happens hopen he) h

/-- The run cannot go on for ever and does not get stuck before its end, and in the end it is what
was forecast. -/
theorem forecast_of_direct (hp : p.uncapped = true)
    (h : (direct (.ofPlan p) {}).follow es = some r) :
    es.length ≤ (direct (.ofPlan p) {}).work ∧
      (r.finished = false → ∃ e r', r.step e = some r') ∧
      (r.finished = true →
        r.now = p.forecast.time ∧ ∃ as, r.execution? = some ⟨p.forecast.status, as⟩) := by
  have hr := onTime_of_follow hp h
  refine ⟨?_, hr.exists_step, hr.result⟩
  have := length_add_work_le h
  omega

end Run

/-! A branch whose deadline passes in time, and one that fails for the whole group. -/

namespace Hurried

def slow : Script := { name := "slow", steps := [.sleep (.ofMillis 5), .emit [.ofRepo "a"]] }

def bad : Script := { name := "bad", steps := [.sleep (.ofMillis 3)], status := .failure }

def plan : Plan := .group .and (.timeout ⟨1500000⟩ (.leaf slow)) [.leaf bad]

def events : List Event :=
  [.move [1] .act, .move [0, 0] .act, .move [1] .act, .move [0, 0] .act, .tick, .move [0] .expire,
    .move [0, 0] .halt, .tick, .move [1] .act, .move [1] .act]

theorem failure_at_three : ∃ r, (Run.direct (.ofPlan plan) {}).follow events = some r ∧
    r.finished = true ∧ r.now = 3 ∧ ∃ as, r.execution? = some ⟨.failure, as⟩ := by
  have hend : ((Run.direct (.ofPlan plan) {}).follow events).map Run.finished = some true := rfl
  obtain ⟨r, hr, hfinished⟩ := Option.map_eq_some_iff.1 hend
  obtain ⟨-, -, hresult⟩ := Run.forecast_of_direct (p := plan) rfl hr
  exact ⟨r, hr, hfinished, hresult hfinished⟩

end Hurried

/-- The settled order takes such a run to its end. -/
theorem Plan.run_forecast {p : Plan} (hp : p.uncapped = true) :
    (p.run {}).finished = true ∧ (p.run {}).now = p.forecast.time ∧
      ∃ as, (p.run {}).execution? = some ⟨p.forecast.status, as⟩ := by
  obtain ⟨es, hes⟩ := Run.exists_follow_eq_advance (Run.direct (.ofPlan p) {}).work .caller
    (Run.direct (.ofPlan p) {})
  have hr : (p.run {}).OnTime p := Run.onTime_of_follow hp hes
  have hfinished : (p.run {}).finished = true := by
    by_contra hf
    obtain ⟨e, r', he⟩ := hr.exists_step (Bool.not_eq_true _ ▸ hf)
    rw [Plan.run, Run.step_complete] at he
    cases he
  exact ⟨hfinished, hr.result hfinished⟩

end SearchPlan
