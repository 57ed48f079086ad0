import SearchPlan.Proofs.Node.Ready
import SearchPlan.Proofs.Run.Happens
import SearchPlan.Run.Start

/-! Runs into a collector that nobody has put a quota around. No script ever waits in them, and
nothing happens but moves, ticks and the cancellation by the caller. -/

namespace SearchPlan

/-- The world in which no token has fired and nothing makes a sender wait. -/
def Context.idle (now : Nat) : Context := ⟨now, false, fun _ => false, fun _ => false⟩

theorem Outlet.exists_accept (held : List Batch) (q : Path) (f : Flow) :
    ∃ held', (collector held).accept q f = .collector held' := by
  cases f <;> exact ⟨_, rfl⟩

namespace Run

variable {p : Plan} {r r' : Run} {e : Event} {es : List Event}

structure Direct (r : Run) : Prop where
  free : ∀ q, ¬r.tree.Waits q
  quota : r.quota = none
  outlet : ∃ held, r.outlet = .collector held
  reader : r.reader.gone = true

theorem direct_ofPlan (p : Plan) (cancelAt : Option Nat) :
    (direct (.ofPlan p) { cancelAt }).Direct where
  free := Node.Ready.first.not_waits
  quota := rfl
  outlet := ⟨[], rfl⟩
  reader := rfl

theorem context_now (r : Run) : r.context.now = r.now := by
  simp only [context]
  cases r.quota <;> rfl

theorem context_tick (r : Run) (now : Nat) : context { r with now } = { r.context with now } := by
  simp only [context]
  cases r.quota <;> rfl

theorem collector_waits {held : List Batch} (ho : r.outlet = .collector held) (b : Batch) :
    r.context.waits b = false := by
  simp only [context, ho]
  cases r.quota <;> simp [Outlet.waits, Context.through]

theorem pass_unlimited (hq : r.quota = none) (f : Flow) : r.pass f = (none, f, false) := by
  simp only [pass, hq]

/-- What there is to wait for: the tree, the reader and the caller. -/
theorem mem_alarms {time : Nat} : time ∈ r.alarms ↔ r.now < time ∧ (time ∈ r.tree.alarms ∨
    r.reader.gone = false ∧ time = r.reader.due ∨ r.fired = false ∧ r.cancelAt = some time) := by
  rw [alarms, List.mem_filter, decide_eq_true_eq, and_comm]
  cases r.reader.gone <;> cases r.fired <;> simp

theorem tree_alarm {time : Nat} (hx : r.nextMove? = none) (ha : time ∈ r.tree.alarms) :
    time ∈ r.alarms := by
  have hlt := Node.now_lt_of_mem_alarms hx ha
  rw [context_now] at hlt
  exact mem_alarms.2 ⟨hlt, .inl ha⟩

namespace Direct

theorem context_waits (h : r.Direct) (b : Batch) : r.context.waits b = false := by
  obtain ⟨held, ho⟩ := h.outlet
  exact collector_waits ho b

theorem pass_eq (h : r.Direct) (f : Flow) : r.pass f = (none, f, false) := pass_unlimited h.quota f

theorem outcome?_eq_none (h : r.Direct) (hopen : r.finished = false) : r.tree.outcome? = none := by
  simpa [finished, h.reader, outcome?] using hopen

theorem still (h : r.Direct) (hx : r.nextMove? = none) : r.tree.Still r.context := ⟨hx, h.free⟩

/-- Once the token has fired, the tree moves until the run is over. -/
theorem nextMove?_ne_none (h : r.Direct) (hopen : r.finished = false) (hfired : r.fired = true) :
    r.nextMove? ≠ none := by
  intro hx
  have hended := (h.still hx).ended (by rw [context_fired, hfired])
  rw [h.outcome?_eq_none hopen] at hended
  cases hended

theorem read?_eq_none (h : r.Direct) : r.read? = none := by
  simp [read?, h.reader]

theorem happens (h : r.Direct) (he : Happens r e r') : r'.Direct := by
  cases he with
  | @move m p n f hm =>
    obtain ⟨held, ho⟩ := h.outlet
    refine ⟨fun q hq => ?_, ?_, ?_, h.reader⟩
    · rcases hm.waits hq with hq | ⟨b, hb⟩
      · exact h.free q hq
      · obtain ⟨b, hb⟩ := Node.sees_waits hb
        rw [h.context_waits] at hb
        cases hb
    · rw [h.pass_eq]
    · rw [ho]
      exact Outlet.exists_accept ..
  | cancel => exact ⟨h.free, h.quota, h.outlet, h.reader⟩
  | tick => exact ⟨h.free, h.quota, h.outlet, h.reader⟩
  | read hgone => simp [h.reader] at hgone
  | leave hgone => simp [h.reader] at hgone

end Direct

/-- A direct run that its caller leaves alone. -/
structure Undisturbed (r : Run) : Prop extends Direct r where
  fired : r.fired = false
  cancelAt : r.cancelAt = none

theorem undisturbed_ofPlan (p : Plan) : (direct (.ofPlan p) {}).Undisturbed where
  toDirect := direct_ofPlan p none
  fired := rfl
  cancelAt := rfl

theorem Undisturbed.happens (h : r.Undisturbed) (he : Happens r e r') : r'.Undisturbed := by
  refine ⟨h.toDirect.happens he, ?_, ?_⟩
  · cases he with
    | move => rw [h.pass_eq, Bool.or_false, h.fired]
    | cancel _ ht => simp [h.cancelAt] at ht
    | _ => exact h.fired
  · cases he <;> exact h.cancelAt

theorem Undisturbed.follow (h : r.Undisturbed) (hes : r.follow es = some r') : r'.Undisturbed :=
  follow_induction h (fun hr _ he => hr.happens he) hes

/-- When nothing can move, the alarms of the run are those of its tree. -/
theorem Undisturbed.alarms_eq (h : r.Undisturbed) (hx : r.nextMove? = none) :
    r.alarms = r.tree.alarms := by
  have hlater : r.tree.alarms.filter (r.now < ·) = r.tree.alarms := by
    rw [List.filter_eq_self]
    intro a ha
    have hlt := Node.now_lt_of_mem_alarms hx ha
    rw [context_now] at hlt
    exact decide_eq_true hlt
  simp [alarms, h.reader, h.cancelAt, hlater]

/-- Nothing happens in such a run but moves of the tree and, when none is left, ticks. -/
theorem Undisturbed.step_cases (h : r.Undisturbed) (he : r.step e = some r') :
    r.tree.outcome? = none ∧
      ((∃ m q n f, e = .move q m ∧ Node.Moves m q r.context r.tree n f ∧
        r' = { r with tree := n, outlet := r.outlet.accept q f }) ∨
      ∃ time, e = .tick ∧ r.nextMove? = none ∧ r.tree.alarms.min? = some time ∧
        r' = { r with now := time }) := by
  obtain ⟨hopen, he⟩ := happens_of_step he
  refine ⟨h.outcome?_eq_none hopen, ?_⟩
  cases he with
  | @move m q n f hm =>
    refine .inl ⟨m, q, n, f, rfl, hm, ?_⟩
    rw [h.pass_eq, h.fired, ← h.quota]
    rfl
  | tick hx _ _ ha =>
    rw [h.alarms_eq hx] at ha
    exact .inr ⟨_, rfl, hx, ha, rfl⟩
  | cancel _ ht => simp [h.cancelAt] at ht
  | read hgone => simp [h.reader] at hgone
  | leave hgone => simp [h.reader] at hgone

theorem finished_of_open (ho : r.tree.outcome? = none) : r.finished = false := by
  rw [finished, outcome?, ho]
  rfl

theorem Undisturbed.step_move {m : Move} {q : Path} {n : Node} {f : Flow} (h : r.Undisturbed)
    (hm : Node.Moves m q r.context r.tree n f) :
    r.step (.move q m) = some { r with tree := n, outlet := r.outlet.accept q f } := by
  rw [(Happens.move hm).step (finished_of_open hm.outcome?_eq_none), h.pass_eq, ← h.quota,
    Bool.or_false]

theorem Undisturbed.step_tick {time : Nat} (h : r.Undisturbed) (ho : r.tree.outcome? = none)
    (hx : r.nextMove? = none) (ha : r.tree.alarms.min? = some time) :
    r.step .tick = some { r with now := time } := by
  have hcancel : r.cancel? = none := by simp [cancel?, h.cancelAt]
  apply (Happens.tick hx hcancel h.read?_eq_none ?_).step (finished_of_open ho)
  rw [h.alarms_eq hx, ha]

theorem Undisturbed.context_eq (h : r.Undisturbed) : r.context = .idle r.now := by
  obtain ⟨held, ho⟩ := h.outlet
  simp only [context, h.quota, h.fired, ho]
  rfl

/-- The run stays so with its tree as the only branch of a larger one. -/
theorem Undisturbed.enclose {n : Node} (h : r.Undisturbed) (hn : n.branches = [r.tree])
    (now : Nat) : Undisturbed { r with now, tree := n } := by
  refine ⟨⟨?_, h.quota, h.outlet, h.reader⟩, h.fired, h.cancelAt⟩
  intro q hw
  cases q with
  | nil =>
    obtain ⟨s, size, rest, pr, hq⟩ := hw
    cases hq
    cases hn
  | cons i q =>
    obtain ⟨b, hb, hw⟩ := hw.of_cons
    rw [hn] at hb
    obtain ⟨-, rfl⟩ := Node.getElem?_single hb
    exact h.free q hw

end Run

end SearchPlan
