import SearchPlan.Proofs.Interruption
import SearchPlan.Proofs.Run.Lockstep

/-! A plan under a deadline beside the same plan alone, both run directly and left alone. They are
the same run if the plan alone is at its end by the deadline. Otherwise the deadline cuts it off. -/

namespace SearchPlan

namespace Run

variable {p : Plan} {d : Duration} {r₀ r r' k k' : Run} {e e' : Event} {es es' pre : List Event}

/-- The run with its tree under a deadline, and with the clock not beyond that. -/
def within (d : Duration) (r : Run) : Run :=
  { r with now := min r.now d.millis, tree := .timeout d r.tree false false }

theorem direct_within (d : Duration) (p : Plan) :
    (direct (.ofPlan p) {}).within d = direct (.ofPlan (.timeout d p)) {} := by
  simp [direct, within, Node.ofPlan]

theorem Undisturbed.within (h : r.Undisturbed) (d : Duration) : (r.within d).Undisturbed :=
  h.enclose rfl _

theorem Undisturbed.context_within (h : r.Undisturbed) (d : Duration) :
    (r.within d).context = .idle (min r.now d.millis) :=
  (h.within d).context_eq

/-- The moves that the tree under a deadline has at first. -/
theorem Undisturbed.moves_within {m : Move} {q : Path} {n : Node} {f : Flow} (h : r.Undisturbed)
    (hm : Node.Moves m q (r.within d).context (r.within d).tree n f) :
    (q = [] ∧ r.tree.outcome? = none ∧ d.millis ≤ r.now ∧
      r.tree.next? (.idle d.millis) = none ∧
      n = .timeout d r.tree true false ∧ f = .quiet) ∨
    ∃ q' b, q = 0 :: q' ∧
      Node.Moves m q' (.idle (min r.now d.millis)) r.tree b f ∧
      n = .timeout d b false false := by
  rw [h.context_within d] at hm
  cases hm with
  | expire _ ho hdue hx =>
    have hdue : d.millis ≤ r.now := (Nat.le_min.1 hdue).1
    rw [Nat.min_eq_right hdue] at hx
    exact .inl ⟨rfl, ho, hdue, hx, rfl, rfl⟩
  | timeout hm => exact .inr ⟨_, _, rfl, hm, rfl⟩

theorem Undisturbed.expire (h : r.Undisturbed) (ho : r.tree.outcome? = none)
    (hdue : d.millis ≤ r.now)
    (hx : r.tree.next? (.idle d.millis) = none) :
    ∃ k', (r.within d).step (.move [] .expire) = some k' := by
  refine ⟨_, (h.within d).step_move (.expire rfl ho ?_ ?_)⟩
  · rw [h.context_within d, Nat.min_eq_right hdue]
    exact Nat.le_refl _
  · rw [h.context_within d, Nat.min_eq_right hdue]
    exact hx

theorem Undisturbed.move_within {m : Move} {q : Path} {n : Node} {f : Flow} (h : r.Undisturbed)
    (hle : r.now ≤ d.millis) (hm : Node.Moves m q r.context r.tree n f) :
    (r.within d).step (Event.move q m).lift =
      some ({ r with tree := n, outlet := r.outlet.accept q f }.within d) := by
  have hcontext : (r.within d).context = .idle r.now := by
    rw [h.context_within d, Nat.min_eq_left hle]
  rw [h.context_eq] at hm
  have hm' : Node.Moves m (0 :: q) (r.within d).context (r.within d).tree
      (.timeout d n false false) f := by
    rw [hcontext]
    exact .timeout hm
  obtain ⟨held, ho⟩ := h.outlet
  rw [Event.lift, (h.within d).step_move hm']
  simp only [Run.within, ho, Outlet.accept_collector held (0 :: q) q]

theorem Undisturbed.tick_within {time : Nat} (h : r.Undisturbed) (hlt : r.now < d.millis)
    (ho : r.tree.outcome? = none) (hx : r.nextMove? = none)
    (ha : r.tree.alarms.min? = some time) :
    (r.within d).step Event.tick.lift = some ({ r with now := time }.within d) := by
  have hnext : (r.within d).nextMove? = none := by
    rw [nextMove?, h.context_eq] at hx
    rw [nextMove?, h.context_within d, Nat.min_eq_left (Nat.le_of_lt hlt)]
    exact Node.next?_timeout hx hlt
  have hopen : (r.within d).tree.outcome? = none := by
    rw [Run.within, Node.outcome?, ho]
    rfl
  have halarms : (r.within d).tree.alarms.min? = some (min time d.millis) := by
    have halarms : (r.within d).tree.alarms = d.millis :: r.tree.alarms := by
      rw [Run.within, Node.alarms, ho]
      rfl
    rw [halarms, List.min?_cons, ha, Option.elim_some, Nat.min_comm]
  exact (h.within d).step_tick hopen hnext halarms

/-- The run has done `pre` by the deadline, and beside it the same one under the deadline. -/
structure Awaits (r₀ : Run) (d : Duration) (pre : List Event) (r r' : Run) : Prop where
  follow : r₀.follow pre = some r
  undisturbed : r.Undisturbed
  eq : r' = r.within d
  early : ∀ a ∈ r₀.arrivals pre, a.1 ≤ d.millis
  /-- If the clock has gone on beyond the deadline, nothing could be done at that time. -/
  late : d.millis < r.now →
    r.tree.outcome? = none ∧ r.tree.next? (.idle d.millis) = none

/-- The deadline has expired while the run, that has done `pre`, could do no more at that time. -/
structure Expired (r₀ : Run) (d : Duration) (pre : List Event) (r k : Run) : Prop where
  follow : r₀.follow pre = some r
  undisturbed : r.Undisturbed
  early : ∀ a ∈ r₀.arrivals pre, a.1 ≤ d.millis
  due : d.millis ≤ r.now
  outcome?_eq_none : r.tree.outcome? = none
  next?_eq_none : r.tree.next? (.idle d.millis) = none
  winding : k.Winding d.millis r.outlet.held.flatten

/-- Where the tree cannot move and its next alarm is after the deadline, the deadline is quiet. -/
theorem Undisturbed.next?_deadline {time : Nat} (h : r.Undisturbed) (hx : r.nextMove? = none)
    (ha : r.tree.alarms.min? = some time) (hlt : d.millis < time) :
    r.tree.next? (.idle d.millis) = none := by
  rw [Option.eq_none_iff_forall_ne_some]
  rintro ⟨q, m⟩ hq
  obtain ⟨n, f, hm⟩ := Node.exists_moves_of_next? hq
  rw [nextMove?, h.context_eq] at hx
  obtain ⟨-, a, hmem, hle⟩ := Node.Moves.elapses (c := .idle r.now) hm hx
  have := (List.min?_eq_some_iff.1 ha).2 a hmem
  omega

namespace Awaits

theorem progress (h : Awaits r₀ d pre r r') (he : r.step e = some k) :
    ∃ e' k', r'.step e' = some k' ∧ (e' = e.lift ∨ e'.ofBranch? = none) := by
  obtain rfl := h.eq
  have hr := h.undisturbed
  obtain ⟨ho, hcase⟩ := hr.step_cases he
  rcases Nat.lt_or_ge d.millis r.now with hlt | hle
  · obtain ⟨k', hk'⟩ := hr.expire ho (Nat.le_of_lt hlt) (h.late hlt).2
    exact ⟨_, k', hk', .inr rfl⟩
  · rcases hcase with ⟨m, q, n, f, rfl, hm, -⟩ | ⟨time, rfl, hx, ha, -⟩
    · exact ⟨_, _, hr.move_within hle hm, .inl rfl⟩
    · rcases Nat.lt_or_eq_of_le hle with hlt | heq
      · exact ⟨_, _, hr.tick_within hlt ho hx ha, .inl rfl⟩
      · rw [nextMove?, hr.context_eq, heq] at hx
        obtain ⟨k', hk'⟩ := hr.expire ho (Nat.le_of_eq heq.symm) hx
        exact ⟨_, k', hk', .inr rfl⟩

theorem own (h : Awaits r₀ d pre r r') (he' : r'.step e' = some k')
    (hown : e'.ofBranch? = none) : Expired r₀ d pre r k' := by
  obtain rfl := h.eq
  have hr' := h.undisturbed.within d
  have hheld := hr'.toDirect.held (happens_of_step he').2
  have hk' := hr'.happens (happens_of_step he').2
  obtain ⟨-, ⟨m, q, n, f, rfl, hm, rfl⟩ | ⟨time, rfl, -⟩⟩ := hr'.step_cases he'
  · rcases h.undisturbed.moves_within hm with
      ⟨rfl, ho, hdue, hx, rfl, rfl⟩ | ⟨q', b, rfl, -⟩
    · refine ⟨h.follow, h.undisturbed, h.early, hdue, ho, hx, ⟨hk', Nat.min_eq_right hdue, ?_,
        ⟨r.tree, rfl⟩, rfl, rfl⟩⟩
      rfl
    · cases hown
  · cases hown

theorem same (h : Awaits r₀ d pre r r') (he : r.step e = some k)
    (he' : r'.step e.lift = some k') : Awaits r₀ d (pre ++ [e]) k k' := by
  obtain rfl := h.eq
  have hr := h.undisturbed
  have hfollow := follow_concat h.follow he
  have hk := hr.happens (happens_of_step he).2
  have harrivals := arrivals_concat h.follow he
  obtain ⟨-, hcase⟩ := (hr.within d).step_cases he'
  obtain ⟨ho, ⟨m, q, n, f, rfl, hm, rfl⟩ | ⟨time, rfl, hx, ha, rfl⟩⟩ := hr.step_cases he
  · -- beyond the deadline the tree could not have moved under it
    have hle : r.now ≤ d.millis := by
      apply Nat.le_of_not_lt
      intro hlt
      obtain ⟨m', q', n', f', heq, hm', -⟩ | ⟨time, heq, -⟩ := hcase
      · cases heq
        rcases hr.moves_within hm' with ⟨hnil, -⟩ | ⟨q₁, b, hcons, hmove, -⟩
        · cases hnil
        · rw [Nat.min_eq_right (Nat.le_of_lt hlt)] at hmove
          exact hmove.next?_ne_none (h.late hlt).2
      · cases heq
    rw [hr.move_within hle hm] at he'
    refine ⟨hfollow, hk, (Option.some.inj he').symm, ?_, fun hlt => absurd hlt (Nat.not_lt.2 hle)⟩
    rw [harrivals]
    apply List.forall_mem_append.2 ⟨h.early, ?_⟩
    intro a ha
    obtain ⟨x, -, rfl⟩ := List.mem_map.1 ha
    exact hle
  · -- a deadline that is due expires before the clock goes on
    have hlt : r.now < d.millis := by
      obtain ⟨m', q', n', f', heq, -⟩ | ⟨time', heq, hx', -⟩ := hcase
      · cases heq
      · rw [nextMove?, hr.context_within d] at hx'
        have := Node.now_lt_of_next?_eq_none hx' ho
        simp only [Context.idle] at this
        omega
    rw [hr.tick_within hlt ho hx ha] at he'
    refine ⟨hfollow, hk, (Option.some.inj he').symm, ?_,
      fun hlt => ⟨ho, hr.next?_deadline hx ha hlt⟩⟩
    rw [harrivals]
    apply List.forall_mem_append.2 ⟨h.early, ?_⟩
    intro a ha
    cases ha

end Awaits

theorem lockstep_within (r₀ : Run) (d : Duration) : Lockstep (Awaits r₀ d) (Expired r₀ d) where
  live h := by
    obtain rfl := h.eq
    rfl
  stopped h := h.winding.stopped
  finished h hfinished := by
    obtain rfl := h.eq
    simpa [Run.finished, Run.outcome?, within, Node.outcome?] using hfinished
  progress h he := h.progress he
  own h he' hown := h.own he' hown
  same h he he' := .inl (h.same he he')

/-- A run that the deadline cuts off goes on beyond it, with nothing more to come before. -/
theorem Expired.later (h : Expired r₀ d pre r k) (hes : r.follow es = some r')
    (hfinished : r'.finished = true) :
    d.millis < r'.now ∧ ∀ a ∈ r.arrivals es, d.millis < a.1 := by
  have hr := h.undisturbed
  rcases Nat.lt_or_eq_of_le h.due with hlt | heq
  · refine ⟨Nat.lt_of_lt_of_le hlt (now_le_of_follow hes), ?_⟩
    intro a ha
    exact Nat.lt_of_lt_of_le hlt (now_le_of_mem_arrivals ha)
  · cases es with
    | nil =>
      cases hes
      rw [finished_of_open h.outcome?_eq_none] at hfinished
      cases hfinished
    | cons e es =>
      -- at the deadline the tree could do no more, so the run goes on with a tick
      obtain ⟨k, he, hes⟩ := follow_cons_eq_some.1 hes
      obtain ⟨-, ⟨m, q, n, f, rfl, hm, -⟩ | ⟨time, rfl, hx, ha, rfl⟩⟩ := hr.step_cases he
      · rw [hr.context_eq, ← heq] at hm
        exact absurd h.next?_eq_none hm.next?_ne_none
      · have hlt : d.millis < time := by
          have := Node.now_lt_of_mem_alarms hx (List.min?_mem ha)
          rwa [context_now, ← heq] at this
        refine ⟨Nat.lt_of_lt_of_le hlt (now_le_of_follow hes), ?_⟩
        intro a ha
        have hnothing : r.delivers .tick = [] := rfl
        rw [arrivals_cons he, hnothing] at ha
        exact Nat.lt_of_lt_of_le hlt (now_le_of_mem_arrivals ha)

theorem Winding.timed_out {now : Nat} {arrived : List Match} (h : k.Winding now arrived)
    (hp : Node.Reached (.timeout d p) k.tree) (hfinished : k.finished = true) :
    ∃ as, k.execution? = some ⟨.partialSuccess, as ++ [.timeout p.name d]⟩ := by
  have hended : k.tree.outcome?.isSome := (Bool.and_eq_true_iff.1 hfinished).1
  have hstopped := h.stopped
  have hunwarned := h.unwarned
  obtain ⟨b, expired, fired, ht, hb⟩ := hp.timeout
  rw [ht] at hended hstopped hunwarned
  obtain rfl : expired = true := hstopped
  obtain rfl : fired = false := hunwarned
  rw [Node.outcome?, Option.isSome_map] at hended
  obtain ⟨o, ho⟩ := Option.isSome_iff_exists.1 hended
  refine ⟨o.alerts, ?_⟩
  rw [execution?, outcome?, ht, Node.outcome?, ho, hb.name]
  rfl

theorem execution?_within {x : Execution} (ho : r.tree.outcome? = some (.done x)) :
    (r.within d).execution? = r.execution? := by
  simp only [execution?, outcome?, within, Node.outcome?, ho]
  rfl

theorem Expired.arrived (h : Expired r₀ d pre r k) (hes : r.follow es = some r')
    (hfinished : r'.finished = true) :
    r₀.arrivals pre = (r₀.arrivals (pre ++ es)).filter (·.1 ≤ d.millis) := by
  obtain ⟨-, hlater⟩ := h.later hes hfinished
  rw [arrivals_append h.follow, List.filter_append, List.filter_eq_self.2, List.filter_eq_nil_iff.2,
    List.append_nil]
  · intro a ha
    simpa using hlater a ha
  · intro a ha
    simpa using h.early a ha

/-- Nothing arrives at a time to come at which nothing is timed to take place. -/
theorem Undisturbed.filter_arrivals {c : Nat} (h : r.Undisturbed) (hnow : r.now < c)
    (hes : r.follow es = some r')
    (hquiet : ∀ x ∈ r.trace es, x.1.Elapses x.2 → x.1.now ≠ c) :
    (r.arrivals es).filter (·.1 ≤ c) = (r.arrivals es).filter (·.1 < c) := by
  apply List.filter_congr
  intro a ha
  obtain ⟨x, hx, ha⟩ := List.mem_flatMap.1 ha
  obtain ⟨m, -, rfl⟩ := List.mem_map.1 ha
  have hne : x.1.now ≠ c := h.trace_quiet hnow hes hquiet x hx
  rw [decide_eq_decide]
  dsimp only
  omega

/-- A run under a deadline is the run without it, if that is at its end by the deadline. Otherwise
it ends at the deadline, partially, with what has arrived until then, and says so last. -/
theorem cut_by_deadline (d : Duration) (hes : (direct (.ofPlan p) {}).follow es = some r)
    (hfinished : r.finished = true) :
    -- some run under the deadline takes its events in the same order and comes to an end
    (∃ es' r', (direct (.ofPlan (.timeout d p)) {}).follow es' = some r' ∧ r'.Over ∧
      (direct (.ofPlan (.timeout d p)) {}).beforeStop es' <+: es) ∧
    -- every such run is finished when it can do no more
    ∀ es' r', (direct (.ofPlan (.timeout d p)) {}).follow es' = some r' → r'.Over →
      (direct (.ofPlan (.timeout d p)) {}).beforeStop es' <+: es →
      r'.finished = true ∧
      (r.now ≤ d.millis → r'.now = r.now ∧ r'.execution? = r.execution? ∧
        r'.outlet = r.outlet ∧ r'.tree.probes = r.tree.probes) ∧
      (d.millis < r.now → r'.now = d.millis ∧
        r'.outlet.held.flatten =
          (((direct (.ofPlan p) {}).arrivals es).filter (·.1 ≤ d.millis)).map (·.2) ∧
        -- only at the start does anything arrive at a time for which nothing is timed
        (0 < d.millis →
          (∀ x ∈ (direct (.ofPlan p) {}).trace es, x.1.Elapses x.2 → x.1.now ≠ d.millis) →
          r'.outlet.held.flatten =
            (((direct (.ofPlan p) {}).arrivals es).filter (·.1 < d.millis)).map (·.2)) ∧
        ∃ as, r'.execution? = some ⟨.partialSuccess, as ++ [.timeout p.name d]⟩) := by
  have hstart : Awaits (direct (.ofPlan p) {}) d [] (direct (.ofPlan p) {})
      (direct (.ofPlan (.timeout d p)) {}) :=
    ⟨rfl, undisturbed_ofPlan p, (direct_within d p).symm, nofun,
      fun hlt => absurd hlt (Nat.not_lt_zero _)⟩
  have hlockstep := lockstep_within (direct (.ofPlan p) {}) d
  refine ⟨hlockstep.exists_run hstart hes hfinished, ?_⟩
  intro es' r' hes' hover hsame
  rcases hlockstep.side_or_parted hstart hes hes' hover hsame with
    hside | ⟨es₁, es₂, r₁, k₁, fs, rfl, hr₁, hparted, hfs⟩
  · have hle : r.now ≤ d.millis := by
      apply Nat.le_of_not_lt
      intro hlt
      rw [finished_of_open (hside.late hlt).1] at hfinished
      cases hfinished
    obtain ⟨x, ho⟩ := (undisturbed_ofPlan p).done rfl hes hfinished
    refine ⟨hlockstep.finished hside hfinished, fun _ => ?_,
      fun hlt => absurd hle (Nat.not_le.2 hlt)⟩
    rw [hside.eq]
    exact ⟨Nat.min_eq_left hle, execution?_within ho, rfl, rfl⟩
  · obtain ⟨hlt, -⟩ := hparted.later hr₁ hfinished
    have hend := hparted.winding.follow hfs
    have hfinished' := hend.finished_of_over hover
    rw [List.nil_append] at hparted
    have hheld : r'.outlet.held.flatten = (((direct (.ofPlan p) {}).arrivals (es₁ ++ es₂)).filter
        (·.1 ≤ d.millis)).map (·.2) := by
      rw [hend.arrived, ← hparted.arrived hr₁ hfinished,
        held_of_follow (undisturbed_ofPlan p).toDirect hparted.follow]
      rfl
    refine ⟨hfinished', fun hle => absurd hle (Nat.not_le.2 hlt), fun _ => ⟨hend.now_eq, hheld, ?_,
      hend.timed_out (reached rfl hes') hfinished'⟩⟩
    intro hpos hquiet
    rw [hheld, (undisturbed_ofPlan p).filter_arrivals hpos hes hquiet]

end Run

/-! A search that is cut off between its two batches. -/

namespace Overdue

def after : Duration := ⟨2500000⟩

def events : List Event :=
  Cut.asleep.map Event.lift ++ [.move [] .expire, .move [0, 1, 1] .halt, .move [0, 0, 0] .halt]

theorem over_at_three : ∃ r,
    (Run.direct (.ofPlan (.timeout after Cut.plan)) {}).follow events = some r ∧ r.now = 3 ∧
      r.outlet.held.flatten = [.ofRepo "a"] ∧
      ∃ as, r.execution? = some ⟨.partialSuccess, as ++ [.timeout "PARALLEL" after]⟩ := by
  have hend : ((Run.direct (.ofPlan Cut.plan) {}).follow Cut.events).map
      (fun r => (r.finished, r.now)) = some (true, 8) := rfl
  obtain ⟨r, hr, hresult⟩ := Option.map_eq_some_iff.1 hend
  obtain ⟨hfinished, hnow⟩ := Prod.mk.inj hresult
  have hend' : ((Run.direct (.ofPlan (.timeout after Cut.plan)) {}).follow events).map
      Run.finished = some true := rfl
  obtain ⟨r', hr', hfinished'⟩ := Option.map_eq_some_iff.1 hend'
  have hsame : (Run.direct (.ofPlan (.timeout after Cut.plan)) {}).beforeStop events <+:
      Cut.events := by decide
  obtain ⟨-, hcut⟩ := Run.cut_by_deadline after hr hfinished
  obtain ⟨-, -, hlate⟩ := hcut events r' hr' (Run.over_of_finished hfinished') hsame
  have hlt : after.millis < r.now := by
    rw [hnow]
    decide
  obtain ⟨hnow', -, hheld, halerts⟩ := hlate hlt
  exact ⟨r', hr', hnow', hheld (by decide) (by decide), halerts⟩

end Overdue

/-! A search that sends before it sleeps and has no time at all. -/

namespace Hasty

def text : Script := { name := "text", steps := [.emit [.ofRepo "a"], .sleep (.ofMillis 5)] }

def alone : List Event :=
  [.move [] .act, .move [] .act, .move [] .act, .tick, .move [] .act, .move [] .act]

def hurried : List Event :=
  [.move [0] .act, .move [0] .act, .move [0] .act, .move [] .expire, .move [0] .halt]

theorem arrived_at_zero : ∃ r r',
    (Run.direct (.ofPlan (.leaf text)) {}).follow alone = some r ∧ r.finished = true ∧
    (∀ x ∈ (Run.direct (.ofPlan (.leaf text)) {}).trace alone, x.1.Elapses x.2 → x.1.now ≠ 0) ∧
    (Run.direct (.ofPlan (.timeout ⟨0⟩ (.leaf text))) {}).follow hurried = some r' ∧ r'.Over ∧
    (Run.direct (.ofPlan (.timeout ⟨0⟩ (.leaf text))) {}).beforeStop hurried <+: alone ∧
    (⟨0⟩ : Duration).millis < r.now ∧
    r'.outlet.held.flatten ≠ (((Run.direct (.ofPlan (.leaf text)) {}).arrivals alone).filter
      (·.1 < (⟨0⟩ : Duration).millis)).map (·.2) := by
  have hend : ((Run.direct (.ofPlan (.leaf text)) {}).follow alone).map
      (fun r => (r.finished, r.now)) = some (true, 5) := rfl
  obtain ⟨r, hr, hresult⟩ := Option.map_eq_some_iff.1 hend
  obtain ⟨hfinished, hnow⟩ := Prod.mk.inj hresult
  have hend' : ((Run.direct (.ofPlan (.timeout ⟨0⟩ (.leaf text))) {}).follow hurried).map
      (fun r => (r.finished, r.outlet.held)) = some (true, [[.ofRepo "a"]]) := rfl
  obtain ⟨r', hr', hresult'⟩ := Option.map_eq_some_iff.1 hend'
  obtain ⟨hfinished', hheld⟩ := Prod.mk.inj hresult'
  refine ⟨r, r', hr, hfinished, by decide, hr', Run.over_of_finished hfinished', by decide, ?_, ?_⟩
  · rw [hnow]
    decide
  · rw [hheld]
    decide

end Hasty

end SearchPlan
