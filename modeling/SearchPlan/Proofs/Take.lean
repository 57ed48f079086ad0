import SearchPlan.Proofs.Capacity
import SearchPlan.Proofs.Run.Lockstep

/-! A plan under a cap beside the same plan alone, both run directly and left alone. They are the
same run if the plan alone has too few matches for the cap. Otherwise the run under the cap ends
with the match that fills it. -/

namespace SearchPlan

namespace Run

variable {p : Plan} {count : Nat} {r₀ r r' k k' : Run} {e e' : Event} {es es' pre : List Event}
  {m : Move} {q : Path} {n : Node} {f : Flow}

/-- The room that is left under the cap by what the collector holds. -/
def room (count : Nat) (r : Run) : Quota := ⟨count, r.outlet.held.flatten.length⟩

/-- The run with its tree under a cap. -/
def upTo (count : Nat) (r : Run) : Run :=
  { r with tree := .limit (r.room count) r.tree false false }

theorem direct_upTo (hc : 0 < count) (p : Plan) :
    (direct (.ofPlan p) {}).upTo count = direct (.ofPlan (.limit count hc p)) {} := rfl

theorem Undisturbed.upTo (h : r.Undisturbed) (count : Nat) : (r.upTo count).Undisturbed :=
  h.enclose rfl _

theorem Undisturbed.context_upTo (h : r.Undisturbed) (count : Nat) :
    (r.upTo count).context = r.context := by
  rw [(h.upTo count).context_eq, h.context_eq]
  rfl

theorem under_upTo (count : Nat) (r : Run) (now : Nat) :
    (((Context.idle now).scope false).through (r.room count).fit).branch 0 = .idle now :=
  Node.under_idle (n := (r.upTo count).tree) (i := 0) rfl now

theorem Undisturbed.nextMove?_upTo (h : r.Undisturbed) (hx : r.nextMove? = none) :
    (r.upTo count).nextMove? = none := by
  rw [nextMove?, h.context_eq] at hx
  rw [nextMove?, h.context_upTo, h.context_eq]
  apply Option.map_eq_none_iff.2
  rwa [under_upTo]

theorem Undisturbed.tick_upTo {time : Nat} (h : r.Undisturbed) (ho : r.tree.outcome? = none)
    (hx : r.nextMove? = none) (ha : r.tree.alarms.min? = some time) :
    (r.upTo count).step Event.tick.lift = some ({ r with now := time }.upTo count) := by
  have hopen : (r.upTo count).tree.outcome? = none := by
    rw [Run.upTo, Node.outcome?, ho]
    rfl
  exact (h.upTo count).step_tick hopen (h.nextMove?_upTo hx) ha

theorem Undisturbed.step_upTo (h : r.Undisturbed) (hm : Node.Moves m q r.context r.tree n f) :
    (r.upTo count).step (Event.move q m).lift = some { r with
      tree := .limit ((r.room count).pass f).1 n ((r.room count).pass f).2.2 false
      outlet := r.outlet.accept q ((r.room count).pass f).2.1 } := by
  rw [h.context_eq] at hm
  have hm' : Node.Moves m (0 :: q) (r.upTo count).context (r.upTo count).tree
      (.limit ((r.room count).pass f).1 n ((r.room count).pass f).2.2 false)
      ((r.room count).pass f).2.1 := by
    rw [h.context_upTo, h.context_eq]
    apply Node.Moves.limit
    rwa [under_upTo]
  obtain ⟨held, ho⟩ := h.outlet
  rw [Event.lift, (h.upTo count).step_move hm']
  simp only [Run.upTo, ho, Outlet.accept_collector held (0 :: q) q]

theorem pass_room (count : Nat) (r : Run) (f : Flow) :
    ((r.room count).pass f).1 = ⟨count, r.outlet.held.flatten.length + f.batch.length⟩ := by
  rw [Quota.pass_eq_receive]
  rfl

theorem Undisturbed.held_accept (h : r.Undisturbed) (q : Path) (f : Flow) :
    (r.outlet.accept q f).held.flatten = r.outlet.held.flatten ++ f.batch := by
  obtain ⟨held, ho⟩ := h.outlet
  rw [ho, Outlet.held_accept]
  rfl

theorem Undisturbed.accept_room (h : r.Undisturbed) (q : Path)
    (hroom : r.outlet.held.flatten.length + f.batch.length ≤ count) :
    r.outlet.accept q ((r.room count).pass f).2.1 = r.outlet.accept q f := by
  obtain ⟨held, ho⟩ := h.outlet
  simp only [room, ho] at hroom ⊢
  exact Outlet.accept_pass held q hroom

/-- A move that leaves room under the cap is the same under it. -/
theorem Undisturbed.step_short (h : r.Undisturbed) (hm : Node.Moves m q r.context r.tree n f)
    (hshort : r.outlet.held.flatten.length + f.batch.length < count) :
    (r.upTo count).step (Event.move q m).lift =
      some ({ r with tree := n, outlet := r.outlet.accept q f }.upTo count) := by
  have hgoes : ((r.room count).pass f).2.2 = false := by
    apply Bool.eq_false_iff.2
    intro hs
    have hreached := Quota.reached_of_stops hs
    rw [pass_room] at hreached
    exact absurd (of_decide_eq_true hreached) (Nat.not_le.2 hshort)
  rw [h.step_upTo hm, hgoes, h.accept_room q (Nat.le_of_lt hshort), pass_room]
  simp only [Run.upTo, room, h.held_accept, List.length_append]

/-- The move that leaves no room under the cap makes the cap stop the run. -/
theorem Undisturbed.step_full (h : r.Undisturbed) (hm : Node.Moves m q r.context r.tree n f)
    (hshort : r.outlet.held.flatten.length < count)
    (hfull : count ≤ r.outlet.held.flatten.length + f.batch.length)
    (hk' : (r.upTo count).step (Event.move q m).lift = some k') :
    k'.Winding r.now ((r.outlet.held.flatten ++ f.batch).take count) := by
  have hundisturbed := (h.upTo count).happens (happens_of_step hk').2
  have hprompt : (Node.limit (r.room count) r.tree false false).Prompt := by
    refine ⟨nofun, ?_⟩
    intro hr
    exact absurd (of_decide_eq_true hr) (Nat.not_le.2 hshort)
  have hreached : ((r.room count).pass f).1.reached = true := by
    rw [pass_room]
    exact decide_eq_true hfull
  -- no sender waits below the cap, so it stops its branch as soon as it is reached
  have hstops : ((r.room count).pass f).2.2 = true := by
    have hpass : (Node.limit ((r.room count).pass f).1 n ((r.room count).pass f).2.2 false).Prompt :=
      Node.prompt_of_pass hm hprompt
    have hfree := (h.happens (happens_of_step (h.step_move hm)).2).free
    exact (hpass.2 hreached).resolve_right fun ⟨q', hw⟩ => hfree q' hw
  rw [h.step_upTo hm, hstops] at hk'
  obtain rfl := Option.some.inj hk'
  refine ⟨hundisturbed, rfl, ?_, ⟨n, rfl⟩, rfl, rfl⟩
  rw [h.held_accept, Quota.batch_pass, List.take_append,
    List.take_of_length_le (Nat.le_of_lt hshort)]
  rfl

theorem getElem?_arrivals {as : List (Nat × Match)} {b : Batch} {now i : Nat}
    (hle : as.length ≤ i) (hlt : i < as.length + b.length) :
    ((as ++ b.map (now, ·)).map (·.1))[i]? = some now := by
  have hi : i - as.length < b.length := by omega
  rw [List.map_append, List.getElem?_append_right (by rwa [List.length_map]), List.length_map,
    List.map_map, List.getElem?_map, List.getElem?_eq_getElem hi]
  rfl

/-- The run has done `pre`, and beside it the same one under a cap that is not reached. -/
structure Fills (r₀ : Run) (count : Nat) (pre : List Event) (r r' : Run) : Prop where
  follow : r₀.follow pre = some r
  undisturbed : r.Undisturbed
  eq : r' = r.upTo count
  arrived : r.outlet.held.flatten = (r₀.arrivals pre).map (·.2)
  short : (r₀.arrivals pre).length < count

/-- The last match for which there was room has arrived in the last event of `pre`. -/
structure Filled (r₀ : Run) (count : Nat) (pre : List Event) (r k : Run) : Prop where
  follow : r₀.follow pre = some r
  last : ((r₀.arrivals pre).map (·.1))[count - 1]? = some k.now
  winding : k.Winding k.now (((r₀.arrivals pre).map (·.2)).take count)

namespace Fills

theorem progress (h : Fills r₀ count pre r r') (he : r.step e = some k) :
    ∃ e' k', r'.step e' = some k' ∧ (e' = e.lift ∨ e'.ofBranch? = none) := by
  obtain rfl := h.eq
  have hr := h.undisturbed
  obtain ⟨ho, ⟨m, q, n, f, rfl, hm, -⟩ | ⟨time, rfl, hx, ha, -⟩⟩ := hr.step_cases he
  · exact ⟨_, _, hr.step_upTo hm, .inl rfl⟩
  · exact ⟨_, _, hr.tick_upTo ho hx ha, .inl rfl⟩

/-- A cap does nothing of its own. -/
theorem not_own (h : Fills r₀ count pre r r') (he' : r'.step e' = some k') :
    e'.ofBranch? ≠ none := by
  obtain rfl := h.eq
  obtain ⟨-, ⟨m, q, n, f, rfl, hm, -⟩ | ⟨time, rfl, -⟩⟩ :=
    (h.undisturbed.upTo count).step_cases he'
  · cases hm with
    | limit => nofun
  · nofun

theorem same (h : Fills r₀ count pre r r') (he : r.step e = some k)
    (he' : r'.step e.lift = some k') :
    Fills r₀ count (pre ++ [e]) k k' ∨ Filled r₀ count (pre ++ [e]) k k' := by
  obtain rfl := h.eq
  have hr := h.undisturbed
  have hfollow := follow_concat h.follow he
  have hk := hr.happens (happens_of_step he).2
  have harrivals := arrivals_concat h.follow he
  obtain ⟨ho, ⟨m, q, n, f, rfl, hm, rfl⟩ | ⟨time, rfl, hx, ha, rfl⟩⟩ := hr.step_cases he
  · rw [hr.toDirect.delivers_move hm] at harrivals
    have harrived : r.outlet.held.flatten ++ f.batch =
        (r₀.arrivals (pre ++ [.move q m])).map (·.2) := by
      rw [harrivals, List.map_append, map_arrival, h.arrived]
    have hlength : r.outlet.held.flatten.length = (r₀.arrivals pre).length := by
      rw [h.arrived, List.length_map]
    rcases Nat.lt_or_ge (r.outlet.held.flatten.length + f.batch.length) count with hlt | hge
    · rw [hr.step_short hm hlt] at he'
      refine .inl ⟨hfollow, hk, (Option.some.inj he').symm, ?_, ?_⟩
      · rw [← harrived]
        exact hr.held_accept q f
      · rwa [harrivals, List.length_append, List.length_map, ← hlength]
    · have hshort := h.short
      have hwinding := hr.step_full hm (by rwa [hlength]) hge he'
      rw [harrived] at hwinding
      refine .inr ⟨hfollow, ?_, hwinding.now_eq ▸ hwinding⟩
      rw [hwinding.now_eq, harrivals]
      exact getElem?_arrivals (by omega) (by omega)
  · have hnothing : r.delivers .tick = [] := rfl
    rw [hnothing, List.map_nil, List.append_nil] at harrivals
    rw [hr.tick_upTo ho hx ha] at he'
    refine .inl ⟨hfollow, hk, (Option.some.inj he').symm, ?_, ?_⟩
    · rw [harrivals]
      exact h.arrived
    · rw [harrivals]
      exact h.short

end Fills

theorem lockstep_upTo (r₀ : Run) (count : Nat) : Lockstep (Fills r₀ count) (Filled r₀ count) where
  live h := by
    obtain rfl := h.eq
    rfl
  stopped h := h.winding.stopped
  finished h hfinished := by
    obtain rfl := h.eq
    simpa [Run.finished, Run.outcome?, upTo, Node.outcome?] using hfinished
  progress h he := h.progress he
  own h he' hown := absurd hown (h.not_own he')
  same h he he' := h.same he he'

theorem capped_reached (child : String) {quota : Quota} (h : quota.reached = true) (o : Outcome) :
    ∃ status, Node.capped child quota false o =
      .done ⟨status, o.alerts ++ [.limitHit child quota.limit]⟩ := by
  simp only [Node.capped, h]
  exact ⟨_, rfl⟩

/-- A run that its cap has stopped says so last, and nowhere that it was cancelled. -/
theorem Winding.filled_up {hc : 0 < count} {now : Nat} {arrived : List Match}
    (h : k.Winding now arrived) (hp : Node.Reached (.limit count hc p) k.tree)
    (hfinished : k.finished = true) :
    ∃ status as, k.outcome? = some (.done ⟨status, as ++ [.limitHit p.name count]⟩) ∧
      ∀ a ∈ as, a.kind ≠ .cancelled := by
  have hended : k.tree.outcome?.isSome := (Bool.and_eq_true_iff.1 hfinished).1
  have hstopped := h.stopped
  have hunwarned := h.unwarned
  obtain ⟨quota, b, stopped, fired, ht, rfl, hb⟩ := hp.limit
  rw [ht] at hp hended hstopped hunwarned
  obtain rfl : stopped = true := hstopped
  obtain rfl : fired = false := hunwarned
  rw [Node.outcome?, Option.isSome_map] at hended
  obtain ⟨o, ho⟩ := Option.isSome_iff_exists.1 hended
  obtain ⟨status, hcapped⟩ := capped_reached b.name hp.reached_of_stopped o
  refine ⟨status, o.alerts, ?_, fun a ha => hb.kind_ne_cancelled (by rwa [Node.raised_eq ho])⟩
  rw [outcome?, ht, Node.outcome?, ho, Option.map_some, hcapped, hb.name]

/-- What is under a cap that is not reached is not changed by it. -/
theorem execution?_upTo {x : Execution} (ho : r.tree.outcome? = some (.done x))
    (hshort : r.outlet.held.flatten.length < count) :
    (r.upTo count).execution? = r.execution? := by
  have hreached : (r.room count).reached = false := decide_eq_false (Nat.not_le.2 hshort)
  simp only [execution?, outcome?, upTo, Node.outcome?, ho, Option.map_some, Node.capped, hreached]
  rfl

/-- A run under a cap is the run without it, if too few matches arrive in that for the cap.
Otherwise it gives the first of them, as many as the cap lets through, ends with the last of these
and says why. -/
theorem cap_takes {hc : 0 < count} (hes : (direct (.ofPlan p) {}).follow es = some r)
    (hfinished : r.finished = true) :
    -- some run under the cap takes its events in the same order and comes to an end
    (∃ es' r', (direct (.ofPlan (.limit count hc p)) {}).follow es' = some r' ∧ r'.Over ∧
      (direct (.ofPlan (.limit count hc p)) {}).beforeStop es' <+: es) ∧
    -- every such run is finished when it can do no more
    ∀ es' r', (direct (.ofPlan (.limit count hc p)) {}).follow es' = some r' → r'.Over →
      (direct (.ofPlan (.limit count hc p)) {}).beforeStop es' <+: es →
      r'.finished = true ∧
      r'.outlet.held.flatten = r.outlet.held.flatten.take count ∧
      (r.outlet.held.flatten.length < count → r'.now = r.now ∧ r'.execution? = r.execution? ∧
        r'.tree.probes = r.tree.probes) ∧
      (count ≤ r.outlet.held.flatten.length →
        (((direct (.ofPlan p) {}).arrivals es).map (·.1))[count - 1]? = some r'.now ∧
        ∃ status as, r'.outcome? = some (.done ⟨status, as ++ [.limitHit p.name count]⟩) ∧
          ∀ a ∈ as, a.kind ≠ .cancelled) := by
  have hundisturbed := undisturbed_ofPlan p
  have hheld : r.outlet.held.flatten = ((direct (.ofPlan p) {}).arrivals es).map (·.2) :=
    held_of_follow hundisturbed.toDirect hes
  have hstart : Fills (direct (.ofPlan p) {}) count [] (direct (.ofPlan p) {})
      (direct (.ofPlan (.limit count hc p)) {}) :=
    ⟨rfl, hundisturbed, (direct_upTo hc p).symm, rfl, hc⟩
  have hlockstep := lockstep_upTo (direct (.ofPlan p) {}) count
  refine ⟨hlockstep.exists_run hstart hes hfinished, ?_⟩
  intro es' r' hes' hover hsame
  rcases hlockstep.side_or_parted hstart hes hes' hover hsame with
    hside | ⟨es₁, es₂, r₁, k₁, fs, rfl, hr₁, hparted, hfs⟩
  · obtain ⟨x, ho⟩ := hundisturbed.done rfl hes hfinished
    have hshort : r.outlet.held.flatten.length < count := by
      rw [hheld, List.length_map]
      exact hside.short
    refine ⟨hlockstep.finished hside hfinished, ?_, ?_, fun hge => absurd hge (Nat.not_le.2 hshort)⟩
    · rw [List.take_of_length_le (Nat.le_of_lt hshort), hside.eq]
      rfl
    · rw [hside.eq]
      exact fun _ => ⟨rfl, execution?_upTo ho hshort, rfl⟩
  · have hend := hparted.winding.follow hfs
    have hfinished' := hend.finished_of_over hover
    obtain ⟨hlt, -⟩ := List.getElem?_eq_some_iff.1 hparted.last
    rw [List.length_map] at hlt
    have hfull : count ≤ ((direct (.ofPlan p) {}).arrivals ([] ++ es₁)).length := by omega
    have harrivals := arrivals_append hparted.follow es₂
    rw [List.nil_append] at hlt hfull harrivals hparted
    have hreached : Node.Reached (.limit count hc p) r'.tree := reached rfl hes'
    refine ⟨hfinished', ?_, fun hlt => ?_, fun _ => ⟨?_, hend.filled_up hreached hfinished'⟩⟩
    · rw [hend.arrived, hheld, harrivals, List.map_append, List.take_append_of_le_length,
        List.nil_append]
      rwa [List.length_map]
    · rw [hheld, harrivals, List.length_map, List.length_append] at hlt
      omega
    · rw [hend.now_eq, ← hparted.last, harrivals, List.map_append, List.getElem?_append_left]
      rwa [List.length_map]

end Run

/-! A cap that is filled by a part of a batch, while another script sleeps. -/

namespace Sated

def quick : Script :=
  { name := "quick"
    steps := [.emit [.ofRepo "a"], .sleep (.ofMillis 2), .emit [.ofRepo "b", .ofRepo "c"]] }

def slow : Script := { name := "slow", steps := [.sleep (.ofMillis 8), .emit [.ofRepo "d"]] }

def plan : Plan := .group .parallel (.leaf quick) [.leaf slow]

def capped : Plan := .limit 2 Nat.two_pos plan

def sent : List Event :=
  [.move [0] .act, .move [0] .act, .move [0] .act, .move [1] .act, .move [1] .act, .tick,
    .move [0] .act, .move [0] .act]

def alone : List Event :=
  sent ++ [.move [0] .act, .tick, .move [1] .act, .move [1] .act, .move [1] .act]

def events : List Event := sent.map Event.lift ++ [.move [0, 0] .act, .move [0, 1] .halt]

theorem sated_at_two : ∃ r, (Run.direct (.ofPlan capped) {}).follow events = some r ∧
    r.now = 2 ∧ r.outlet.held.flatten = [.ofRepo "a", .ofRepo "b"] ∧
    ∃ status as, r.outcome? = some (.done ⟨status, as ++ [.limitHit "PARALLEL" 2]⟩) ∧
      ∀ a ∈ as, a.kind ≠ .cancelled := by
  have hend : ((Run.direct (.ofPlan plan) {}).follow alone).map
      (fun r => (r.finished, r.outlet.held.flatten)) =
        some (true, [.ofRepo "a", .ofRepo "b", .ofRepo "c", .ofRepo "d"]) := rfl
  obtain ⟨r, hr, hresult⟩ := Option.map_eq_some_iff.1 hend
  obtain ⟨hfinished, hheld⟩ := Prod.mk.inj hresult
  have hend' : ((Run.direct (.ofPlan capped) {}).follow events).map Run.finished = some true := rfl
  obtain ⟨r', hr', hfinished'⟩ := Option.map_eq_some_iff.1 hend'
  have hsame : (Run.direct (.ofPlan capped) {}).beforeStop events <+: alone := by decide
  obtain ⟨-, htakes⟩ := Run.cap_takes hr hfinished
  obtain ⟨-, hfirst, -, hfull⟩ := htakes events r' hr' (Run.over_of_finished hfinished') hsame
  rw [hheld] at hfirst hfull
  obtain ⟨hlast, hsays⟩ := hfull (by decide)
  have htime : (((Run.direct (.ofPlan plan) {}).arrivals alone).map (·.1))[2 - 1]? = some 2 := by
    decide
  rw [htime] at hlast
  exact ⟨r', hr', (Option.some.inj hlast).symm, hfirst, hsays⟩

end Sated

end SearchPlan
