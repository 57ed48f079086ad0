import SearchPlan.Proofs.Node.Unsent
import SearchPlan.Proofs.Run.Line
import SearchPlan.Proofs.Run.Termination

/-! A run into a channel that has room for all that is sent, beside a run into a collector. Whatever
happens in the tree of the one can happen in that of the other, at the same time. The reader of the
channel only makes the clock stop more often. -/

namespace SearchPlan

namespace Channel

variable {ch : Channel}

theorem waits_of_room (hline : ch.line = []) (hroom : ch.buffer.length < ch.capacity) (b : Batch) :
    ch.waits b = false := by
  simp [waits, full, hline, Nat.not_le.2 hroom]

theorem granted_nil (hclosed : ch.closed = false) (hline : ch.line = []) (p : Path) :
    ch.granted p = false := by
  simp [granted, hclosed, hline]

theorem line_sent (ch : Channel) (p : Path) (b : Batch) : (ch.send p b false).line = ch.line := by
  simp only [send, Bool.false_eq_true, if_false]
  split <;> rfl

theorem buffer_sent (hclosed : ch.closed = false) (p : Path) (b : Batch) :
    (ch.send p b false).buffer = if b.isEmpty then ch.buffer else ch.buffer ++ [b] := by
  simp only [send, hclosed, Bool.or_false, Bool.false_eq_true, if_false]
  split <;> rfl

end Channel

/-- Whether an event is one of the tree or of its token, and not of the clock or the reader. -/
def Event.ofTree : Event → Bool
  | .move _ _ => true
  | .cancel => true
  | _ => false

namespace Run

/-- What happens to the tree and its token, in order. -/
def deeds (es : List Event) : List Event := es.filter Event.ofTree

variable {r r' s s' : Run} {e : Event} {es : List Event} {m : Move} {p : Path} {n n' : Node}
  {f : Flow} {x : Batch} {time : Nat}

theorem deeds_append (es fs : List Event) : deeds (es ++ fs) = deeds es ++ deeds fs :=
  List.filter_append ..

theorem step_move (hq : r.quota = none) (hm : Node.Moves m p r.context r.tree n f) :
    r.step (.move p m) = some { r with tree := n, outlet := r.outlet.accept p f } := by
  have hopen : r.finished = false := finished_of_open hm.outcome?_eq_none
  rw [(Happens.move hm).step hopen, pass_unlimited hq, ← hq, Bool.or_false]

/-- Where nobody has to wait, a move hands something over or does not. -/
theorem flow_of_free {c : Context} (hm : Node.Moves m p c n n' f) (hw : ∀ b, c.waits b = false)
    (hg : ∀ q, c.granted q = false) : f = .quiet ∨ ∃ x, f = .handed x false := by
  cases hm.sends with
  | quiet => exact .inl rfl
  | @sent x => exact .inr ⟨x, rfl⟩
  | queued _ _ hx => simp [hw] at hx
  | resumed _ _ hgranted => simp [hg] at hgranted

/-- The run `r` into a collector and the run `s` into a channel have come to the same, but for the
time. The channel has room for what is yet to be sent, and a reader who stays. -/
structure Mirrors (r s : Run) : Prop where
  tree : s.tree = r.tree
  fired : s.fired = r.fired
  cancelAt : s.cancelAt = r.cancelAt
  quota : r.quota = none ∧ s.quota = none
  absent : r.reader = .absent
  stays : s.reader.gone = false ∧ s.reader.wants = none
  collector : r.outlet = .collector s.received
  channel : ∃ ch, s.outlet = .channel ch ∧ ch.closed = false ∧ ch.line = [] ∧
    s.received.length + s.tree.unsent ≤ ch.capacity

/-- Nothing can happen in the run before the time. -/
structure Idles (time : Nat) (r : Run) : Prop where
  move : r.nextMove? = none
  cancel : r.cancel? = none
  later : ∀ a ∈ r.alarms, time ≤ a

namespace Mirrors

theorem context_eq (h : r.Mirrors s) :
    s.context = { { r.context with now := s.now } with waits := s.outlet.waits } := by
  obtain ⟨ch, ho, hclosed, hline, -⟩ := h.channel
  have hgranted : (Outlet.channel ch).granted = (Outlet.collector s.received).granted :=
    funext fun p => Channel.granted_nil hclosed hline p
  simp only [context, h.quota.1, h.quota.2, h.fired, h.collector, ho, hgranted]

/-- As long as there is something to send, nobody has to wait in either run. -/
theorem waits_eq (h : r.Mirrors s) (hu : 0 < s.tree.unsent) (b : Batch) :
    s.outlet.waits b = r.context.waits b := by
  obtain ⟨ch, ho, -, hline, hroom⟩ := h.channel
  have hbuffer : ch.buffer.length ≤ s.received.length := by
    rw [received, ho, List.length_append]
    exact Nat.le_add_left _ _
  rw [ho, collector_waits h.collector]
  exact Channel.waits_of_room hline (by omega) b

theorem moves_iff (h : r.Mirrors s) : Node.Moves m p s.context s.tree n f ↔
    Node.Moves m p { r.context with now := s.now } r.tree n f := by
  rw [h.context_eq, h.tree]
  constructor
  · intro hm
    exact hm.with_waits (w := r.context.waits) fun hu b => (h.waits_eq (h.tree ▸ hu) b).symm
  · intro hm
    exact hm.with_waits fun hu b => h.waits_eq (h.tree ▸ hu) b

theorem nextMove?_eq (h : r.Mirrors s) :
    s.nextMove? = r.tree.next? { r.context with now := s.now } := by
  rw [nextMove?, h.context_eq, h.tree, Node.next?_waits]

theorem flow (h : r.Mirrors s) (hm : Node.Moves m p { r.context with now := s.now } r.tree n f) :
    f = .quiet ∨ ∃ x, f = .handed x false := by
  refine flow_of_free hm (collector_waits h.collector) fun q => ?_
  exact (context_granted r q).trans (by rw [h.collector]; rfl)

/-- What comes out of the same move in both runs. -/
theorem accept (h : r.Mirrors s) (hm : Node.Moves m p { r.context with now := s.now } r.tree n f)
    (now : Nat) : Mirrors { r with now, tree := n, outlet := r.outlet.accept p f }
      { s with tree := n, outlet := s.outlet.accept p f } := by
  obtain ⟨ch, ho, hclosed, hline, hroom⟩ := h.channel
  have hunsent := hm.unsent_le
  rw [h.tree] at hroom
  rcases h.flow hm with rfl | ⟨x, rfl⟩
  · refine ⟨rfl, h.fired, h.cancelAt, h.quota, h.absent, h.stays, h.collector,
      ch, ho, hclosed, hline, ?_⟩
    have hsame : received { s with tree := n, outlet := s.outlet.accept p .quiet } =
      s.received := rfl
    simp only [Flow.load, Nat.add_zero] at hunsent
    rw [hsame]
    dsimp only
    omega
  · have hreceived : received { s with tree := n, outlet := s.outlet.accept p (.handed x false) } =
        if x.isEmpty then s.received else s.received ++ [x] := by
      simp only [received, ho, Outlet.accept, Outlet.send, Outlet.stored,
        Channel.buffer_sent hclosed]
      split
      · rfl
      · exact (List.append_assoc ..).symm
    have hcollector : r.outlet.accept p (.handed x false) =
        .collector (received { s with tree := n, outlet := s.outlet.accept p (.handed x false) }) := by
      rw [hreceived, h.collector]
      rfl
    have hout : s.outlet.accept p (.handed x false) = .channel (ch.send p x false) := by
      rw [ho]
      rfl
    refine ⟨rfl, h.fired, h.cancelAt, h.quota, h.absent, h.stays, hcollector, _, hout, ?_, ?_, ?_⟩
    · rw [Channel.closed_send, hclosed]
    · rw [Channel.line_sent, hline]
    · simp only [Flow.load] at hunsent
      rw [hreceived, Channel.capacity_send]
      dsimp only
      split
      · omega
      · rw [List.length_append, List.length_singleton]
        omega

end Mirrors

theorem cancel?_eq_none_iff : r.cancel? = none ↔
    (r.fired = false → ∀ t, r.cancelAt = some t → r.now < t) := by
  cases hfired : r.fired <;> cases hat : r.cancelAt <;> simp [cancel?, hfired, hat]

theorem Mirrors.cancel?_eq_none_iff (h : r.Mirrors s) :
    s.cancel? = none ↔ ({ r with now := s.now } : Run).cancel? = none := by
  rw [Run.cancel?_eq_none_iff, Run.cancel?_eq_none_iff, h.fired, h.cancelAt]

theorem Idles.next?_eq_none {now : Nat} (h : r.Idles time) (hlt : now < time) :
    r.tree.next? { r.context with now } = none := by
  by_contra hx
  obtain ⟨⟨q, m⟩, hx⟩ := Option.ne_none_iff_exists'.1 hx
  obtain ⟨n, f, hm⟩ := Node.exists_moves_of_next? hx
  obtain ⟨-, a, ha, hle⟩ := hm.elapses h.move
  have := h.later a (tree_alarm h.move ha)
  omega

theorem Idles.cancel?_eq_none {now : Nat} (h : r.Idles time) (hlt : now < time) :
    ({ r with now } : Run).cancel? = none := by
  rw [cancel?_eq_none_iff]
  intro hfired t ht
  have hnow := cancel?_eq_none_iff.1 h.cancel hfired t ht
  have := h.later t (mem_alarms.2 ⟨hnow, .inr (.inr ⟨hfired, ht⟩)⟩)
  exact Nat.lt_of_lt_of_le hlt this

/-- The run `s` is ahead of `r` in time only as long as nothing can happen in the tree. -/
structure Trails (r s : Run) : Prop extends Mirrors r s where
  live : r.tree.outcome? = none
  lag : r.now = s.now ∨ r.now < s.now ∧ r.Idles s.now

/-- The tree has ended, and the reader takes what is left in the channel. -/
structure Drains (r s : Run) : Prop where
  ended : r.tree.outcome?.isSome
  tree : s.tree = r.tree
  absent : r.reader = .absent
  wants : s.reader.wants = none
  collector : r.outlet = .collector s.received
  channel : ∃ ch, s.outlet = .channel ch ∧ (s.reader.gone = true → ch.buffer = [])

theorem Mirrors.drains (h : r.Mirrors s) (ho : r.tree.outcome?.isSome) : r.Drains s := by
  obtain ⟨ch, hout, -⟩ := h.channel
  exact ⟨ho, h.tree, h.absent, h.stays.2, h.collector, ch, hout, by simp [h.stays.1]⟩

theorem Mirrors.clock (h : r.Mirrors s) (now now' : Nat) :
    Mirrors { r with now } { s with now := now' } :=
  ⟨h.tree, h.fired, h.cancelAt, h.quota, h.absent, h.stays, h.collector, h.channel⟩

theorem Mirrors.trails_or_drains (h : r.Mirrors s) (hnow : r.now = s.now) :
    r.Trails s ∨ r.Drains s := by
  cases ho : r.tree.outcome? with
  | none => exact .inl ⟨h, ho, .inl hnow⟩
  | some o => exact .inr (h.drains (by simp [ho]))

/-- The run after its reader, who stays, has read `b`. -/
theorem read_of_stays {ch ch' : Channel} (hw : s.reader.wants = none) (ho : s.outlet = .channel ch)
    (hread : ch.read? = some (x, ch')) :
    (s.reader.read s.now x).gone = false ∧ (s.reader.read s.now x).wants = none ∧
      received { s with
        reader := s.reader.read s.now x
        outlet := .channel (if (s.reader.read s.now x).gone then ch'.close else ch') } =
      s.received := by
  obtain rfl := Channel.eq_of_read hread
  simp [Reader.read, hw, received, ho, Outlet.stored]

theorem Mirrors.read {ch ch' : Channel} (h : r.Mirrors s) (ho : s.outlet = .channel ch)
    (hread : ch.read? = some (x, ch')) : r.Mirrors { s with
      reader := s.reader.read s.now x
      outlet := .channel (if (s.reader.read s.now x).gone then ch'.close else ch') } := by
  obtain ⟨hstays, hwants, hreceived⟩ := read_of_stays h.stays.2 ho hread
  obtain ⟨ch₀, ho₀, hclosed, hline, hroom⟩ := h.channel
  obtain rfl : ch = ch₀ := Outlet.channel.inj (ho.symm.trans ho₀)
  obtain rfl := Channel.eq_of_read hread
  refine ⟨h.tree, h.fired, h.cancelAt, h.quota, h.absent, ⟨hstays, hwants⟩, ?_, ch', ?_, hclosed,
    hline, ?_⟩
  · rw [hreceived]
    exact h.collector
  · rw [hstays]
    rfl
  · rw [hreceived]
    exact hroom

theorem Drains.happens (h : r.Drains s) (he : Happens s e s') : r.Drains s' := by
  obtain ⟨ch, ho, hgone⟩ := h.channel
  cases he with
  | move hm =>
    have hended := h.ended
    rw [← h.tree, hm.outcome?_eq_none] at hended
    cases hended
  | cancel => exact ⟨h.ended, h.tree, h.absent, h.wants, h.collector, ch, ho, hgone⟩
  | tick => exact ⟨h.ended, h.tree, h.absent, h.wants, h.collector, ch, ho, hgone⟩
  | @read ch' b ch'' _ _ ho' hread =>
    obtain ⟨hstays, hwants, hreceived⟩ := read_of_stays h.wants ho' hread
    refine ⟨h.ended, h.tree, h.absent, hwants, ?_, _, rfl, by simp [hstays]⟩
    rw [hreceived]
    exact h.collector
  | @leave ch' _ _ ho' hread =>
    refine ⟨h.ended, h.tree, h.absent, h.wants, h.collector, ch, ho, fun _ => ?_⟩
    obtain rfl : ch' = ch := Outlet.channel.inj (ho'.symm.trans ho)
    simp only [Channel.read?] at hread
    split at hread
    · assumption
    · cases hread

theorem Drains.finished (h : r.Drains s) : r.finished = true := by
  rw [Run.finished, Bool.and_eq_true, h.absent]
  exact ⟨h.ended, rfl⟩

theorem Drains.result (h : r.Drains s) (hs : s.finished = true) :
    s.execution? = r.execution? ∧ s.tree = r.tree ∧ s.reader.seen = r.outlet.held := by
  obtain ⟨ch, ho, hgone⟩ := h.channel
  rw [Run.finished, Bool.and_eq_true] at hs
  refine ⟨?_, h.tree, ?_⟩
  · simp only [execution?, outcome?, h.tree]
  · rw [h.collector, Outlet.held, received, ho, Outlet.stored, hgone hs.2, List.append_nil]

/-- The collector's clock can go where that of the channel is, if something is due there. -/
theorem Trails.catch_up (h : r.Trails s)
    (hdue : r.now < s.now → r.Idles s.now → ∃ a ∈ r.alarms, a ≤ s.now) :
    ∃ es, deeds es = [] ∧ r.follow es = some { r with now := s.now } := by
  rcases h.lag with heq | ⟨hlt, hidle⟩
  · exact ⟨[], rfl, by rw [← heq]; rfl⟩
  · obtain ⟨a, ha, hle⟩ := hdue hlt hidle
    obtain rfl : a = s.now := Nat.le_antisymm hle (hidle.later a ha)
    have hmin : r.alarms.min? = some s.now := List.min?_eq_some_iff.2 ⟨ha, hidle.later⟩
    have hread : r.read? = none := by simp [read?, h.absent, Reader.absent]
    have hstep := (Happens.tick hidle.move hidle.cancel hread hmin).step (finished_of_open h.live)
    exact ⟨[.tick], rfl, follow_cons_eq_some.2 ⟨_, hstep, rfl⟩⟩

/-- Where nothing can happen to the tree of the one run, nothing can happen to that of the other
before the next alarm of the one. -/
theorem Trails.idles (h : r.Trails s) (hx : s.nextMove? = none) (hcancel : s.cancel? = none)
    (hmin : s.alarms.min? = some time) : r.Idles time := by
  obtain ⟨hmove, hcancel'⟩ : r.nextMove? = none ∧ r.cancel? = none := by
    rcases h.lag with heq | ⟨-, hidle⟩
    · have hsame : ({ r with now := s.now } : Run) = r := by rw [← heq]
      rw [h.nextMove?_eq, ← context_tick, hsame] at hx
      have hcancel' := h.cancel?_eq_none_iff.1 hcancel
      rw [hsame] at hcancel'
      exact ⟨hx, hcancel'⟩
    · exact ⟨hidle.move, hidle.cancel⟩
  refine ⟨hmove, hcancel', ?_⟩
  intro a ha
  apply (List.min?_eq_some_iff.1 hmin).2
  obtain ⟨-, ha | ⟨hgone, -⟩ | ⟨hfired, hat⟩⟩ := mem_alarms.1 ha
  · exact tree_alarm hx (h.tree ▸ ha)
  · simp [h.absent, Reader.absent] at hgone
  · rw [← h.fired] at hfired
    rw [← h.cancelAt] at hat
    exact mem_alarms.2 ⟨cancel?_eq_none_iff.1 hcancel hfired a hat, .inr (.inr ⟨hfired, hat⟩)⟩

/-- What happens to the tree above the channel can happen to that above the collector. -/
theorem Trails.back (h : r.Trails s) (he : s.step e = some s') :
    ∃ es r', r.follow es = some r' ∧ deeds es = deeds [e] ∧ (r'.Trails s' ∨ r'.Drains s') := by
  obtain ⟨hopen, he⟩ := happens_of_step he
  cases he with
  | @move m p n f hm =>
    have hm := h.moves_iff.1 hm
    obtain ⟨es, hes, hfollow⟩ := h.catch_up fun hlt hidle => by
      obtain ⟨-, a, ha, hle⟩ := hm.elapses hidle.move
      exact ⟨a, tree_alarm hidle.move ha, hle⟩
    rw [← context_tick] at hm
    have hstep := step_move (r := { r with now := s.now }) h.quota.1 hm
    rw [context_tick] at hm
    refine ⟨es ++ [.move p m], _, follow_concat hfollow hstep, by rw [deeds_append, hes]; rfl, ?_⟩
    rw [pass_unlimited h.quota.2, Bool.or_false, ← h.quota.2]
    exact (h.accept hm s.now).trails_or_drains rfl
  | @cancel t hfired hat hdue =>
    rw [h.fired] at hfired
    rw [h.cancelAt] at hat
    obtain ⟨es, hes, hfollow⟩ := h.catch_up fun hlt hidle =>
      ⟨t, mem_alarms.2 ⟨cancel?_eq_none_iff.1 hidle.cancel hfired t hat, .inr (.inr ⟨hfired, hat⟩)⟩,
        hdue⟩
    have hstep := (Happens.cancel (r := { r with now := s.now }) hfired hat hdue).step
      (finished_of_open h.live)
    refine ⟨es ++ [.cancel], _, follow_concat hfollow hstep, ?_, .inl ?_⟩
    · rw [deeds_append, hes]
      rfl
    exact ⟨⟨h.tree, rfl, h.cancelAt, h.quota, h.absent, h.stays, h.collector, h.channel⟩, h.live,
      .inl rfl⟩
  | read _ _ ho hread =>
    exact ⟨[], r, rfl, rfl, .inl ⟨h.toMirrors.read ho hread, h.live, h.lag⟩⟩
  | leave _ _ _ _ hended =>
    rw [outcome?, h.tree, h.live] at hended
    cases hended
  | @tick time hx hcancel hread hmin =>
    obtain ⟨hlt, -⟩ := mem_alarms.1 (List.min?_mem hmin)
    have hle : r.now ≤ s.now := h.lag.elim Nat.le_of_eq fun h => Nat.le_of_lt h.1
    exact ⟨[], r, rfl, rfl, .inl ⟨h.clock r.now time, h.live,
      .inr ⟨Nat.lt_of_le_of_lt hle hlt, h.idles hx hcancel hmin⟩⟩⟩

/-- The reader of a channel that has nothing to do until the alarms of the tree go off may read, and
then both runs go on at the same time. -/
theorem Mirrors.wait (h : r.Mirrors s) (ho : r.tree.outcome? = none) (hidle : r.Idles time)
    (ha : time ∈ r.alarms) (hle : s.now ≤ time) : ∃ es s', s.follow es = some s' ∧ deeds es = [] ∧
      s'.now = time ∧ r.Mirrors s' := by
  induction hw : s.work using Nat.strongRecOn generalizing s with
  | ind w ih =>
    rcases Nat.eq_or_lt_of_le hle with rfl | hlt
    · exact ⟨[], s, rfl, rfl, rfl, h⟩
    · have hopen : s.finished = false := finished_of_open (h.tree ▸ ho)
      have hx : s.nextMove? = none := by rw [h.nextMove?_eq, hidle.next?_eq_none hlt]
      have hcancel : s.cancel? = none := h.cancel?_eq_none_iff.2 (hidle.cancel?_eq_none hlt)
      -- the reader reads, or the clock goes to the next alarm, which is not after `time`
      obtain ⟨e, s₁, he, hquiet, hs₁, hle₁⟩ : ∃ e s₁, s.step e = some s₁ ∧ deeds [e] = [] ∧
          r.Mirrors s₁ ∧ s₁.now ≤ time := by
        cases hread : s.read? with
        | some s₁ =>
          refine ⟨.read, s₁, by simp [Run.step, hopen, hread], rfl, ?_⟩
          cases happens_of_read hread with
          | read _ _ hout hsome => exact ⟨h.read hout hsome, hle⟩
          | leave _ _ _ _ hended =>
            rw [outcome?, h.tree, ho] at hended
            cases hended
        | none =>
          have ha' : time ∈ s.alarms := by
            obtain ⟨-, ha | ⟨hgone, -⟩ | ⟨hfired, hat⟩⟩ := mem_alarms.1 ha
            · exact tree_alarm hx (h.tree ▸ ha)
            · simp [h.absent, Reader.absent] at hgone
            · exact mem_alarms.2 ⟨hlt, .inr (.inr ⟨h.fired.trans hfired, h.cancelAt.trans hat⟩)⟩
          obtain ⟨now, hmin⟩ : ∃ now, s.alarms.min? = some now := by
            cases hmin : s.alarms.min? with
            | none =>
              rw [List.min?_eq_none_iff.1 hmin] at ha'
              cases ha'
            | some now => exact ⟨now, rfl⟩
          exact ⟨.tick, _, (Happens.tick hx hcancel hread hmin).step hopen, rfl, h.clock r.now now,
            (List.min?_eq_some_iff.1 hmin).2 time ha'⟩
      have hless := (happens_of_step he).2.work_lt
      obtain ⟨es, s', hes, hdeeds, hnow, hs'⟩ := ih s₁.work (hw ▸ hless) hs₁ hle₁ rfl
      refine ⟨e :: es, s', follow_cons_eq_some.2 ⟨s₁, he, hes⟩, ?_, hnow, hs'⟩
      rw [← List.singleton_append, deeds_append, hquiet, hdeeds]
      rfl

/-- What happens to the tree above the collector can happen to that above the channel. -/
theorem Trails.forth (h : r.Trails s) (he : r.step e = some r') :
    ∃ es s', s.follow es = some s' ∧ deeds es = deeds [e] ∧ (r'.Trails s' ∨ r'.Drains s') := by
  have hopen : s.finished = false := finished_of_open (h.tree ▸ h.live)
  obtain ⟨-, he⟩ := happens_of_step he
  cases he with
  | @move m p n f hm =>
    have hnow : r.now = s.now := h.lag.resolve_right fun hlag => hm.next?_ne_none hlag.2.move
    have hsame : { r.context with now := s.now } = r.context := by
      rw [← hnow, ← context_now]
    rw [← hsame] at hm
    refine ⟨[.move p m], _, follow_cons_eq_some.2 ⟨_, step_move h.quota.2 (h.moves_iff.2 hm), rfl⟩,
      rfl, ?_⟩
    rw [pass_unlimited h.quota.1, Bool.or_false, ← h.quota.1]
    exact (h.accept hm r.now).trails_or_drains hnow
  | @cancel t hfired hat hdue =>
    have hnow : r.now = s.now := h.lag.resolve_right fun hlag => by
      have := cancel?_eq_none_iff.1 hlag.2.cancel hfired t hat
      omega
    have hstep :=
      (Happens.cancel (h.fired.trans hfired) (h.cancelAt.trans hat) (hnow ▸ hdue)).step hopen
    refine ⟨[.cancel], _, follow_cons_eq_some.2 ⟨_, hstep, rfl⟩, rfl, .inl ?_⟩
    exact ⟨⟨h.tree, rfl, h.cancelAt, h.quota, h.absent, h.stays, h.collector, h.channel⟩, h.live,
      .inl hnow⟩
  | read hgone => simp [h.absent, Reader.absent] at hgone
  | leave hgone => simp [h.absent, Reader.absent] at hgone
  | @tick time hx hcancel hread hmin =>
    obtain ⟨ha, hmin⟩ := List.min?_eq_some_iff.1 hmin
    have hle : s.now ≤ time := by
      rcases h.lag with hnow | ⟨-, hidle⟩
      · exact hnow ▸ Nat.le_of_lt (mem_alarms.1 ha).1
      · exact hidle.later time ha
    obtain ⟨es, s', hes, hdeeds, hnow, hs'⟩ := h.wait h.live ⟨hx, hcancel, hmin⟩ ha hle
    exact ⟨es, s', hes, hdeeds, .inl ⟨hs'.clock time s'.now, h.live, .inl hnow.symm⟩⟩

end Run

end SearchPlan
