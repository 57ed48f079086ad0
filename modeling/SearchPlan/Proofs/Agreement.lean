import SearchPlan.Proofs.Liveness
import SearchPlan.Proofs.Run.Stream

/-! A run behind a channel comes to the same as one into a collector if the channel has room for all
batches of the plan and its reader stays, or if the reader is gone before the run starts. -/

namespace SearchPlan

/-- Nobody has to wait: it is a collector, or a channel whose reader is gone. -/
inductive Outlet.Free : Outlet → Prop
  | collector : Free (.collector batches)
  | closed : ch.closed = true → ch.line = [] → Free (.channel ch)

namespace Outlet.Free

variable {o : Outlet} {f : Flow}

theorem waits (h : o.Free) (b : Batch) : o.waits b = false := by
  cases h with
  | collector => rfl
  | closed hclosed => simp [Outlet.waits, Channel.waits, hclosed]

theorem granted (h : o.Free) (p : Path) : o.granted p = false := by
  cases h with
  | collector => rfl
  | closed hclosed hline => simp [Outlet.granted, Channel.granted, hclosed, hline]

theorem accept (h : o.Free) (p : Path) (hf : f = .quiet ∨ ∃ x, f = .handed x false) :
    (o.accept p f).Free := by
  rcases hf with rfl | ⟨x, rfl⟩
  · exact h
  · cases h with
    | collector => exact .collector
    | @closed ch hclosed hline =>
      exact .closed ((ch.closed_send p x false).trans hclosed) ((ch.line_sent p x).trans hline)

end Outlet.Free

namespace Run

variable {r r' s s' : Run} {e : Event} {es fs ds : List Event} {p : Plan} {n : Node} {m : Move}
  {q : Path} {f : Flow} {wants cancelAt : Option Nat} {sub : Subscription}

/-- Two runs have come to the same, and neither has anybody who reads or waits. -/
structure Alike (r s : Run) : Prop where
  now : s.now = r.now
  tree : s.tree = r.tree
  fired : s.fired = r.fired
  cancelAt : s.cancelAt = r.cancelAt
  quota : r.quota = none ∧ s.quota = none
  gone : r.reader.gone = true ∧ s.reader.gone = true
  free : r.outlet.Free ∧ s.outlet.Free

namespace Alike

theorem symm (h : r.Alike s) : s.Alike r :=
  ⟨h.now.symm, h.tree.symm, h.fired.symm, h.cancelAt.symm, h.quota.symm, h.gone.symm, h.free.symm⟩

theorem context_eq (h : r.Alike s) : s.context = r.context := by
  have hwaits : s.outlet.waits = r.outlet.waits :=
    funext fun b => (h.free.2.waits b).trans (h.free.1.waits b).symm
  have hgranted : s.outlet.granted = r.outlet.granted :=
    funext fun q => (h.free.2.granted q).trans (h.free.1.granted q).symm
  simp only [context, h.quota.1, h.quota.2, h.now, h.fired, hwaits, hgranted]

theorem finished_eq (h : r.Alike s) : s.finished = r.finished := by
  simp only [finished, outcome?, h.tree, h.gone.1, h.gone.2]

theorem alarms_eq (h : r.Alike s) : s.alarms = r.alarms := by
  simp [alarms, h.tree, h.now, h.fired, h.cancelAt, h.gone.1, h.gone.2]

theorem flow (h : r.Alike s) (hm : Node.Moves m q r.context r.tree n f) :
    f = .quiet ∨ ∃ x, f = .handed x false := by
  have hcontext : r.context = ⟨r.now, r.fired, r.outlet.waits, r.outlet.granted⟩ := by
    rw [context, h.quota.1]
  rw [hcontext] at hm
  exact flow_of_free hm h.free.1.waits h.free.1.granted

/-- Whatever happens in one of the runs happens in the other. -/
theorem step (h : r.Alike s) (he : r.step e = some r') :
    ∃ s', s.step e = some s' ∧ r'.Alike s' := by
  obtain ⟨hopen, he⟩ := happens_of_step he
  rw [← h.finished_eq] at hopen
  cases he with
  | @move m q n f hm =>
    have hflow := h.flow hm
    rw [← h.context_eq, ← h.tree] at hm
    refine ⟨_, (Happens.move hm).step hopen, ?_⟩
    rw [pass_unlimited h.quota.1, pass_unlimited h.quota.2, Bool.or_false, Bool.or_false]
    exact ⟨h.now, rfl, h.fired, h.cancelAt, ⟨rfl, rfl⟩, h.gone, h.free.1.accept q hflow,
      h.free.2.accept q hflow⟩
  | cancel hfired hat hdue =>
    rw [← h.fired] at hfired
    rw [← h.cancelAt] at hat
    rw [← h.now] at hdue
    exact ⟨_, (Happens.cancel hfired hat hdue).step hopen, h.now, h.tree, rfl, h.cancelAt, h.quota,
      h.gone, h.free⟩
  | read hgone => simp [h.gone.1] at hgone
  | leave hgone => simp [h.gone.1] at hgone
  | tick hx hcancel _ hmin =>
    rw [nextMove?, ← h.tree, ← h.context_eq] at hx
    rw [cancel?_eq_none_iff, ← h.fired, ← h.cancelAt, ← h.now, ← cancel?_eq_none_iff] at hcancel
    rw [← h.alarms_eq] at hmin
    have hread : s.read? = none := by simp [read?, h.gone.2]
    exact ⟨_, (Happens.tick hx hcancel hread hmin).step hopen, rfl, h.tree, h.fired, h.cancelAt,
      h.quota, h.gone, h.free⟩

end Alike

/-- What the run `r` into a collector is to the run `s` whose reader wants `wants` batches. -/
inductive Tracks (wants : Option Nat) (r s : Run) : Prop
  | trails : wants = none → r.Trails s → Tracks wants r s
  | drains : wants = none → r.Drains s → Tracks wants r s
  | alike : wants ≠ none → r.Alike s → Tracks wants r s

namespace Tracks

theorem start (hn : Node.Ready p n)
    (hsub : p.batchCount ≤ sub.buffer ∧ sub.wants = none ∨ sub.wants = some 0) :
    Tracks sub.wants (direct n { cancelAt }) (spawned n { cancelAt } sub) := by
  rcases hsub with ⟨hbuffer, hwants⟩ | hwants
  · have hgone : (Reader.ofPause sub.pause sub.wants).gone = false := by
      simp [Reader.ofPause, hwants]
    refine .trails hwants ⟨⟨rfl, rfl, rfl, ⟨rfl, rfl⟩, rfl, ⟨hgone, hwants⟩, ?_, ?_⟩,
      hn.outcome?_eq_none, .inl rfl⟩
    · simp only [spawned, received, hgone]
      rfl
    · simp only [spawned, received, hgone]
      refine ⟨_, rfl, rfl, rfl, ?_⟩
      calc
        0 + n.unsent = p.batchCount := by rw [Nat.zero_add, hn.unsent_eq]
        _ ≤ sub.buffer := hbuffer
        _ ≤ (Channel.ofCapacity sub.buffer).capacity := Nat.le_max_left _ _
  · have hgone : (Reader.ofPause sub.pause sub.wants).gone = true := by
      simp [Reader.ofPause, hwants]
    refine .alike (by simp [hwants]) ⟨rfl, rfl, rfl, rfl, ⟨rfl, rfl⟩, ⟨rfl, hgone⟩, .collector, ?_⟩
    simp only [spawned, hgone]
    exact .closed rfl rfl

/-- The run into a collector may go on as before; behind the channel the same happens. -/
theorem forth (h : Tracks wants r s) (hes : r.follow es = some r') :
    ∃ fs s', s.follow fs = some s' ∧ deeds fs = deeds es ∧ Tracks wants r' s' := by
  induction es generalizing r s with
  | nil =>
    cases hes
    exact ⟨[], s, rfl, rfl, h⟩
  | cons e es ih =>
    obtain ⟨k, he, hes⟩ := follow_cons_eq_some.1 hes
    obtain ⟨fs, s₁, hfs, hdeeds, hk⟩ : ∃ fs s₁, s.follow fs = some s₁ ∧ deeds fs = deeds [e] ∧
        Tracks wants k s₁ := by
      cases h with
      | trails hwants h =>
        obtain ⟨fs, s₁, hfs, hdeeds, hk⟩ := h.forth he
        exact ⟨fs, s₁, hfs, hdeeds, hk.elim (.trails hwants) (.drains hwants)⟩
      | drains _ h =>
        have hopen := (happens_of_step he).1
        rw [h.finished] at hopen
        cases hopen
      | alike hwants h =>
        obtain ⟨s₁, hs, hk⟩ := h.step he
        exact ⟨[e], s₁, follow_cons_eq_some.2 ⟨s₁, hs, rfl⟩, rfl, .alike hwants hk⟩
    obtain ⟨gs, s', hgs, hdeeds', hr'⟩ := ih hk hes
    refine ⟨fs ++ gs, s', by rw [follow_append, hfs]; exact hgs, ?_, hr'⟩
    rw [deeds_append, hdeeds, hdeeds', ← deeds_append]
    rfl

/-- Whatever happens behind the channel happens to the run into a collector until it is over. -/
theorem back (h : Tracks wants r s) (hfs : Paced s fs s') :
    ∃ es r', r.follow es = some r' ∧ Tracks wants r' s' ∧ deeds es <+: deeds fs ∧
      (r'.finished = false → deeds es = deeds fs) := by
  induction hfs with
  | refl => exact ⟨[], r, rfl, h, List.prefix_rfl, fun _ => rfl⟩
  | @pause _ k pause _ ih =>
    obtain ⟨es, r', hes, hk, hdeeds⟩ := ih
    refine ⟨es, r', hes, ?_, hdeeds⟩
    cases hk with
    | trails hwants h =>
      have hmirrors : r'.Mirrors { k with reader := { k.reader with pause } } :=
        ⟨h.tree, h.fired, h.cancelAt, h.quota, h.absent, h.stays, h.collector, h.channel⟩
      exact .trails hwants ⟨hmirrors, h.live, h.lag⟩
    | drains hwants h =>
      exact .drains hwants ⟨h.ended, h.tree, h.absent, h.wants, h.collector, h.channel⟩
    | alike hwants h =>
      exact .alike hwants ⟨h.now, h.tree, h.fired, h.cancelAt, h.quota, h.gone, h.free⟩
  | @event fs k e k' _ he ih =>
    obtain ⟨es, r', hes, hk, hdeeds, heq⟩ := ih
    have happened {gs : List Event} (hopen : r'.finished = false) (hgs : deeds gs = deeds [e]) :
        deeds (es ++ gs) = deeds (fs ++ [e]) := by
      rw [deeds_append, deeds_append, heq hopen, hgs]
    cases hk with
    | trails hwants h =>
      obtain ⟨gs, r₁, hgs, hsame, hr₁⟩ := h.back he
      have hall := happened (finished_of_open h.live) hsame
      exact ⟨es ++ gs, r₁, by rw [follow_append, hes]; exact hgs,
        hr₁.elim (.trails hwants) (.drains hwants), hall ▸ List.prefix_rfl, fun _ => hall⟩
    | drains hwants h =>
      refine ⟨es, r', hes, .drains hwants (h.happens (happens_of_step he).2), ?_, ?_⟩
      · rw [deeds_append]
        exact hdeeds.trans (List.prefix_append _ _)
      · intro hopen
        rw [h.finished] at hopen
        cases hopen
    | alike hwants h =>
      obtain ⟨r₁, hr, hr₁⟩ := h.symm.step he
      have hall := happened (happens_of_step hr).1 rfl
      exact ⟨es ++ [e], r₁, follow_concat hes hr, .alike hwants hr₁.symm, hall ▸ List.prefix_rfl,
        fun _ => hall⟩

theorem result (h : Tracks wants r s) (hs : s.finished = true) :
    r.finished = true ∧ s.execution? = r.execution? ∧ s.tree = r.tree ∧
      (wants = none → s.reader.seen = r.outlet.held) := by
  cases h with
  | trails _ h =>
    rw [finished_of_open (h.tree ▸ h.live)] at hs
    cases hs
  | drains _ h =>
    obtain ⟨hexecution, htree, hseen⟩ := h.result hs
    exact ⟨h.finished, hexecution, htree, fun _ => hseen⟩
  | alike hwants h =>
    refine ⟨h.finished_eq ▸ hs, ?_, h.tree, fun hw => absurd hw hwants⟩
    simp only [execution?, outcome?, h.tree]

end Tracks

/-- If the clock can go on, nothing else can happen. -/
theorem eq_tick (hgone : r.reader.gone = true) (ht : r.step .tick = some s)
    (he : r.step e = some s') : e = .tick := by
  cases (happens_of_step ht).2 with
  | tick hx hcancel =>
    cases (happens_of_step he).2 with
    | move hm => exact absurd hx hm.next?_ne_none
    | cancel hfired hat hdue =>
      have := cancel?_eq_none_iff.1 hcancel hfired _ hat
      omega
    | read hreads => simp [hgone] at hreads
    | leave hreads => simp [hgone] at hreads
    | tick => rfl

/-- What happens where nobody reads is a deed or a tick, and keeps it so. -/
theorem ofTree_or_tick (hgone : r.reader.gone = true) (he : r.step e = some r') :
    (e.ofTree = true ∨ e = .tick) ∧ r'.reader.gone = true := by
  cases (happens_of_step he).2 with
  | move => exact ⟨.inl rfl, hgone⟩
  | cancel => exact ⟨.inl rfl, hgone⟩
  | tick => exact ⟨.inr rfl, hgone⟩
  | read hreads => simp [hgone] at hreads
  | leave hreads => simp [hgone] at hreads

/-- A run that is to take its deeds from one list has no choice. -/
theorem same_event {e' : Event} (hgone : r.reader.gone = true) (he : r.step e = some s)
    (he' : r.step e' = some s') (hd : deeds (e :: es) <+: ds) (hd' : deeds (e' :: fs) <+: ds) :
    e = e' ∧ ∃ ds', deeds es <+: ds' ∧ deeds fs <+: ds' := by
  rcases (ofTree_or_tick hgone he).1 with hdeed | rfl
  · rcases (ofTree_or_tick hgone he').1 with hdeed' | rfl
    · rw [deeds, List.filter_cons_of_pos hdeed] at hd
      rw [deeds, List.filter_cons_of_pos hdeed'] at hd'
      cases ds with
      | nil => cases List.prefix_nil.1 hd
      | cons d ds =>
        obtain ⟨hed, htail⟩ := List.cons_prefix_cons.1 hd
        obtain ⟨hed', htail'⟩ := List.cons_prefix_cons.1 hd'
        exact ⟨hed.trans hed'.symm, ds, htail, htail'⟩
    · obtain rfl := eq_tick hgone he' he
      cases hdeed
  · obtain rfl := eq_tick hgone he he'
    exact ⟨rfl, ds, hd, hd'⟩

/-- Two runs from one state to which the same deeds happen are one, as far as both go. -/
theorem exists_rest (hgone : r.reader.gone = true) (hes : r.follow es = some r')
    (hover : r'.finished = true) (hfs : r.follow fs = some s) (hd : deeds es <+: ds)
    (hd' : deeds fs <+: ds) : ∃ gs, fs ++ gs = es ∧ s.follow gs = some r' := by
  induction es generalizing r fs ds with
  | nil =>
    cases hes
    obtain ⟨rfl, rfl⟩ := eq_of_over (over_of_finished hover) hfs
    exact ⟨[], rfl, rfl⟩
  | cons e es ih =>
    cases fs with
    | nil =>
      cases hfs
      exact ⟨e :: es, rfl, hes⟩
    | cons f fs =>
      obtain ⟨k, he, hes⟩ := follow_cons_eq_some.1 hes
      obtain ⟨k', hf, hfs⟩ := follow_cons_eq_some.1 hfs
      obtain ⟨rfl, ds', hd, hd'⟩ := same_event hgone he hf hd hd'
      cases he.symm.trans hf
      obtain ⟨gs, rfl, hgs⟩ := ih (ofTree_or_tick hgone he).2 hes hfs hd hd'
      exact ⟨gs, rfl, hgs⟩

/-- Behind a channel that has room for all batches of the plan, or whose reader is gone before the
start, a run comes to the same as into a collector. Whatever pauses the reader takes, the run can go
on in the order of any direct run to its end. At its end there is a direct run whose moves and
cancellation come in the same order, and any such run has the same outcome, the same probes and, if
the reader stays, the same batches. -/
theorem spawn_agrees (hn : Node.Ready p n)
    (hsub : p.batchCount ≤ sub.buffer ∧ sub.wants = none ∨ sub.wants = some 0) :
    (∀ es r, (direct n { cancelAt }).follow es = some r → r.finished = true →
      ∀ fs k, Paced (spawned n { cancelAt } sub) fs k → deeds fs <+: deeds es →
        ∃ gs s, k.follow gs = some s ∧ s.finished = true ∧ deeds es <+: deeds (fs ++ gs)) ∧
    ∀ fs s, Paced (spawned n { cancelAt } sub) fs s → s.finished = true →
      (∃ es r, (direct n { cancelAt }).follow es = some r ∧ r.finished = true ∧
        deeds es <+: deeds fs) ∧
      ∀ es r, (direct n { cancelAt }).follow es = some r → r.finished = true →
        deeds es <+: deeds fs → s.execution? = r.execution? ∧ s.tree = r.tree ∧
          (sub.wants = none → s.reader.seen = r.outlet.held) := by
  have hstart : Tracks sub.wants (direct n { cancelAt }) (spawned n { cancelAt } sub) :=
    .start hn hsub
  have hgone : (direct n { cancelAt }).reader.gone = true := rfl
  constructor
  · intro es r hes hover fs k hfs hdeeds
    obtain ⟨es₀, r₀, hes₀, hk, hdeeds₀, hsame⟩ := hstart.back hfs
    obtain ⟨rest, rfl, hrest⟩ :=
      exists_rest hgone hes hover hes₀ List.prefix_rfl (hdeeds₀.trans hdeeds)
    obtain ⟨gs, k', hgs, hdeeds', -⟩ := hk.forth hrest
    have hserved : k'.Served :=
      (Paced.of_follow hgs).served (hfs.served (served_spawned hn _ sub))
    obtain ⟨gs', s, hgs', hs⟩ := hserved.exists_finished
    refine ⟨gs ++ gs', s, by rw [follow_append, hgs]; exact hgs', hs, ?_⟩
    rw [← List.append_assoc, deeds_append, deeds_append, deeds_append, hdeeds']
    cases hopen : r₀.finished with
    | true =>
      obtain ⟨-, rfl⟩ := eq_of_over (over_of_finished hopen) hrest
      exact (List.append_nil (deeds es₀)).symm ▸ hdeeds₀.trans (by simp)
    | false =>
      rw [hsame hopen]
      exact List.prefix_append _ _
  · intro fs s hfs hs
    obtain ⟨es₀, r₀, hes₀, htracks, hdeeds₀, -⟩ := hstart.back hfs
    obtain ⟨hover₀, hresult⟩ := htracks.result hs
    refine ⟨⟨es₀, r₀, hes₀, hover₀, hdeeds₀⟩, fun es r hes hover hdeeds => ?_⟩
    obtain ⟨rest, -, hrest⟩ := exists_rest hgone hes hover hes₀ hdeeds hdeeds₀
    obtain ⟨rfl, -⟩ := eq_of_over (over_of_finished hover₀) hrest
    exact hresult

end Run

/-! A script that goes on just before its run is cancelled, and so has one more batch sent. -/

namespace Relayed

def talk : Script := {
  name := "talk"
  steps := [.emit [.ofRepo "a"], .sleep (.ofMillis 5), .emit [.ofRepo "b"], .emit [.ofRepo "c"]] }

def plan : Plan := .leaf talk

def listener : Subscription := { buffer := 3, pause := .ofMillis 3 }

def dropped : Subscription := { buffer := 0, wants := some 0 }

def act : Event := .move [] .act

def order : List Event := [act, act, act, .tick, act, act, .cancel, act]

def events : List Event :=
  [act, act, act, .tick, .read, .tick, act, act, .cancel, act, .tick, .read, .tick, .read]

def batches : List Batch := [[.ofRepo "a"], [.ofRepo "b"]]

theorem talk_heard : ∃ r s,
    (Run.direct (.ofPlan plan) { cancelAt := some 5 }).follow order = some r ∧
    (Run.spawned (.ofPlan plan) { cancelAt := some 5 } listener).follow events = some s ∧
    s.execution? = r.execution? ∧ s.tree = r.tree ∧ s.reader.seen = batches ∧
    ∃ es k, (Run.spawned (.ofPlan plan) { cancelAt := some 5 } dropped).follow es = some k ∧
      k.finished = true ∧ Run.deeds order <+: Run.deeds es := by
  have hdirect : ((Run.direct (.ofPlan plan) { cancelAt := some 5 }).follow order).map
      (fun r => (r.finished, r.outlet.held)) = some (true, batches) := by decide +kernel
  obtain ⟨r, hr, hresult⟩ := Option.map_eq_some_iff.1 hdirect
  obtain ⟨hfinished, hheld⟩ := Prod.mk.inj hresult
  have hspawned : ((Run.spawned (.ofPlan plan) { cancelAt := some 5 } listener).follow events).map
      Run.finished = some true := by decide +kernel
  obtain ⟨s, hs, hfinished'⟩ := Option.map_eq_some_iff.1 hspawned
  obtain ⟨-, hagrees⟩ := @Run.spawn_agrees plan (.ofPlan plan) (some 5) listener .first
    (.inl ⟨by decide, rfl⟩)
  obtain ⟨hgoes, -⟩ := @Run.spawn_agrees plan (.ofPlan plan) (some 5) dropped .first (.inr rfl)
  obtain ⟨-, hall⟩ := hagrees events s (.of_follow hs) hfinished'
  obtain ⟨hexecution, htree, hseen⟩ := hall order r hr hfinished (by decide)
  exact ⟨r, s, hr, hs, hexecution, htree, (hseen rfl).trans hheld,
    hgoes order r hr hfinished [] _ .refl List.nil_prefix⟩

end Relayed

end SearchPlan
