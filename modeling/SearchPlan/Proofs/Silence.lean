import SearchPlan.Proofs.Capacity
import SearchPlan.Proofs.Node.Script
import SearchPlan.Proofs.Node.Suspended
import SearchPlan.Proofs.Node.Waiting

/-! What a script still does after its token has fired: it begins nothing, and a batch on which it
was waiting is the last that can come through from it. -/

namespace SearchPlan

variable {c : Context} {m : Move} {f : Flow} {s : Script}

namespace Phase

/-- What is left of a script that is told to stop. It is not started any more, and the matches that
its probe counts from now on it had handed over before. -/
structure Quits (ph : Phase) (pr : Probe) (ph' : Phase) (pr' : Probe) : Prop where
  runs : pr'.runs = pr.runs
  counts : pr'.emitted + ph'.owed = pr.emitted + ph.owed
  unstarted : ph.started = false → ph'.started = false ∧ pr' = pr

variable {ph ph' ph₁ : Phase} {pr pr' pr₁ : Probe}

theorem Quits.refl (ph : Phase) (pr : Probe) : Quits ph pr ph pr := ⟨rfl, rfl, fun h => ⟨h, rfl⟩⟩

theorem Quits.trans (h : Quits ph pr ph₁ pr₁) (h' : Quits ph₁ pr₁ ph' pr') :
    Quits ph pr ph' pr' where
  runs := h'.runs.trans h.runs
  counts := h'.counts.trans h.counts
  unstarted hs := by
    obtain ⟨hs₁, rfl⟩ := h.unstarted hs
    exact h'.unstarted hs₁

theorem Moves.quits (h : Moves c s m ph pr ph' pr' f) (hc : c.fired = true) :
    Quits ph pr ph' pr' ∧ ph.enters ph' = [] ∧ (f = .quiet ∨ f = .resumed) := by
  cases h with
  | skip => exact ⟨⟨rfl, rfl, fun _ => ⟨rfl, rfl⟩⟩, rfl, .inl rfl⟩
  | finish => exact ⟨⟨rfl, rfl, nofun⟩, rfl, .inl rfl⟩
  | stop => exact ⟨⟨rfl, rfl, nofun⟩, rfl, .inl rfl⟩
  | wake => exact ⟨⟨rfl, rfl, nofun⟩, rfl, .inl rfl⟩
  | resume => exact ⟨⟨rfl, rfl, nofun⟩, rfl, .inr rfl⟩
  | halt => exact ⟨⟨rfl, rfl, nofun⟩, rfl, .inl rfl⟩
  | _ => simp_all

end Phase

theorem Transit.accept_resumed_resumed (p : Path) (x : Transit) :
    (x.accept p .resumed).accept p .resumed = x.accept p .resumed := by
  simp [accept]

namespace Node

/-- The node has no more use for its branch at position `i`: a branch has decided for the group,
the required branch has ended first, the deadline has expired, or the cap is reached and a send
that filled it is over. -/
inductive Settles (i : Nat) : Node → Prop
  | decided : mode.decisive = some st → b ∈ ns → b.Reports st → Settles i (.group mode ns g)
  | preferred : i = 1 → r.outcome?.isSome → o.outcome? = none → Settles i (.priority r o dropped)
  | expired : Settles i (.timeout d n true fired)
  | filled : quota.reached = true → (stopped = true ∨ ∀ q, ¬n.Waits q) →
      Settles i (.limit quota n stopped fired)

variable {n n' k b : Node} {t : Moment} {ts us : List Moment} {p q : Path} {pl : Plan} {i : Nat}
  {r o : Node} {x : Transit} {mode : Mode} {ns : List Node} {g : Gathered}

/-- What has come through to the sink of the tree from the script at the path, and what of it still
waits there. -/
def traffic (q : Path) : List Moment → Transit → Node → Transit
  | [], x, _ => x
  | t :: ts, x, n =>
    match n.meet t with
    | none => x
    | some (n', f) => traffic q ts (if t.path = q then x.accept q f else x) n'

theorem traffic_cons (ht : n.meet t = some (k, f)) (q : Path) (ts : List Moment) (x : Transit) :
    n.traffic q (t :: ts) x = k.traffic q ts (if t.path = q then x.accept q f else x) := by
  simp only [traffic, ht]

theorem traffic_append (h : n.follow ts = some k) (q : Path) (us : List Moment) (x : Transit) :
    n.traffic q (ts ++ us) x = k.traffic q us (n.traffic q ts x) := by
  induction ts generalizing n x with
  | nil =>
    cases h
    rfl
  | cons t ts ih =>
    obtain ⟨n₁, f, ht, h⟩ := follow_cons_eq_some.1 h
    rw [List.cons_append, traffic_cons ht, traffic_cons ht, ih h]

/-- At most one batch of a script waits at a time. -/
def Queues (q : Path) (x : Transit) (n : Node) : Prop :=
  x.waiting = [] ∨ n.Waits q ∧ ∃ b, x.waiting = [(q, b)]

theorem Moves.queues (h : Moves m p c n n' f) (hx : Queues q x n) :
    Queues q (if p = q then x.accept q f else x) n' := by
  by_cases hpq : p = q
  · subst hpq
    rw [if_pos rfl]
    rcases hx with hx | ⟨hw, b, hx⟩
    · cases f with
      | quiet => exact .inl hx
      | resumed => exact .inl (by simp [Transit.accept, hx])
      | handed b waits =>
        cases waits with
        | false => exact .inl hx
        | true => exact .inr ⟨h.waits_of_handed, b, by simp [Transit.accept, hx]⟩
    · rw [h.resumed hw]
      exact .inl (by simp [Transit.accept, hx])
  · rw [if_neg hpq]
    rcases hx with hx | ⟨hw, hb⟩
    · exact .inl hx
    · exact .inr ⟨(h.waits_or_resumed hw).resolve_right fun hp => hpq hp.1, hb⟩

theorem queues_of_follow (h : n.follow ts = some n') (hx : Queues q x n) :
    Queues q (n.traffic q ts x) n' := by
  induction ts generalizing n x with
  | nil =>
    cases h
    exact hx
  | cons t ts ih =>
    obtain ⟨k, f, ht, hk⟩ := follow_cons_eq_some.1 h
    rw [traffic_cons ht]
    exact ih hk ((meet_eq_some.1 ht).queues hx)

/-- Nothing but the end of a wait comes from a script whose token has fired. -/
theorem Moves.flow_of_fired (h : Moves m p c n n' f) (hp : n.at? p = some (.leaf s ph pr))
    (hc : (n.sees p c).fired = true) : f = .quiet ∨ f = .resumed := by
  induction p generalizing c n n' f with
  | nil =>
    cases hp
    cases h with
    | leaf h => exact (h.quits hc).2.2
  | cons i p ih =>
    obtain ⟨b, b', f', hb, hm, -, hf, -⟩ := h.branch
    obtain ⟨b₀, hb₀, hp⟩ := at?_cons_eq_some.1 hp
    obtain rfl : b₀ = b := Option.some.inj (hb₀.symm.trans hb)
    rw [sees_cons hb] at hc
    rw [hf]
    rcases ih hm hp hc with rfl | rfl
    · exact .inl (passes_quiet n)
    · exact .inr (passes_resumed n)

/-- The first moment of a history is a step of the script at the path, or passes it by. -/
theorem takes_meet (ht : n.meet t = some (k, f)) (hn : n.at? q = some (.leaf s ph pr))
    (hk : k.at? q = some (.leaf s' ph' pr')) (ts : List Moment) :
    n.takes q (t :: ts) = (if t.path = q then ph.enters ph' else []) ++ k.takes q ts := by
  induction q generalizing n k t f ts with
  | nil =>
    cases hn
    cases hk
    obtain ⟨c, p, m⟩ := t
    have hm := meet_eq_some.1 ht
    cases hm with
    | leaf hm =>
      simp only [takes, entered, ht, enters, if_true]
  | cons i q ih =>
    obtain ⟨b, hb, hn⟩ := at?_cons_eq_some.1 hn
    obtain ⟨b', hb', hk⟩ := at?_cons_eq_some.1 hk
    rw [takes_cons hb, takes_cons hb']
    rcases share_cons ht hb ts with ⟨p, a, f', hp, ha, hma, hshare, -⟩ | ⟨hp, ha, hshare⟩
    · obtain rfl : a = b' := Option.some.inj (ha.symm.trans hb')
      rw [hshare, ih hma hn hk, hp]
      simp only [List.cons.injEq, true_and]
    · obtain rfl : b = b' := Option.some.inj (ha.symm.trans hb')
      rw [hshare, if_neg (hp q), List.nil_append]

/-- A token that has fired stays so, whatever the tree does. -/
theorem Moves.sees_fired (h : Moves m p c n n' f) (hk : n.at? q = some k) {c₁ c₂ : Context}
    (hc : (n.sees q c₁).fired = true) (hle : c₁.fired = true → c₂.fired = true) :
    (n'.sees q c₂).fired = true := by
  obtain ⟨k', hk'⟩ := h.exists_at? hk
  rw [Node.sees_fired hk, Bool.or_eq_true] at hc
  rw [Node.sees_fired hk', Bool.or_eq_true]
  exact hc.imp hle h.told_mono

/-- Once its token has fired, a script begins nothing, and only the batch on which it waited can
come through from it. -/
theorem quits_of_follow (h : n.follow us = some n') (hs : n.at? q = some (.leaf s ph pr))
    (hc : (n.sees q c).fired = true) (hus : c.fired = true → ∀ u ∈ us, u.context.fired = true)
    (x : Transit) : ∃ ph' pr', n'.at? q = some (.leaf s ph' pr') ∧ ph.Quits pr ph' pr' ∧
      n.takes q us = [] ∧ (n.traffic q us x = x ∨ n.traffic q us x = x.accept q .resumed) := by
  induction us generalizing n ph pr x with
  | nil =>
    cases h
    exact ⟨ph, pr, hs, .refl ph pr, takes_nil q _, .inl rfl⟩
  | cons u us ih =>
    obtain ⟨k, f, hu, hk⟩ := follow_cons_eq_some.1 h
    have hm := meet_eq_some.1 hu
    have hrest (hf : c.fired = true) : ∀ u ∈ us, u.context.fired = true :=
      (List.forall_mem_cons.1 (hus hf)).2
    have hnow : (n.sees q u.context).fired = true := by
      rw [Node.sees_fired hs, Bool.or_eq_true] at hc ⊢
      exact hc.imp_left fun hf => (List.forall_mem_cons.1 (hus hf)).1
    obtain ⟨ph₁, pr₁, hs₁, hscript⟩ := hm.script hs
    obtain ⟨ph', pr', hs', hquits, htakes, htraffic⟩ :=
      ih hk hs₁ (hm.sees_fired hs hc id) hrest (if u.path = q then x.accept q f else x)
    rw [takes_meet hu hs hs₁, traffic_cons hu, htakes]
    rcases hscript with ⟨hpq, rfl, rfl⟩ | ⟨hpq, f', hph⟩
    · rw [if_neg hpq] at htraffic ⊢
      rw [if_neg hpq]
      exact ⟨ph', pr', hs', hquits, rfl, htraffic⟩
    · obtain ⟨hquits₁, henters, -⟩ := hph.quits hnow
      refine ⟨ph', pr', hs', hquits₁.trans hquits, by rw [if_pos hpq, henters]; rfl, ?_⟩
      rw [if_pos hpq] at htraffic ⊢
      rw [hpq] at hm
      rcases hm.flow_of_fired hs hnow with rfl | rfl
      · exact htraffic
      · rw [Transit.accept_resumed_resumed, or_self] at htraffic
        exact .inr htraffic

theorem Ready.heard (hn : Ready pl n) (h : n.follow ts = some (.group mode ns g)) :
    g.Heard mode ns := by
  refine follow_induction (motive := fun _ k => ∀ mode ns g, k = .group mode ns g → g.Heard mode ns)
    ?_ (fun _ _ _ _ _ _ ih hm _ _ _ he => hm.heard ih he) h mode ns g rfl
  rintro mode ns g rfl
  have hrearm := hn.rearm_eq
  simp only [rearm, group.injEq, true_and] at hrearm
  rw [← hrearm.2]
  refine .start fun b hb => ?_
  obtain ⟨i, hi⟩ := List.mem_iff_getElem?.1 hb
  obtain ⟨p', -, hready⟩ := hn.plan_at? (q := [i]) (at?_cons_eq_some.2 ⟨b, hi, rfl⟩)
  exact hready.outcome?_eq_none

theorem Ready.dropped {dropped : Bool} (hn : Ready pl n)
    (h : n.follow ts = some (.priority r o dropped)) (hr : r.outcome?.isSome)
    (ho : o.outcome? = none) : dropped = true := by
  refine follow_induction (motive := fun _ k => ∀ r o dropped, k = .priority r o dropped →
    r.outcome?.isSome → o.outcome? = none → dropped = true) ?_
    (fun _ _ _ _ _ _ ih hm _ _ _ he hr ho => hm.dropped ih he hr ho) h _ _ _ rfl hr ho
  rintro r o dropped rfl hr
  obtain ⟨p', -, hready⟩ := hn.plan_at? (q := [0]) rfl
  rw [hready.outcome?_eq_none] at hr
  cases hr

/-- A node that has no more use for a branch has told it to stop. -/
theorem Ready.stops_of_settles (hn : Ready pl n) (h : n.follow ts = some n') (hs : n'.Settles i) :
    n'.stops i = true := by
  cases hs with
  | decided hdecisive hb hreports =>
    by_contra hg
    exact (hn.heard h).knows.undecided (by simpa [stops] using hg) _ ⟨_, hb, hreports⟩ hdecisive
  | preferred hi hr ho =>
    subst hi
    simp [stops, hn.dropped h hr ho]
  | expired => rfl
  | filled hreached hfree =>
    obtain ⟨-, hprompt⟩ := hn.prompt h
    rcases hfree with hs | hfree
    · exact hs
    · exact (hprompt hreached).resolve_right fun hwaits => hwaits.elim hfree

/-- So the token of everything below that branch has fired, in whatever world. -/
theorem Ready.sees_fired_of_settles (hn : Ready pl n) (h : n.follow ts = some n')
    (hk : n'.at? q = some k) (hs : k.Settles i) (hr : n'.at? (q ++ i :: p) = some b) (c : Context) :
    (n'.sees (q ++ i :: p) c).fired = true := by
  obtain ⟨k₀, us, hk₀, hus, -⟩ := exists_follow_at? h hk
  obtain ⟨p', -, hready⟩ := hn.plan_at? hk₀
  have hstops := hready.stops_of_settles hus hs
  obtain ⟨k₁, hk₁, hr⟩ := at?_append_eq_some.1 hr
  obtain rfl : k₁ = k := Option.some.inj (hk₁.symm.trans hk)
  obtain ⟨a, ha, hr⟩ := at?_cons_eq_some.1 hr
  rw [sees_append hk, sees_cons ha, Node.sees_fired hr, under_fired, hstops]
  simp

/-- A token that has fired silences everything below it, whatever the tree and the world do next. -/
theorem Ready.silenced (hn : Ready pl n) (hts : n.follow ts = some k) :
    -- a node that has no more use for a branch fires the token of everything below it
    (∀ q i b p x c, k.at? q = some b → b.Settles i → k.at? (q ++ i :: p) = some x →
      (k.sees (q ++ i :: p) c).fired = true) ∧
    -- once the token given to a node has fired, no script below it is started or goes into a step
    ∀ q c us n', (k.sees q c).fired = true →
      (c.fired = true → ∀ u ∈ us, u.context.fired = true) → k.follow us = some n' →
      ∀ p s, pl.at? (q ++ p) = some (.leaf s) → ∃ ph pr ph' pr' late,
        k.at? (q ++ p) = some (.leaf s ph pr) ∧ n'.at? (q ++ p) = some (.leaf s ph' pr') ∧
        ph.Quits pr ph' pr' ∧ k.takes (q ++ p) us = [] ∧
        -- nothing but a batch on which it waited then can come through from it
        (n.traffic (q ++ p) (ts ++ us) {}).taken = (n.traffic (q ++ p) ts {}).taken ++ late ∧
        (late = [] ∨ (n.traffic (q ++ p) ts {}).waiting = [(q ++ p, late)]) := by
  refine ⟨fun q i b p x c hb hs hx => hn.sees_fired_of_settles hts hb hs hx c, ?_⟩
  intro q c us n' hc hus hfollow p s hp
  obtain ⟨k₀, hk₀, hready⟩ := hn.at? hp
  obtain ⟨pr₀, rfl⟩ := hready.leaf
  obtain ⟨ph, pr, hs, -⟩ := script_induction (motive := fun _ _ => True) hts hk₀ trivial
    fun _ _ => trivial
  obtain ⟨b, hb, hs'⟩ := at?_append_eq_some.1 hs
  have hfired : (k.sees (q ++ p) c).fired = true := by
    rw [sees_append hb, Node.sees_fired hs', hc, Bool.true_or]
  obtain ⟨ph', pr', hs', hquits, htakes, htraffic⟩ :=
    quits_of_follow hfollow hs hfired hus (n.traffic (q ++ p) ts {})
  have hqueues : Queues (q ++ p) (n.traffic (q ++ p) ts {}) k := queues_of_follow hts (.inl rfl)
  obtain ⟨late, htaken, hlate⟩ : ∃ late, (n.traffic (q ++ p) (ts ++ us) {}).taken =
      (n.traffic (q ++ p) ts {}).taken ++ late ∧
      (late = [] ∨ (n.traffic (q ++ p) ts {}).waiting = [(q ++ p, late)]) := by
    rw [traffic_append hts]
    rcases htraffic with htraffic | htraffic
    · exact ⟨[], by rw [htraffic, List.append_nil], .inl rfl⟩
    · rw [htraffic]
      rcases hqueues with hnone | ⟨-, late, hone⟩
      · exact ⟨[], by simp [Transit.accept, hnone], .inl rfl⟩
      · exact ⟨late, by simp [Transit.accept, hone], .inr hone⟩
  exact ⟨ph, pr, ph', pr', late, hs, hs', hquits, htakes, htaken, hlate⟩

end Node

/-! A branch that waits for room when the other one fails. -/

namespace Muted

def loud : Script :=
  { name := "loud", steps := [.emit [.ofRepo "a"], .emit [.ofRepo "b"]] }

def broken : Script := { name := "broken", status := .failure }

def plan : Plan := .group .and (.leaf loud) [.leaf broken]

def busy : Context := { Context.calm with waits := fun _ => true }

def roomy : Context := { Context.calm with granted := fun _ => true }

def moments : List Moment :=
  [⟨.calm, [0], .act⟩, ⟨busy, [0], .act⟩, ⟨.calm, [1], .act⟩, ⟨.calm, [1], .act⟩]

def afterwards : List Moment := [⟨roomy, [0], .act⟩, ⟨roomy, [0], .act⟩]

def gathered : Gathered :=
  { alerts := [.branchFailed "broken" "broken reported failure"], decision := some .failure }

def failed : Node := .leaf broken (.returned (.finished .failure) false) { runs := 1 }

def before : Node := .group .and
  [.leaf loud (.sending 1 [.emit [.ofRepo "b"]]) { runs := 1 }, failed] gathered

def after : Node := .group .and
  [.leaf loud (.returned (.finished .partialSuccess) true)
    { runs := 1, emitted := 1, stopped := true }, failed] gathered

theorem one_late : (Node.ofPlan plan).follow moments = some before ∧
    (before.sees [0] .calm).fired = true ∧ before.follow afterwards = some after ∧
    before.takes [0] afterwards = [] ∧
    ((Node.ofPlan plan).traffic [0] (moments ++ afterwards) {}).taken = [.ofRepo "a"] := by
  have hfollow : (Node.ofPlan plan).follow moments = some before := rfl
  have hafter : before.follow afterwards = some after := rfl
  have hwaiting : ((Node.ofPlan plan).traffic [0] moments {}).waiting = [([0], [.ofRepo "a"])] := by
    decide
  have hlast : ((Node.ofPlan plan).traffic [0] (moments ++ afterwards) {}).taken ≠ [] := by decide
  obtain ⟨hsettled, hsilent⟩ := Node.Ready.silenced .first hfollow
  have hfired : (before.sees [0] .calm).fired = true := by
    apply hsettled [] 0 before [] _ .calm rfl _ rfl
    exact .decided (b := failed) rfl (by simp) ⟨_, rfl⟩
  obtain ⟨ph, pr, ph', pr', late, -, -, -, htakes, htaken, hlate⟩ :=
    hsilent [0] .calm afterwards after hfired nofun hafter [] loud rfl
  refine ⟨hfollow, hfired, hafter, htakes, ?_⟩
  have hnone : ((Node.ofPlan plan).traffic [0] moments {}).taken = [] := by decide
  rw [List.append_nil] at htaken hlate
  rw [htaken, hnone, List.nil_append] at hlast ⊢
  have hlate := hlate.resolve_left hlast
  rw [hwaiting] at hlate
  cases hlate
  rfl

end Muted

end SearchPlan
