import SearchPlan.Proofs.Node.Outcome
import SearchPlan.Proofs.Node.Token
import SearchPlan.Proofs.Run.Happens

/-! Cancellation travels downward only. A node gives up because its token has fired, tokens are
fired by the nodes above those they were given to, and the token of the caller by the caller
alone. -/

namespace SearchPlan

namespace Run

variable {r r' : Run} {e : Event} {es : List Event}

theorem Happens.of_fired (h : Happens r e r') (hr : r.fired = false) (hr' : r'.fired = true) :
    e = .cancel ∨ ∃ quota, r'.quota = some quota ∧ quota.reached = true := by
  cases h with
  | cancel => exact .inl rfl
  | @move m p n f hm =>
    right
    cases hq : r.quota with
    | none => simp [pass, hq, hr] at hr'
    | some quota =>
      simp only [pass, hq, hr, Bool.false_or] at hr' ⊢
      exact ⟨_, rfl, Quota.reached_of_stops hr'⟩
  | _ =>
    rw [hr] at hr'
    cases hr'

/-- The tree of a run never sees the token of the caller go back. -/
theorem steady_moments (h : r.follow es = some r') : Node.Steady (r.moments es) := by
  induction es generalizing r with
  | nil => exact .nil
  | cons e es ih =>
    obtain ⟨k, hk, hfollow⟩ := follow_cons_eq_some.1 h
    have he := (happens_of_step hk).2
    simp only [moments, hk]
    cases e with
    | move p m =>
      refine List.pairwise_cons.2 ⟨fun u hu hfired => ?_, ih hfollow⟩
      rw [context_fired] at hfired
      exact fired_moments hfollow (he.fired hfired) u hu
    | _ => exact ih hfollow

end Run

namespace Node

variable {p : Plan} {n n' k k' : Node} {t : Moment} {ts : List Moment} {f : Flow} {q : Path}
  {o : Outcome}

/-- A node that gives up does so after its token has fired. -/
theorem fired_of_gaveUp (h : (ofPlan p).follow ts = some n) (ht : n.meet t = some (n', f))
    (hts : Steady (ts ++ [t])) (hk : n.at? q = some k) (hopen : k.outcome? = none)
    (hk' : n'.at? q = some k') (hg : k'.GaveUp) : (n.sees q t.context).fired = true := by
  obtain ⟨hts, -, hlast⟩ := List.pairwise_append.1 hts
  have hn : n.Heeds t.context.fired :=
    heeds_of_follow h hts fun u hu => hlast u hu t (List.mem_singleton_self t)
  obtain ⟨p', -, hp'⟩ := Reached.at? ⟨ts ++ [t], follow_concat h ht⟩ hk'
  obtain ⟨k₀, hk₀, hmoves⟩ := (meet_eq_some.1 ht).at? hk'
  obtain rfl : k₀ = k := Option.some.inj (hk₀.symm.trans hk)
  rcases hmoves with rfl | ⟨r, f', -, hm⟩
  · exact absurd hg (not_gaveUp hopen)
  · have hkeeds := hn.at? hk
    rw [← sees_fired hk] at hkeeds
    exact (heeds_iff.1 (hm.heeds hp' hkeeds)).1 hg

/-- What a plan reports of a cancelled search, it reports last and once, and it is partial. -/
theorem Reached.cancelled_alert (h : Reached p n) (ho : n.outcome? = some o) {a : Alert}
    (ha : a ∈ (o.execution n.name).alerts) (hkind : a.kind = .cancelled) :
    n.GaveUp ∧ (o.execution n.name).status = .partialSuccess ∧
      ∃ as, (o.execution n.name).alerts = as ++ [.cancelled p.name] ∧
        ∀ a ∈ as, a.kind ≠ .cancelled := by
  have hraised : ∀ a ∈ o.alerts, a.kind ≠ .cancelled := by
    rw [← raised_eq ho]
    exact fun a => h.kind_ne_cancelled
  cases o with
  | done e => exact absurd hkind (hraised a ha)
  | cancelled as => exact ⟨⟨as, ho⟩, rfl, as, by rw [h.name]; rfl, hraised⟩

/-- Cancellation travels downward only, move by move, in whatever world the token of the tree does
not go back once it has fired. -/
theorem cancellation_descends (h : (ofPlan p).follow ts = some n) (ht : n.meet t = some (n', f))
    (hts : Steady (ts ++ [t])) :
    -- a node that gives up by this move had its token fired
    (∀ q k k', n.at? q = some k → k.outcome? = none → n'.at? q = some k' → k'.GaveUp →
      (n.sees q t.context).fired = true) ∧
    -- the token of a node that fires by this move is fired by a node above that node
    (∀ q k, n.at? q = some k → (n.sees q t.context).fired = false →
      (n'.sees q t.context).fired = true → ∃ q₁ i q₂ k₁ k₁', q = q₁ ++ i :: q₂ ∧
        n.at? q₁ = some k₁ ∧ n'.at? q₁ = some k₁' ∧ Dismisses i k₁ k₁') ∧
    -- the token of the caller of a run fires only by the caller, or by a quota it has set itself
    (∀ (r r' : Run) (e : Event), r.tree = n → r.step e = some r' → r.fired = false →
      r'.fired = true → e = .cancel ∨ ∃ quota, r'.quota = some quota ∧ quota.reached = true) ∧
    -- the caller hears of a cancelled search only if its token has fired
    (∀ o, n'.outcome? = some o → ∀ a ∈ (o.execution n'.name).alerts, a.kind = .cancelled →
      t.context.fired = true ∧ (o.execution n'.name).status = .partialSuccess ∧
        ∃ as, (o.execution n'.name).alerts = as ++ [.cancelled p.name] ∧
          ∀ a ∈ as, a.kind ≠ .cancelled) := by
  have hr' : Reached p n' := ⟨ts ++ [t], follow_concat h ht⟩
  have hm := meet_eq_some.1 ht
  refine ⟨fun q k k' => fired_of_gaveUp h ht hts, ?_, ?_, ?_⟩
  · intro q k hk hfired hfired'
    obtain ⟨k', hk'⟩ := hm.exists_at? hk
    rw [sees_fired hk, Bool.or_eq_false_iff] at hfired
    rw [sees_fired hk', hfired.1, Bool.false_or] at hfired'
    exact hm.dismisses_above hr' hk hfired.2 hfired'
  · intro r r' e _ he
    exact (Run.happens_of_step he).2.of_fired
  · intro o ho a ha hkind
    obtain ⟨hg, hresult⟩ := hr'.cancelled_alert ho ha hkind
    exact ⟨fired_of_gaveUp h ht hts (q := []) rfl hm.outcome?_eq_none rfl hg, hresult⟩

end Node

theorem Run.heeds {p : Plan} {r r' : Run} {es : List Event} (ht : r.tree = .ofPlan p)
    (h : r.follow es = some r') : r'.tree.Heeds r'.fired := by
  have hfollow := follow_moments h
  rw [ht] at hfollow
  refine Node.heeds_of_follow hfollow (steady_moments h) fun t htm hfired => ?_
  by_contra hlive
  rw [not_fired_moments h (Bool.eq_false_iff.2 hlive) t htm] at hfired
  cases hfired

/-- The caller of a run hears of a cancelled search only if its token has fired, and then last and
once, and the result is partial. -/
theorem Run.fired_of_cancelled_alert {p : Plan} {r r' : Run} {es : List Event} {x : Execution}
    {a : Alert} (ht : r.tree = .ofPlan p) (h : r.follow es = some r') (hx : r'.execution? = some x)
    (ha : a ∈ x.alerts) (hkind : a.kind = .cancelled) :
    r'.fired = true ∧ x.status = .partialSuccess ∧
      ∃ as, x.alerts = as ++ [.cancelled p.name] ∧ ∀ a ∈ as, a.kind ≠ .cancelled := by
  obtain ⟨o, ho, rfl⟩ := Option.map_eq_some_iff.1 hx
  obtain ⟨hg, hresult⟩ := (reached ht h).cancelled_alert ho ha hkind
  exact ⟨(Node.heeds_iff.1 (heeds ht h)).1 hg, hresult⟩

/-! A choice that has stopped one branch itself, beside a cap whose branch is stopped by the
caller. -/

namespace Called

def quick : Script := { name := "quick" }

def slow : Script := { name := "slow", steps := [.sleep (.ofMillis 100)] }

def plan : Plan :=
  .group .parallel (.group .or (.leaf slow) [.leaf quick]) [.limit 2 (by decide) (.leaf slow)]

def moments : List Moment :=
  [⟨.calm, [0, 0], .act⟩, ⟨.calm, [0, 0], .act⟩, ⟨.calm, [1, 0], .act⟩, ⟨.calm, [1, 0], .act⟩,
    ⟨.calm, [0, 1], .act⟩, ⟨.calm, [0, 1], .act⟩, ⟨.calm, [0, 0], .halt⟩]

def last : Moment := ⟨{ Context.calm with fired := true }, [1, 0], .halt⟩

def choice : Node := .group .or
  [.leaf slow (.returned (.finished .partialSuccess) true) { runs := 1, stopped := true },
    .leaf quick (.returned (.finished .success) false) { runs := 1 }]
  { decision := some .success }

def before : Node := .group .parallel
  [choice, .limit { limit := 2 } (.leaf slow (.sleeping 100 []) { runs := 1 }) false false]
  { statuses := [.success] }

def after : Node := .group .parallel
  [choice, .limit { limit := 2 }
    (.leaf slow (.returned (.finished .partialSuccess) true) { runs := 1, stopped := true })
    false true]
  { statuses := [.success], interrupted := true }

theorem cancelled_last : (Node.ofPlan plan).follow moments = some before ∧
    before.meet last = some (after, .quiet) ∧ after.outcome? = some (.cancelled []) ∧
    last.context.fired = true ∧ ∃ as, [Alert.cancelled "PARALLEL"] = as ++ [.cancelled "PARALLEL"] ∧
      ∀ a ∈ as, a.kind ≠ .cancelled := by
  have hfollow : (Node.ofPlan plan).follow moments = some before := rfl
  have hlast : before.meet last = some (after, .quiet) := rfl
  have hsteady : Node.Steady (moments ++ [last]) := by
    unfold Node.Steady
    decide
  obtain ⟨-, -, -, hcancelled⟩ := Node.cancellation_descends hfollow hlast hsteady
  obtain ⟨hfired, -, hlast'⟩ := hcancelled _ rfl _ (List.mem_singleton_self _) rfl
  exact ⟨hfollow, hlast, rfl, hfired, hlast'⟩

end Called

end SearchPlan
