import SearchPlan.Proofs.Node.Gathering

/-! The tokens in a running tree. A node gives each branch a token that fires with its own, or when
it tells that branch to stop; it gives up only if its own token has fired. -/

namespace SearchPlan

variable {c : Context} {m : Move} {p q : Path} {f : Flow} {i : Nat} {pl : Plan}

theorem Ending.outcome_live_ne_cancelled (e : Ending) (name : String) (as : List Alert) :
    e.outcome name false ≠ .cancelled as := by
  cases e with
  | finished status => cases status <;> nofun
  | failed e => nofun

theorem Phase.Moves.fired_of_cancelled {s : Script} {ph ph' : Phase} {pr pr' : Probe}
    {name : String} {as : List Alert} (h : Phase.Moves c s m ph pr ph' pr' f)
    (ho : ph'.outcome? name = some (.cancelled as)) : c.fired = true := by
  cases h with
  | skip hc => exact hc
  | stop hc => exact hc
  | halt hc => exact hc
  | finish =>
    by_contra hc
    rw [Bool.eq_false_iff.2 hc] at ho
    exact Ending.outcome_live_ne_cancelled _ _ _ (Option.some.inj ho)
  | _ => cases ho

theorem Quota.reached_of_stops {quota : Quota} (h : (quota.pass f).2.2 = true) :
    (quota.pass f).1.reached = true := by
  cases f with
  | quiet => cases h
  | resumed => exact h
  | handed b waits =>
    simp only [pass] at h ⊢
    split at h
    · exact h
    · exact (Bool.and_eq_true_iff.1 h).1

theorem Quota.reached_pass {quota : Quota} (h : quota.reached = true) (f : Flow) :
    (quota.pass f).1.reached = true := by
  simp only [reached, limit_pass, received_pass, decide_eq_true_eq] at h ⊢
  omega

namespace Node

/-- A node has told a branch to stop: a group by a branch that decides for it, a preference because
the required branch has ended first, a deadline by expiring, and a quota by being reached. -/
inductive Dismisses (i : Nat) : Node → Node → Prop
  | decided : g.decision = none → g'.decision = some st → mode.decisive = some st → b ∈ ns' →
      b.Reports st → Dismisses i (.group mode ns g) (.group mode ns' g')
  | preferred : i = 1 → r.outcome? = none → r'.outcome?.isSome → o.outcome? = none →
      Dismisses i (.priority r o false) (.priority r' o true)
  | expired : n.outcome? = none → Dismisses i (.timeout d n false fired) (.timeout d n true fired)
  | filled : quota'.reached = true →
      Dismisses i (.limit quota n false fired) (.limit quota' n' true fired')

variable {n n' k b : Node} {fired : Bool}

/-- Whether a node on the way to the path has told its branch on that way to stop. -/
def told : Path → Node → Bool
  | [], _ => false
  | i :: q, n => n.stops i || n.branches[i]?.any (told q)

theorem told_cons (h : n.branches[i]? = some b) (q : Path) :
    n.told (i :: q) = (n.stops i || b.told q) := by
  simp only [told, h, Option.any_some]

/-- The token given to a node has fired with that of the tree or because of a node above it. -/
theorem sees_fired (h : n.at? q = some k) (c : Context) :
    (n.sees q c).fired = (c.fired || n.told q) := by
  induction q generalizing c n with
  | nil => exact (Bool.or_false _).symm
  | cons i q ih =>
    obtain ⟨b, hb, hk⟩ := at?_cons_eq_some.1 h
    rw [sees_cons hb, ih hk, told_cons hb, under_fired, Bool.or_assoc]

theorem Moves.told_mono (h : Moves m r c n n' f) (ht : n.told q = true) : n'.told q = true := by
  induction q generalizing r c n n' f with
  | nil => cases ht
  | cons i q ih =>
    simp only [Node.told, Bool.or_eq_true] at ht ⊢
    refine ht.imp h.stops ?_
    intro ht
    rw [Option.any_eq_true] at ht ⊢
    obtain ⟨b, hb, ht⟩ := ht
    obtain ⟨b', hb'⟩ := h.exists_at? (q := [i]) (at?_cons_eq_some.2 ⟨b, hb, rfl⟩)
    obtain ⟨b', hb', -⟩ := at?_cons_eq_some.1 hb'
    obtain ⟨b₀, hb₀, hmove⟩ := h.branch_of_branch hb'
    obtain rfl : b₀ = b := Option.some.inj (hb₀.symm.trans hb)
    refine ⟨b', hb', ?_⟩
    rcases hmove with rfl | ⟨r', f', -, hm⟩
    · exact ht
    · exact ih hm ht

theorem Moves.dismisses (h : Moves m p c n n' f) (hr : Reached pl n') (hs : n.stops i = false)
    (hs' : n'.stops i = true) : Dismisses i n n' := by
  cases h with
  | leaf => cases hs'
  | noop => cases hs'
  | expire _ ho => exact .expired ho
  | @group p n n' f c mode ms ns g hm =>
    obtain ⟨st, hst⟩ := Option.isSome_iff_exists.1 hs'
    obtain ⟨hdecisive, b, hb, hreports⟩ := hr.heard.knows.decided st hst
    exact .decided (Option.isNone_iff_eq_none.1 (Option.isSome_eq_false_iff.1 hs)) hst hdecisive hb
      hreports
  | @required p r r' f c o dropped hm =>
    simp only [Node.stops, Bool.and_eq_true, decide_eq_true_eq, Bool.and_eq_false_imp] at hs hs'
    obtain ⟨rfl, hs'⟩ := hs'
    obtain rfl : dropped = false := hs rfl
    rw [hs']
    rw [Bool.false_or, Bool.and_eq_true, Option.isNone_iff_eq_none] at hs'
    exact .preferred rfl hm.outcome?_eq_none hs'.1 hs'.2
  | optional hm => simp_all [Node.stops]
  | timeout hm => simp_all [Node.stops]
  | @limit p n n' f c quota stopped fired hm =>
    obtain rfl : stopped = false := hs
    have hs' : (quota.pass f).2.2 = true := hs'
    rw [hs']
    exact .filled (Quota.reached_of_stops hs')
  | filter hm => cases hs'

/-- A token that fires in a move was given by a node above the one it was given to, which has just
told the branch on that way to stop. -/
theorem Moves.dismisses_above (h : Moves m p c n n' f) (hr' : Reached pl n')
    (hk : n.at? q = some k) (ht : n.told q = false) (ht' : n'.told q = true) :
    ∃ q₁ i q₂ k k', q = q₁ ++ i :: q₂ ∧ n.at? q₁ = some k ∧ n'.at? q₁ = some k' ∧
      Dismisses i k k' := by
  induction q generalizing n n' p c f pl with
  | nil => cases ht'
  | cons j q ih =>
    obtain ⟨b, hb, hk⟩ := at?_cons_eq_some.1 hk
    rw [told_cons hb, Bool.or_eq_false_iff] at ht
    by_cases hs : n'.stops j = true
    · exact ⟨[], j, q, n, n', rfl, rfl, rfl, h.dismisses hr' ht.1 hs⟩
    · simp only [told, hs, Bool.false_or, Option.any_eq_true] at ht'
      obtain ⟨b', hb', ht'⟩ := ht'
      obtain ⟨b₀, hb₀, hmove⟩ := h.branch_of_branch hb'
      obtain rfl : b₀ = b := Option.some.inj (hb₀.symm.trans hb)
      rcases hmove with rfl | ⟨r, f', rfl, hm⟩
      · rw [ht.2] at ht'
        cases ht'
      · obtain ⟨p₁, -, hr'⟩ := hr'.branch hb'
        obtain ⟨q₁, i, q₂, k, k', rfl, hat, hat', hd⟩ := ih hm hr' hk ht.2 ht'
        exact ⟨j :: q₁, i, q₂, k, k', rfl, at?_cons_eq_some.2 ⟨_, hb, hat⟩,
          at?_cons_eq_some.2 ⟨_, hb', hat'⟩, hd⟩

/-- No node has given up without its token, if `fired` tells of the token of the tree. -/
def Heeds (fired : Bool) (n : Node) : Prop :=
  ∀ q k, n.at? q = some k → k.GaveUp → (fired || n.told q) = true

theorem Heeds.mono {fired' : Bool} (h : n.Heeds fired) (hf : fired = true → fired' = true) :
    n.Heeds fired' := by
  intro q k hk hg
  have := h q k hk hg
  rw [Bool.or_eq_true] at this ⊢
  exact this.imp_left hf

theorem heeds_iff : n.Heeds fired ↔ (n.GaveUp → fired = true) ∧
    ∀ i (b : Node), n.branches[i]? = some b → b.Heeds (fired || n.stops i) := by
  constructor
  · intro h
    refine ⟨fun hg => by simpa [told] using h [] n rfl hg, fun i b hb q k hk hg => ?_⟩
    rw [Bool.or_assoc, ← told_cons hb]
    exact h (i :: q) k (at?_cons_eq_some.2 ⟨b, hb, hk⟩) hg
  · rintro ⟨hn, hbranches⟩ q k hk hg
    cases q with
    | nil =>
      cases hk
      simpa [told] using hn hg
    | cons i q =>
      obtain ⟨b, hb, hk⟩ := at?_cons_eq_some.1 hk
      rw [told_cons hb, ← Bool.or_assoc]
      exact hbranches i b hb q k hk hg

theorem Heeds.at? (h : n.Heeds fired) (hk : n.at? q = some k) : k.Heeds (fired || n.told q) := by
  induction q generalizing n fired with
  | nil =>
    cases hk
    simpa [told] using h
  | cons i q ih =>
    obtain ⟨b, hb, hk⟩ := at?_cons_eq_some.1 hk
    have := ih ((heeds_iff.1 h).2 i b hb) hk
    rwa [told_cons hb, ← Bool.or_assoc]

theorem heeds_ofPlan (p : Plan) (fired : Bool) : (ofPlan p).Heeds fired := by
  intro q k hk hg
  obtain ⟨p', -, rfl⟩ := exists_plan_of_at? hk
  exact absurd hg (not_gaveUp (outcome?_ofPlan p'))

/-- Whether the token given to the node had fired when its branch moved last, if the node keeps
that in mind. -/
def warned : Node → Bool
  | .timeout _ _ _ fired => fired
  | .limit _ _ _ fired => fired
  | _ => false

theorem Moves.of_warned (h : Moves m (i :: p) c n n' f) (hn : n'.warned = true) :
    c.fired = true := by
  cases h with
  | timeout => exact hn
  | limit => exact hn
  | _ => cases hn

theorem Moves.reached_of_stopped {quota : Quota} {warned : Bool} (h : Moves m p c n n' f)
    (hn : ∀ quota b warned, n = .limit quota b true warned → quota.reached = true)
    (he : n' = .limit quota b true warned) : quota.reached = true := by
  cases h with
  | @limit p k k' f c quota₀ stopped fired hm =>
    cases stopped with
    | true =>
      cases he
      exact Quota.reached_pass (hn _ _ _ rfl) f
    | false =>
      simp only [Bool.false_or, limit.injEq] at he
      obtain ⟨rfl, -, hs, -⟩ := he
      exact Quota.reached_of_stops hs
  | _ => cases he

/-- A cap has told its branch to stop only when it was reached. -/
theorem Reached.reached_of_stopped {quota : Quota} {warned : Bool}
    (h : Reached pl (.limit quota b true warned)) : quota.reached = true := by
  refine h.induction (motive := fun n => ∀ quota b warned, n = .limit quota b true warned →
    quota.reached = true) ?_ (fun _ ih hm _ _ _ he => hm.reached_of_stopped ih he) _ _ _ rfl
  intro quota b warned he
  cases pl <;> cases he

/-- A node that has branches gives up with one of them that it has not told to stop, unless its own
token has fired. -/
theorem Reached.gaveUp_branch (h : Reached pl n) (hg : n.GaveUp) (hn : n.branches ≠ [])
    (hwarned : n.warned = false) : ∃ (i : Nat) (b : Node), n.branches[i]? = some b ∧ b.GaveUp ∧
      n.stops i = false := by
  obtain ⟨as, ho⟩ := hg
  cases n with
  | leaf => exact absurd rfl hn
  | noop => exact absurd rfl hn
  | group mode ns g =>
    simp only [outcome?] at ho
    split at ho
    case isFalse => cases ho
    case isTrue =>
      simp only [Gathered.outcome, Option.some.injEq] at ho
      split at ho
      case h_1 => cases ho
      case h_2 hd =>
        split at ho
        case isFalse => cases ho
        case isTrue hinterrupted =>
          obtain ⟨b, hb, hg⟩ := (h.heard.knows.interrupted hd).1 hinterrupted
          obtain ⟨i, hi⟩ := List.mem_iff_getElem?.1 hb
          exact ⟨i, b, hi, hg, by rw [stops, hd]; rfl⟩
  | priority r o dropped =>
    simp only [outcome?] at ho
    split at ho
    case h_1 ro bo hro hbo =>
      cases ro with
      | cancelled as' => exact ⟨0, r, rfl, ⟨as', hro⟩, rfl⟩
      | done e =>
        obtain ⟨as', hp⟩ := preferred_done o.name dropped e bo
        rw [hp] at ho
        cases ho
    case h_2 => cases ho
  | timeout d k expired fired =>
    obtain rfl : fired = false := hwarned
    obtain ⟨bo, hbo, ho⟩ := Option.map_eq_some_iff.1 ho
    cases expired with
    | true => cases ho
    | false =>
      obtain rfl : bo = .cancelled as := ho
      exact ⟨0, k, rfl, ⟨as, hbo⟩, rfl⟩
  | limit quota k stopped fired =>
    obtain rfl : fired = false := hwarned
    obtain ⟨bo, hbo, ho⟩ := Option.map_eq_some_iff.1 ho
    simp only [capped, Bool.or_false] at ho
    split at ho
    case isFalse => cases ho
    case isTrue hopen =>
      subst ho
      refine ⟨0, k, rfl, ⟨as, hbo⟩, Bool.eq_false_iff.2 fun hs => ?_⟩
      obtain rfl : stopped = true := hs
      rw [h.reached_of_stopped] at hopen
      cases hopen
  | filter allows k => exact ⟨0, k, rfl, ⟨as, ho⟩, rfl⟩

/-- A move makes a node give up only if the token of that node has fired. -/
theorem Moves.heeds (h : Moves m p c n n' f) (hr : Reached pl n') (hn : n.Heeds c.fired) :
    n'.Heeds c.fired := by
  induction n using branch_induction generalizing n' p c f pl with
  | step n ih =>
    have hbranches (j : Nat) (b : Node) (hb : n'.branches[j]? = some b) :
        b.Heeds (c.fired || n'.stops j) := by
      obtain ⟨b₀, hb₀, hmove⟩ := h.branch_of_branch hb
      have hheeds := (heeds_iff.1 hn).2 j b₀ hb₀
      have hheeds' : b.Heeds (c.fired || n.stops j) := by
        rcases hmove with rfl | ⟨r, f', rfl, hm⟩
        · exact hheeds
        · obtain ⟨p', -, hp'⟩ := hr.branch hb
          rw [← under_fired c] at hheeds ⊢
          exact ih b₀ (List.mem_of_getElem? hb₀) hm hp' hheeds
      refine hheeds'.mono fun hf => ?_
      rw [Bool.or_eq_true] at hf ⊢
      exact hf.imp_right h.stops
    refine heeds_iff.2 ⟨fun hg => ?_, hbranches⟩
    cases p with
    | nil =>
      cases h with
      | leaf hm =>
        obtain ⟨as, ho⟩ := hg
        exact hm.fired_of_cancelled ho
      | noop =>
        obtain ⟨as, ho⟩ := hg
        cases ho
      | expire _ hopen => exact absurd hg (not_gaveUp (by rw [outcome?, hopen]; rfl))
    | cons i p =>
      by_contra hc
      have hwarned : n'.warned = false := Bool.eq_false_iff.2 fun hw => hc (h.of_warned hw)
      have hne : n'.branches ≠ [] := by
        obtain ⟨b, b', f', hb, -, hset, -⟩ := h.branch
        intro hnil
        rw [hset, List.set_eq_nil_iff] at hnil
        rw [hnil] at hb
        cases hb
      obtain ⟨j, b, hb, hg, hs⟩ := hr.gaveUp_branch hg hne hwarned
      have hfired := (heeds_iff.1 (hbranches j b hb)).1 hg
      rw [hs, Bool.or_false] at hfired
      exact hc hfired

/-- Once the token of the tree has fired, it stays so. -/
def Steady (ts : List Moment) : Prop :=
  ts.Pairwise fun t u => t.context.fired = true → u.context.fired = true

theorem heeds_of_follow {ts : List Moment} (h : (ofPlan pl).follow ts = some n) (hts : Steady ts)
    (hfired : ∀ t ∈ ts, t.context.fired = true → fired = true) : n.Heeds fired := by
  refine follow_induction (motive := fun ts n => Steady ts → ∀ fired : Bool,
    (∀ t ∈ ts, t.context.fired = true → fired = true) → n.Heeds fired)
    (fun _ fired _ => heeds_ofPlan pl fired) ?_ h hts fired hfired
  intro ts t k k' f hk ih hm hts fired hfired
  obtain ⟨hts, -, hlast⟩ := List.pairwise_append.1 hts
  have hk' : Reached pl k' := ⟨ts ++ [t], follow_concat hk (meet_eq_some.2 hm)⟩
  have hkeeds : k.Heeds t.context.fired :=
    ih hts _ fun u hu => hlast u hu t (List.mem_singleton_self t)
  exact (hm.heeds hk' hkeeds).mono
    (hfired t (List.mem_append_right _ (List.mem_singleton_self t)))

end Node

end SearchPlan
