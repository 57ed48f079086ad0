import SearchPlan.Proofs.Completeness
import SearchPlan.Proofs.Failure
import SearchPlan.Proofs.Interleaving
import SearchPlan.Proofs.Liveness
import SearchPlan.Proofs.Node.OnTime
import SearchPlan.Proofs.Node.Token
import SearchPlan.Proofs.Run.Unfolds

/-! Plans that cannot decide early. Every script in them runs to its end, and what comes of a run
depends neither on the order of its events nor on what its sink does, but for the order of the matches
and of the alerts. -/

namespace SearchPlan

/-- A plan in which nothing stops a script before its end if the token given to the plan does not
fire: its groups wait for all of their branches, as no script fails below those that must succeed. -/
inductive Plan.Thorough : Plan → Prop
  | leaf : Thorough (.leaf s)
  | noop : Thorough .noop
  | and : (∀ p ∈ first :: rest, Thorough p) →
      (∀ s ∈ (Plan.group .and first rest).scripts, ¬s.ending.Fails) →
      Thorough (.group .and first rest)
  | parallel : (∀ p ∈ first :: rest, Thorough p) → Thorough (.group .parallel first rest)
  | filter : Thorough p → Thorough (.filter allows p)

namespace Plan.Thorough

variable {p p' : Plan} {i : Nat}

theorem child (h : p.Thorough) (hp : p.children[i]? = some p') : p'.Thorough := by
  have hmem := List.mem_of_getElem? hp
  cases h with
  | leaf => cases hmem
  | noop => cases hmem
  | and h => exact h p' hmem
  | parallel h => exact h p' hmem
  | filter h => exact List.mem_singleton.1 hmem ▸ h

theorem caps (h : p.Thorough) : p.caps = 0 := by
  cases h <;> rfl

end Plan.Thorough

namespace Phase

variable {c : Context} {s : Script} {m : Move} {ph ph' : Phase} {pr pr' : Probe} {f : Flow}
  {taken : List Step}

/-- Whether the script has come to its end with its token fired. -/
def cut : Phase → Bool
  | .returned _ fired => fired
  | .skipped => true
  | _ => false

theorem Moves.cut (h : Moves c s m ph pr ph' pr' f) (hc : c.fired = false) : ph'.cut = false := by
  cases h with
  | finish => exact hc
  | skip hf => simp [hc] at hf
  | stop hf => simp [hc] at hf
  | halt hf => simp [hc] at hf
  | _ => rfl

theorem Upto.of_cut (h : Upto s ph pr taken) (hcut : ph.cut = false) {name : String}
    (ho : (ph.outcome? name).isSome) :
    ph = .returned s.ending false ∧ taken = s.steps ∧ pr = .ofSteps s.steps := by
  cases h with
  | finished hsteps hpr =>
    subst hsteps
    simp only [cut] at hcut
    subst hcut
    exact ⟨rfl, rfl, hpr⟩
  | stopped => cases hcut
  | skipped => cases hcut
  | _ => cases ho

end Phase

namespace Node

variable {p p' : Plan} {n n' b : Node} {ts : List Moment} {i : Nat} {q : Path} {s : Script}
  {o : Outcome}

/-- A script has run to its end once, and has handed over all its matches that are let through. -/
def Exhausts (q : Path) (s : Script) (ts : List Moment) (p : Plan) (n : Node) : Prop :=
  n.at? q = some (.leaf s (.returned s.ending false)
    { runs := 1, emitted := s.batches.flatten.length, stopped := false }) ∧
  (ofPlan p).takes q ts = s.steps ∧ (ofPlan p).handed q ts = p.visible q

theorem cut_of_follow {ph : Phase} {pr : Probe}
    (h : (leaf s .idle {}).follow ts = some (leaf s ph pr))
    (hts : ∀ t ∈ ts, t.context.fired = false) : ph.cut = false := by
  refine follow_induction (motive := fun ts k => (∀ t ∈ ts, t.context.fired = false) →
    ∀ s ph pr, k = leaf s ph pr → ph.cut = false) ?_ ?_ h hts s ph pr rfl
  · rintro - s' ph' pr' ⟨⟩
    rfl
  · rintro ts ⟨c, p, m⟩ k k' f - - hm hts s' ph' pr' rfl
    have hc := hts ⟨c, p, m⟩ (List.mem_append_right _ (List.mem_singleton_self _))
    cases hm with
    | leaf hm => exact hm.cut hc

theorem exhausts_leaf (h : (ofPlan (.leaf s)).follow ts = some n)
    (hts : ∀ t ∈ ts, t.context.fired = false) (ho : n.outcome?.isSome) :
    n.Exhausts [] s ts (.leaf s) := by
  obtain ⟨ph, pr, rfl, hupto, hhanded⟩ := upto_of_follow h
  obtain ⟨rfl, hsteps, rfl⟩ := hupto.of_cut (cut_of_follow h hts) ho
  refine ⟨?_, hsteps, ?_⟩
  · rw [Script.flatten_batches]
    rfl
  · rw [ofPlan, hhanded, hsteps, ← Script.flatten_batches]
    exact (Plan.filter_allowed_nil _ _).symm

/-- In such a plan, nobody is told to stop: where one branch could decide, none comes to that. -/
theorem Reached.not_stops (h : Reached p n) (hp : p.Thorough) (i : Nat) : n.stops i = false := by
  have hdoes := h.does
  cases n with
  | group mode ns g =>
    rw [stops, Option.isSome_eq_false_iff, Option.isNone_iff_eq_none]
    cases hd : g.decision with
    | none => rfl
    | some st =>
      obtain ⟨hdecisive, k, hk, as, ho⟩ := h.heard.knows.decided st hd
      cases hp with
      | parallel =>
        obtain rfl : mode = .parallel := hdoes
        cases hdecisive
      | and _ hscripts =>
        obtain rfl : mode = .and := hdoes
        obtain rfl : st = .failure := (Option.some.inj hdecisive).symm
        obtain ⟨j, hj⟩ := List.mem_iff_getElem?.1 hk
        obtain ⟨p', -, hr⟩ := h.branch hj
        obtain ⟨q, s, pr, -, hs, -, hfails, -⟩ := hr.blames ho
        obtain ⟨p₁, hp₁, hr₁⟩ := h.at? (at?_cons_eq_some.2 ⟨k, hj, hs⟩)
        have hleaf := hr₁.does
        cases p₁ with
        | leaf s' =>
          obtain rfl : s = s' := hleaf
          exact absurd hfails (hscripts s (Plan.mem_scripts_of_at? hp₁))
        | _ => cases hleaf
      | _ => cases hdoes
  | priority => cases hp <;> cases hdoes
  | timeout => cases hp <;> cases hdoes
  | limit => cases hp <;> cases hdoes
  | _ => rfl

/-- A branch of such a plan has a history in which its token has not fired. -/
theorem exists_live_share (h : (ofPlan p).follow ts = some n) (hp : p.Thorough)
    (hts : ∀ t ∈ ts, t.context.fired = false) (hp' : p.children[i]? = some p') :
    (ofPlan p).branches[i]? = some (ofPlan p') ∧ ∃ b, n.branches[i]? = some b ∧
      (ofPlan p').follow ((ofPlan p).share i ts) = some b ∧
      ∀ t ∈ (ofPlan p).share i ts, t.context.fired = false := by
  have hb := branch_ofPlan hp'
  obtain ⟨b, hb', hf⟩ := follow_share h hb
  exact ⟨hb, b, hb', hf, not_fired_share h (Reached.not_stops ⟨ts, h⟩ hp i) hts⟩

theorem visible_cons (hp : p.children[i]? = some p') (q : Path) :
    p.visible (i :: q) = (p'.visible q).filter p.lets := by
  have hat : p.at? (i :: q) = p'.at? q := by rw [Plan.at?, hp]; rfl
  simp only [Plan.visible, hat]
  split
  · exact Plan.filter_allowed_cons hp q _
  · rfl

theorem exhausts_of_thorough (h : (ofPlan p).follow ts = some n) (hp : p.Thorough)
    (hts : ∀ t ∈ ts, t.context.fired = false) (ho : n.outcome?.isSome)
    (hq : p.at? q = some (.leaf s)) : n.Exhausts q s ts p := by
  induction q generalizing p n ts with
  | nil =>
    cases hq
    exact exhausts_leaf h hts ho
  | cons i q ih =>
    obtain ⟨p', hp', hq⟩ := Plan.at?_cons_eq_some.1 hq
    obtain ⟨hb, b, hb', hf, hlive⟩ := exists_live_share h hp hts hp'
    obtain ⟨hat, htakes, hhanded⟩ := ih hf (hp.child hp') hlive (ended_branch ho hb') hq
    have hcuts : n.cuts = false := (Reached.does ⟨ts, h⟩).cuts hp.caps
    refine ⟨at?_cons_eq_some.2 ⟨b, hb', hat⟩, ?_, ?_⟩
    · rw [takes_cons hb, htakes]
    · rw [handed_share h hcuts hb, hhanded, (does_ofPlan p).lets, visible_cons hp']

/-- The node has ended with the status that its plan foretells, and just the alerts of those of its
scripts that fail. -/
def Finishes (p : Plan) (n : Node) : Prop :=
  ∃ as, n.outcome? = some (.done ⟨p.forecast.status, as⟩) ∧
    as.Perm (p.scripts.filterMap Script.complaint)

theorem outcome_ending (s : Script) : s.ending.outcome s.name false =
    .done ⟨(Plan.leaf s).forecast.status, s.complaint.toList⟩ := by
  rw [Script.complaint, Script.ending, Plan.forecast]
  cases s.failure with
  | some e => rfl
  | none => cases s.status <;> rfl

theorem Finishes.reports (h : n.Finishes p) : n.Reports p.forecast.status := by
  obtain ⟨as, ho, -⟩ := h
  exact ⟨as, ho⟩

theorem Finishes.perm_raised (h : n.Finishes p) :
    n.raised.Perm (p.scripts.filterMap Script.complaint) := by
  obtain ⟨as, ho, hperm⟩ := h
  rwa [raised_eq ho]

/-- A group that has not decided finishes with its branches. -/
theorem finishes_of_gathering {mode : Mode} {first : Plan} {rest : List Plan} {ns : List Node}
    {g : Gathered} (hheard : g.Heard mode ns) (hg : g.decision = none)
    (hlen : ns.length = (first :: rest).length)
    (hbranch : ∀ (i : Nat) p b, (first :: rest)[i]? = some p → ns[i]? = some b → b.Finishes p) :
    (Node.group mode ns g).Finishes (.group mode first rest) := by
  have hended : ended ns = true := by
    rw [ended_eq_true]
    intro b hb
    obtain ⟨i, p, hb, hp⟩ := exists_same_place hlen.symm hb
    obtain ⟨as, ho, -⟩ := hbranch i p b hp hb
    rw [ho]
    rfl
  obtain ⟨-, hout⟩ :=
    outcome_of_gathering hg hheard hlen fun i p b hp hb => (hbranch i p b hp hb).reports
  refine ⟨g.alerts, by rw [outcome?, if_pos hended, hout], hheard.alerts.trans ?_⟩
  have hscripts : (Plan.group mode first rest).scripts.filterMap Script.complaint =
      (first :: rest).flatMap fun p => p.scripts.filterMap Script.complaint := by
    rw [Plan.scripts_eq_flatMap (p := .group mode first rest) (List.cons_ne_nil first rest),
      List.filterMap_flatMap]
    rfl
  rw [hscripts]
  exact rel_flatMap .nil (fun h h' => h.append h') hlen
    fun i b p hb hp => (hbranch i p b hp hb).perm_raised

theorem finishes_of_thorough (h : (ofPlan p).follow ts = some n) (hp : p.Thorough)
    (hts : ∀ t ∈ ts, t.context.fired = false) (ho : n.outcome?.isSome) : n.Finishes p := by
  have hdoes := Reached.does ⟨ts, h⟩
  induction p generalizing n ts with
  | leaf s =>
    obtain ⟨hat, -⟩ := exhausts_leaf h hts ho
    cases hat
    refine ⟨_, congrArg some (outcome_ending s), ?_⟩
    rw [Plan.scripts, List.filterMap_cons]
    cases s.complaint <;> rfl
  | noop =>
    cases n with
    | noop seen =>
      cases seen with
      | true => exact ⟨[], rfl, .nil⟩
      | false => cases ho
    | _ => cases hdoes
  | group mode first rest ih ihs =>
    cases n with
    | group mode' ns g =>
      obtain rfl : mode' = mode := hdoes
      have hr : Reached (.group mode' first rest) (.group mode' ns g) := ⟨ts, h⟩
      have hg : g.decision = none := by
        rw [← Option.isNone_iff_eq_none, ← Option.isSome_eq_false_iff]
        exact hr.not_stops hp 0
      have hlen := length_branches_of_follow h
      rw [branches_ofPlan, List.length_map] at hlen
      refine finishes_of_gathering hr.heard hg hlen fun i p b hp' hb => ?_
      obtain ⟨-, b', hb', hf, hlive⟩ := exists_live_share h hp hts hp'
      obtain rfl : b' = b := Option.some.inj (hb'.symm.trans hb)
      have hended := ended_branch ho hb
      have hp₁ := hp.child hp'
      rcases List.mem_cons.1 (List.mem_of_getElem? hp') with rfl | hmem
      · exact ih hf hp₁ hlive hended (Reached.does ⟨_, hf⟩)
      · exact ihs p hmem hf hp₁ hlive hended (Reached.does ⟨_, hf⟩)
    | _ => cases hdoes
  | filter allows p ih =>
    cases n with
    | filter allows' b =>
      obtain ⟨-, b', hb', hf, hlive⟩ := exists_live_share h hp hts (i := 0) rfl
      cases hb'
      obtain ⟨as, ho', hperm⟩ :=
        ih hf (hp.child (i := 0) rfl) hlive ho (Reached.does ⟨_, hf⟩)
      exact ⟨as, ho', hperm⟩
    | _ => cases hdoes
  | _ => cases hp

theorem handed_eq_visible (h : (ofPlan p).follow ts = some n) (hp : p.Thorough)
    (hts : ∀ t ∈ ts, t.context.fired = false) (ho : n.outcome?.isSome) (q : Path) :
    (ofPlan p).handed q ts = p.visible q := by
  by_cases hq : ∃ s, p.at? q = some (.leaf s)
  · obtain ⟨s, hq⟩ := hq
    exact (exhausts_of_thorough h hp hts ho hq).2.2
  · rw [Ready.first.handed_eq_nil h (not_exists.1 hq), Plan.visible]
    split
    case h_1 s hs => exact absurd ⟨s, hs⟩ hq
    case h_2 => rfl

end Node

/-- A run of such a plan that its caller does not cancel can always come to its end, whatever its
sink and the order of events. When the tree has ended, every script has run to its end once, the sink
has been given all their matches that are let through, each script's in order, and the outcome is the
one foretold by the plan, with one alert for each script that fails. -/
theorem Run.schedule_independent {p : Plan} {r r' : Run} {ts : List Moment} (hp : p.Thorough)
    (hr : r = direct (.ofPlan p) {} ∨ ∃ sub, r = spawned (.ofPlan p) {} sub)
    (h : r.Unfolds ts r') :
    (∃ es k, r'.follow es = some k ∧ k.finished = true) ∧
    ∀ x, r'.execution? = some x →
      (∀ q s, p.at? q = some (.leaf s) → r'.tree.Exhausts q s ts p) ∧
      Interleaves p.visible ((Node.ofPlan p).hands [] ts) ∧
      x.status = p.forecast.status ∧ x.alerts.Perm (p.scripts.filterMap Script.complaint) := by
  have hstart : r.tree = .ofPlan p ∧ r.quota = none ∧ r.cancelAt = none ∧ r.fired = false ∧
      r.Served := by
    rcases hr with rfl | ⟨sub, rfl⟩
    · exact ⟨rfl, rfl, rfl, rfl, served_direct .first _⟩
    · exact ⟨rfl, rfl, rfl, rfl, served_spawned .first _ _⟩
  obtain ⟨htree, hquota, hcancel, hfired, hserved⟩ := hstart
  refine ⟨(h.served hserved).exists_finished, fun x hx => ?_⟩
  have hfollow := h.follow
  rw [htree] at hfollow
  obtain ⟨-, -, hlive⟩ := h.live hquota hcancel hfired
  obtain ⟨o, ho, rfl⟩ := Option.map_eq_some_iff.1 hx
  have hended : r'.tree.outcome?.isSome := Option.isSome_iff_exists.2 ⟨o, ho⟩
  obtain ⟨as, ho', hperm⟩ := Node.finishes_of_thorough hfollow hp hlive hended
  obtain rfl := Option.some.inj (ho.symm.trans ho')
  refine ⟨fun q s => Node.exhausts_of_thorough hfollow hp hlive hended, ?_, rfl, hperm⟩
  have hall := Node.interleaves_handed hfollow
  simp only [Node.handed_eq_visible hfollow hp hlive hended] at hall
  exact hall

/-! Three scripts behind a narrow channel, one of which fails. -/

namespace Patient

def quick : Script := { name := "quick", steps := [.emit [.ofRepo "a"], .emit [.ofRepo "b"]] }

def wide : Script :=
  { name := "wide", steps := [.sleep (.ofMillis 3), .emit [.ofRepo "c", .ofPath "c" "d"]] }

def bad : Script := { name := "bad", steps := [.emit [.ofRepo "e"]], status := .failure }

def plan : Plan :=
  .group .parallel (.group .and (.leaf quick) [.filter (fun m => m.kind = .repo) (.leaf wide)])
    [.leaf bad]

def listener : Subscription := { buffer := 0, pause := .ofMillis 5 }

theorem thorough_plan : plan.Thorough := by
  refine .parallel (List.forall_mem_cons.2 ⟨.and ?_ ?_, List.forall_mem_singleton.2 .leaf⟩)
  · exact List.forall_mem_cons.2 ⟨.leaf, List.forall_mem_singleton.2 (.filter .leaf)⟩
  · exact List.forall_mem_cons.2 ⟨nofun, List.forall_mem_singleton.2 nofun⟩

theorem all_heard : plan.Thorough ∧ ∃ ts,
    (Run.spawned (.ofPlan plan) {} listener).Unfolds ts (plan.spawn {} listener) ∧
    (plan.spawn {} listener).execution? =
      some ⟨.partialSuccess, [.branchFailed "bad" "bad reported failure"]⟩ ∧
    plan.forecast.status = .partialSuccess ∧
    (plan.spawn {} listener).tree.Exhausts [0, 1, 0] wide ts plan ∧
    Interleaves plan.visible ((Node.ofPlan plan).hands [] ts) := by
  obtain ⟨es, hes⟩ := Run.exists_follow_eq_advance _ .caller (.spawned (.ofPlan plan) {} listener)
  have hunfolds := Run.unfolds_of_follow hes
  have hx : (plan.spawn {} listener).execution? =
      some ⟨.partialSuccess, [.branchFailed "bad" "bad reported failure"]⟩ := by decide +kernel
  obtain ⟨-, hresult⟩ := Run.schedule_independent thorough_plan (.inr ⟨_, rfl⟩) hunfolds
  obtain ⟨hscripts, hmatches, hstatus, -⟩ := hresult _ hx
  exact ⟨thorough_plan, _, hunfolds, hx, hstatus.symm, hscripts _ _ rfl, hmatches⟩

end Patient

end SearchPlan
