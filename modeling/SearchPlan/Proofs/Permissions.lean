import SearchPlan.Proofs.Interleaving
import SearchPlan.Proofs.Node.Bare
import SearchPlan.Proofs.Plan.Unchecked

/-! What a viewer learns from the checkers of a plan. They decide which matches a run hands over and
leave no other trace in it, as long as none of them stands below a cap. -/

namespace SearchPlan

variable {p p' : Plan} {q : Path} {i : Nat}

namespace Node

variable {n n' k k' : Node} {c : Context} {m : Move} {f f' : Flow} {ts : List Moment}

theorem bare_ofPlan (h : p.FiltersUncapped) : (ofPlan p).bare = ofPlan p.unchecked := by
  induction p with
  | leaf s => rfl
  | noop => rfl
  | group mode first rest ih ihs =>
    have hrest : (rest.map ofPlan).map bare = (rest.map Plan.unchecked).map ofPlan := by
      rw [List.map_map, List.map_map]
      refine List.map_congr_left fun p hp => ?_
      obtain ⟨i, hi⟩ := List.mem_iff_getElem?.1 hp
      exact ihs p hp (h.child (i := i + 1) hi)
    rw [ofPlan, bare, bares, bares_eq_map, ofPlans_eq_map, ih (h.child (i := 0) rfl), hrest,
      Plan.unchecked, ofPlan, Plan.uncheckeds_eq_map, ofPlans_eq_map]
  | priority r o ihr iho =>
    simp only [ofPlan, bare, Plan.unchecked, ihr (h.child (i := 0) rfl),
      iho (h.child (i := 1) rfl)]
  | timeout d p ih => simp only [ofPlan, bare, Plan.unchecked, ih (h.child (i := 0) rfl)]
  | limit count hc p =>
    rw [Plan.unchecked, (h.below (i := 0) Nat.one_ne_zero rfl).unchecked]
    rfl
  | filter allows p ih => simp only [ofPlan, bare, Plan.unchecked, ih (h.child (i := 0) rfl)]

theorem eq_of_cap (h : n.bare = n'.bare) (hdoes : Does p n) (hp : p.caps ≠ 0) : n = n' := by
  cases p with
  | limit count hc p =>
    obtain ⟨quota, b, stopped, fired, rfl, -⟩ := hdoes.limit
    cases n' <;> cases h
    rfl
  | _ => exact absurd rfl hp

/-- What comes from a place in a move is, but for the matches that the checkers on the way deny,
what comes from there if they deny nothing. -/
theorem Reached.batch_unchecked (h : Reached p n) (h' : Reached p.unchecked n')
    (hp : p.FiltersUncapped) (hn : n.bare = n'.bare) (hw : ∀ b, c.waits b = false)
    (hm : Moves m q c n k f) (hm' : Moves m q c n' k' f') :
    f.batch = f'.batch.filter (p.allowed q) := by
  induction q generalizing p n n' c k k' f f' with
  | nil =>
    rw [Plan.filter_allowed_nil, hm.flow_of_bare hm' hn]
  | cons i q ih =>
    by_cases hcaps : p.caps = 0
    · obtain ⟨b, b₁, f₁, hb, hm₁, -, -, -, hbatch⟩ := hm.branch
      obtain ⟨b', b₁', f₁', hb', hm₁', -, -, -, hbatch'⟩ := hm'.branch
      obtain ⟨p₁, hp₁, hr⟩ := h.branch hb
      obtain ⟨p₁', hp₁', hr'⟩ := h'.branch hb'
      rw [Plan.children_unchecked, List.getElem?_map, hp₁] at hp₁'
      cases hp₁'
      have hbelow := ih hr hr' (hp.child hp₁) (branch_of_bare hn hb hb') (under_free hw n i) hm₁
        (under_of_bare hn hw i ▸ hm₁')
      have hlets' : n'.lets = .allowAll := by
        rw [h'.does.lets]
        cases p <;> rfl
      rw [hbatch ((h.move hm).does.cuts hcaps), hbelow,
        hbatch' ((h'.move hm').does.cuts (by rw [Plan.caps_unchecked, hcaps])), hlets',
        Checker.filter_allowAll, h.does.lets, Plan.filter_allowed_cons hp₁]
    · -- at a cap, the two trees are one
      obtain rfl := eq_of_cap hn h.does hcaps
      obtain rfl := hm.flow_unique hm'
      obtain ⟨b, -, -, hb, -⟩ := hm.branch
      obtain ⟨p₁, hp₁, -⟩ := h.branch hb
      have hlets : p.lets = .allowAll := by
        cases p <;> first | rfl | exact absurd rfl hcaps
      rw [Plan.filter_allowed_cons hp₁, (hp.below hcaps hp₁).allowed, hlets,
        Checker.filter_allowAll, Checker.filter_allowAll]

/-- The same for a history in which nothing has to wait. -/
theorem Reached.sent_unchecked (h : Reached p n) (h' : Reached p.unchecked n')
    (hp : p.FiltersUncapped) (hn : n.bare = n'.bare)
    (hw : ∀ t ∈ ts, ∀ b, t.context.waits b = false) (hfollow : n.follow ts = some k) :
    n.sent ts = (n'.sent ts).map fun (q, b) => (q, b.filter (p.allowed q)) := by
  induction ts generalizing n n' with
  | nil => rfl
  | cons t ts ih =>
    rw [List.forall_mem_cons] at hw
    obtain ⟨n₁, f, ht, hfollow⟩ := follow_cons_eq_some.1 hfollow
    have hm := meet_eq_some.1 ht
    obtain ⟨n₁', f', hm', hn₁⟩ := hm.twin hw.1 hn
    simp only [sent, ht, meet_eq_some.2 hm', List.map_cons]
    rw [h.batch_unchecked h' hp hn hw.1 hm hm', ih (h.move hm) (h'.move hm') hn₁ hw.2 hfollow]

end Node

namespace Run

variable {r r' k : Run} {e : Event} {es : List Event} {cancelAt : Option Nat}

/-- What a run shows besides its matches: the time, whether it is over, its execution and what its
scripts have done. -/
def shows (r : Run) : Nat × Bool × Option Execution × List (String × Probe) :=
  (r.now, r.finished, r.execution?, r.tree.probes)

/-- Two direct runs that differ in their checkers only. -/
structure Twins (r r' : Run) : Prop where
  left : r.Direct
  right : r'.Direct
  now : r'.now = r.now
  fired : r'.fired = r.fired
  cancelAt : r'.cancelAt = r.cancelAt
  bare : r.tree.bare = r'.tree.bare

theorem twins_ofPlan (hp : p.FiltersUncapped) (hsame : p.unchecked = p'.unchecked)
    (cancelAt : Option Nat) :
    Twins (direct (.ofPlan p) { cancelAt }) (direct (.ofPlan p') { cancelAt }) where
  left := direct_ofPlan p cancelAt
  right := direct_ofPlan p' cancelAt
  now := rfl
  fired := rfl
  cancelAt := rfl
  bare := by
    have hbare := Node.bare_ofPlan hp
    rw [hsame, ← Node.bare_ofPlan (hp.congr hsame)] at hbare
    exact hbare

namespace Twins

theorem context_eq (h : Twins r r') : r'.context = r.context := by
  obtain ⟨held, ho⟩ := h.left.outlet
  obtain ⟨held', ho'⟩ := h.right.outlet
  simp only [context, h.left.quota, h.right.quota, ho, ho', h.now, h.fired]
  rfl

theorem outcome?_eq (h : Twins r r') : r'.tree.outcome? = r.tree.outcome? :=
  Node.outcome?_of_bare h.bare

theorem finished_eq (h : Twins r r') : r'.finished = r.finished := by
  rw [finished, finished, outcome?, outcome?, h.outcome?_eq, h.left.reader, h.right.reader]

theorem shows_eq (h : Twins r r') : r'.shows = r.shows := by
  have hname : r'.tree.name = r.tree.name := by
    rw [← Node.name_bare, ← h.bare, Node.name_bare]
  have hprobes : r'.tree.probes = r.tree.probes := by
    rw [← Node.probes_bare, ← h.bare, Node.probes_bare]
  rw [shows, shows, h.now, h.finished_eq, hprobes, execution?, execution?, outcome?, outcome?,
    h.outcome?_eq, hname]

theorem nextMove?_eq (h : Twins r r') : r'.nextMove? = r.nextMove? := by
  rw [nextMove?, nextMove?, h.context_eq, Node.next?_of_bare h.bare]

theorem alarms_eq (h : Twins r r') : r'.alarms = r.alarms := by
  have htree : r'.tree.alarms = r.tree.alarms := by
    rw [← Node.alarms_bare, ← h.bare, Node.alarms_bare]
  simp only [alarms, htree, h.left.reader, h.right.reader, h.fired, h.cancelAt, h.now, if_true]

theorem cancel?_eq_none (h : Twins r r') (hc : r.cancel? = none) : r'.cancel? = none := by
  simpa only [cancel?, h.fired, h.cancelAt, h.now, ite_eq_right_iff, reduceCtorEq] using hc

/-- Whatever happens in one of the runs can happen in the other. -/
theorem happens (h : Twins r r') (he : Happens r e k) :
    ∃ k', Happens r' e k' ∧ Twins k k' := by
  have hleft := h.left.happens he
  cases he with
  | @move m q n f hm =>
    obtain ⟨n', f', hm', hn⟩ := hm.twin h.left.context_waits h.bare
    rw [← h.context_eq] at hm'
    refine ⟨_, .move hm', hleft, h.right.happens (.move hm'), h.now, ?_, h.cancelAt, hn⟩
    simp only [h.left.pass_eq, h.right.pass_eq, h.fired]
  | cancel hf ht hdue =>
    have he' : Happens r' .cancel _ :=
      .cancel (h.fired.trans hf) (h.cancelAt.trans ht) (h.now ▸ hdue)
    exact ⟨_, he', hleft, h.right.happens he', h.now, rfl, h.cancelAt, h.bare⟩
  | tick hx hc hr ha =>
    have he' : Happens r' .tick _ := .tick (h.nextMove?_eq.trans hx) (h.cancel?_eq_none hc)
      h.right.read?_eq_none (h.alarms_eq ▸ ha)
    exact ⟨_, he', hleft, h.right.happens he', rfl, h.fired, h.cancelAt, h.bare⟩
  | read hgone => simp [h.left.reader] at hgone
  | leave hgone => simp [h.left.reader] at hgone

theorem follow (h : Twins r r') (hes : r.follow es = some k) :
    ∃ k', r'.follow es = some k' ∧ Twins k k' ∧ r'.moments es = r.moments es := by
  induction es generalizing r r' with
  | nil =>
    cases hes
    exact ⟨r', rfl, h, rfl⟩
  | cons e es ih =>
    obtain ⟨r₁, he, hes⟩ := follow_cons_eq_some.1 hes
    obtain ⟨hopen, hhappens⟩ := happens_of_step he
    obtain ⟨r₁', hhappens', h₁⟩ := h.happens hhappens
    have he' := hhappens'.step (h.finished_eq.trans hopen)
    obtain ⟨k', hes', hk, hmoments⟩ := ih h₁ hes
    refine ⟨k', follow_cons_eq_some.2 ⟨r₁', he', hes'⟩, hk, ?_⟩
    cases e <;> simp only [moments, he, he', hmoments, h.context_eq]

end Twins

theorem Direct.moments_free (h : r.Direct) (hes : r.follow es = some k) :
    ∀ t ∈ r.moments es, ∀ b, t.context.waits b = false := by
  induction es generalizing r with
  | nil => nofun
  | cons e es ih =>
    obtain ⟨r₁, he, hes⟩ := follow_cons_eq_some.1 hes
    have hhappens := (happens_of_step he).2
    have hrest := ih (h.happens hhappens) hes
    simp only [moments, he]
    cases hhappens with
    | move => exact List.forall_mem_cons.2 ⟨h.context_waits, hrest⟩
    | _ => exact hrest

theorem held_eq_sent (h : (direct (.ofPlan p) { cancelAt }).follow es = some r) :
    r.outlet.held.flatten =
      ((Node.ofPlan p).sent ((direct (.ofPlan p) { cancelAt }).moments es)).flatMap (·.2) := by
  have hd := direct_ofPlan p cancelAt
  rw [held_of_follow hd h, arrivals_eq_hands hd h]
  rfl

/-- Two plans that differ in their checkers only, none of which stands below a cap, show the same
in direct runs that take the same events. The matches are those of the run in which everything is let
through, without those that some checker above their script denies, in the same order. -/
theorem permissions_leak_nothing (hp : p.FiltersUncapped) (hsame : p.unchecked = p'.unchecked)
    (h : (direct (.ofPlan p) { cancelAt }).follow es = some r) :
    (∃ r', (direct (.ofPlan p') { cancelAt }).follow es = some r' ∧ r'.shows = r.shows) ∧
    ∃ r₀ sent, (direct (.ofPlan p.unchecked) { cancelAt }).follow es = some r₀ ∧
      r₀.shows = r.shows ∧
      sent = (Node.ofPlan p.unchecked).sent
        ((direct (.ofPlan p.unchecked) { cancelAt }).moments es) ∧
      r₀.outlet.held.flatten = sent.flatMap (·.2) ∧
      r.outlet.held.flatten = sent.flatMap fun (q, b) => b.filter (p.allowed q) := by
  have hd := direct_ofPlan p cancelAt
  obtain ⟨r', hr', htwins', -⟩ := (twins_ofPlan hp hsame cancelAt).follow h
  have htwins := twins_ofPlan hp (Plan.unchecked_unchecked p).symm cancelAt
  obtain ⟨r₀, hr₀, htwins₀, hmoments⟩ := htwins.follow h
  refine ⟨⟨r', hr', htwins'.shows_eq⟩, r₀, _, hr₀, htwins₀.shows_eq, rfl, held_eq_sent hr₀, ?_⟩
  rw [held_eq_sent h, hmoments, Node.Reached.sent_unchecked ⟨[], rfl⟩ ⟨[], rfl⟩ hp htwins.bare
    (hd.moments_free h) (follow_moments h), List.flatMap_map]

end Run

/-! A viewer of repositories and one of files get different matches of a run that is cancelled, and
no other news of it. -/

namespace Veiled

def wide : Script where
  name := "wide"
  steps := [.emit [.ofRepo "a", .ofPath "a" "b"], .sleep (.ofMillis 5), .emit [.ofPath "a" "c"]]

def many : Script where
  name := "many"
  steps := [.sleep (.ofMillis 1), .emit [.ofRepo "d", .ofPath "d" "e"]]

def plan (allows : Checker) : Plan :=
  .group .parallel (.filter allows (.leaf wide))
    [.filter allows (.limit 1 Nat.one_pos (.leaf many))]

def repos : Checker := fun m => m.kind = .repo

def files : Checker := fun m => m.kind = .path

def caller : Caller := { cancelAt := some 3 }

def news : Nat × Bool × Option Execution × List (String × Probe) :=
  (3, true,
    some ⟨.partialSuccess, [.limitHit "many" 1, .cancelled "PARALLEL"]⟩,
    [("wide", { runs := 1, emitted := 2, stopped := true }),
      ("many", { runs := 1, emitted := 2, stopped := false })])

theorem filtersUncapped_plan (allows : Checker) : (plan allows).FiltersUncapped := by
  intro q allows' b hq
  match q with
  | [] => cases hq
  | [0] => rfl
  | [1] => rfl
  | [0, 0] => cases hq
  | [1, 0] => cases hq
  | [1, 0, 0] => cases hq
  | 0 :: 0 :: i :: q => cases hq
  | 1 :: 0 :: 0 :: i :: q => cases hq
  | 1 :: 0 :: (i + 1) :: q => cases hq
  | 0 :: (i + 1) :: q => cases hq
  | 1 :: (i + 1) :: q => cases hq
  | (i + 2) :: q => cases hq

theorem same_news : (plan repos).FiltersUncapped ∧
    (plan repos).unchecked = (plan files).unchecked ∧ ∃ es r sent,
    (Run.direct (.ofPlan (plan repos)) caller).follow es = some ((plan repos).run caller) ∧
    ((plan repos).run caller).shows = news ∧
    (Run.direct (.ofPlan (plan files)) caller).follow es = some r ∧ r.shows = news ∧
    sent = (Node.ofPlan (plan repos).unchecked).sent
      ((Run.direct (.ofPlan (plan repos).unchecked) caller).moments es) ∧
    [.ofRepo "a", .ofRepo "d"] = sent.flatMap fun (q, b) => b.filter ((plan repos).allowed q) := by
  obtain ⟨es, hes⟩ := Run.exists_follow_eq_advance _ .caller (.direct (.ofPlan (plan repos)) caller)
  have hshows : ((plan repos).run caller).shows = news := by decide +kernel
  have hheld : ((plan repos).run caller).outlet.held.flatten = [.ofRepo "a", .ofRepo "d"] := by
    decide +kernel
  have hp := filtersUncapped_plan repos
  have hsame : (plan repos).unchecked = (plan files).unchecked := rfl
  obtain ⟨⟨r, hr, hnews⟩, -, sent, -, -, hsent, -, hmatches⟩ :=
    Run.permissions_leak_nothing hp hsame hes
  rw [← hheld]
  exact ⟨hp, hsame, es, r, sent, hes, hshows, hr, hnews.trans hshows, hsent, hmatches⟩

end Veiled

end SearchPlan
