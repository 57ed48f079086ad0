import SearchPlan.Proofs.Node.Outcome
import SearchPlan.Proofs.Node.Ready
import SearchPlan.Proofs.Node.Script
import SearchPlan.Proofs.Plan.Above
import SearchPlan.Proofs.Run.Trace

/-! Where the matches of a run come from. Those that its sink is given are matches of the scripts in
the plan, in some order between the scripts and in their own order within each, with nothing that a
checker on the way denies; a cap lets only the first of them through. -/

namespace SearchPlan

/-- A list is made of the parts, and each part is in it in its own order. -/
def Interleaves {ι α : Type} [DecidableEq ι] (parts : ι → List α) (xs : List α) : Prop :=
  ∃ tagged : List (ι × α), tagged.map Prod.snd = xs ∧
    ∀ i, (tagged.filter (·.1 = i)).map Prod.snd = parts i

/-- The matches that come from a place in a plan if nothing stops them but the checkers above. -/
def Plan.visible (q : Path) (p : Plan) : List Match :=
  match p.at? q with
  | some (.leaf s) => s.batches.flatten.filter (p.allowed q)
  | _ => []

namespace Node

variable {p : Plan} {n n' k : Node} {c : Context} {m : Move} {f : Flow} {q : Path}
  {ts : List Moment} {s : Script}

theorem filter_tagged (q r : Path) (b : Batch) :
    ((b.map (q, ·)).filter (·.1 = r)).map Prod.snd = if q = r then b else [] := by
  split
  case isTrue h => simp [List.filter_map, Function.comp_def, h]
  case isFalse h => simp [List.filter_map, Function.comp_def, h]

/-- All that is handed over is what comes from the single places. -/
theorem interleaves_handed (h : n.follow ts = some n') :
    Interleaves (fun q => n.handed q ts) (n.hands [] ts) := by
  induction ts generalizing n with
  | nil => exact ⟨[], rfl, fun _ => rfl⟩
  | cons t ts ih =>
    obtain ⟨k, f, ht, hk⟩ := follow_cons_eq_some.1 h
    obtain ⟨tagged, hall, hparts⟩ := ih hk
    refine ⟨f.batch.map (t.path, ·) ++ tagged, ?_, fun q => ?_⟩
    · rw [List.map_append, hall, hands_nil_cons ht, List.map_map]
      simp [Function.comp_def]
    · simp only [List.filter_append, List.map_append, hparts, filter_tagged, handed_cons ht]

theorem Does.batch_nil (hp : Does p n) (h : Moves m [] c n n' f) (hs : ∀ s, p ≠ .leaf s) :
    f.batch = [] := by
  cases h with
  | leaf =>
    cases p with
    | leaf s => exact absurd rfl (hs s)
    | _ => cases hp
  | _ => rfl

/-- Only scripts hand anything over. -/
theorem Ready.handed_eq_nil (hn : Ready p n) (h : n.follow ts = some n')
    (hq : ∀ s, p.at? q ≠ some (.leaf s)) : n.handed q ts = [] := by
  induction q generalizing p n n' ts with
  | nil =>
    refine Node.handed_eq_nil (P := Does p) h hn.does (fun hm => hm.does) fun hm hk => ?_
    exact hk.batch_nil hm fun s hs => hq s (by rw [hs]; rfl)
  | cons i q ih =>
    cases hp : p.children[i]? with
    | none =>
      refine Node.handed_eq_nil (P := fun k => k.branches.length = p.children.length) h
        hn.length_branches (fun hm hk => hm.length_branches.trans hk) fun hm hk => ?_
      obtain ⟨b, -, -, hb, -⟩ := hm.branch
      rw [List.getElem?_eq_none (hk ▸ List.getElem?_eq_none_iff.1 hp)] at hb
      cases hb
    | some p' =>
      obtain ⟨b, hb, hready⟩ := hn.branch hp
      obtain ⟨b', -, hshare⟩ := follow_share h hb
      have hnil := ih hready hshare fun s hs => hq s (Plan.at?_cons_eq_some.2 ⟨p', hp, hs⟩)
      have hfirst := prefix_handed_share h hb q
      rwa [hnil, List.filter_nil, List.prefix_nil] at hfirst

/-- What has come from a script are the first matches of the steps it has taken, but for those that
are denied above it. If no cap stands above it, all of them have come. -/
theorem Ready.handed_leaf (hn : Ready p n) (h : n.follow ts = some n')
    (hq : p.at? q = some (.leaf s)) : ∃ pr ph' pr' taken, n.at? q = some (.leaf s .idle pr) ∧
      n'.at? q = some (.leaf s ph' pr') ∧ Phase.Tally s pr.emitted ph' pr' taken ∧
      n.handed q ts <+: (taken.flatMap Step.yield).filter (p.allowed q) ∧
      (p.capsAbove q = 0 →
        n.handed q ts = (taken.flatMap Step.yield).filter (p.allowed q)) := by
  induction q generalizing p n n' ts with
  | nil =>
    cases hq
    obtain ⟨pr, rfl⟩ := hn.leaf
    have hstart : Phase.Tally s pr.emitted .idle pr [] :=
      ⟨List.nil_prefix, fun rest hrest => (Option.some.inj hrest).symm, rfl⟩
    obtain ⟨ph', pr', rfl, htally, hhanded⟩ := leaf_induction hstart (fun ht hm => hm.tally ht) h
    refine ⟨pr, ph', pr', _, rfl, rfl, htally, ?_⟩
    rw [Plan.filter_allowed_nil, hhanded]
    exact ⟨List.prefix_rfl, fun _ => rfl⟩
  | cons i q ih =>
    obtain ⟨p', hp', hq⟩ := Plan.at?_cons_eq_some.1 hq
    obtain ⟨b, hb, hready⟩ := hn.branch hp'
    obtain ⟨b', hb', hshare⟩ := follow_share h hb
    obtain ⟨pr, ph', pr', taken, hat, hat', htally, hfirst, hhanded⟩ := ih hready hshare hq
    have hfilter : ((taken.flatMap Step.yield).filter (p'.allowed q)).filter n.lets =
        (taken.flatMap Step.yield).filter (p.allowed (i :: q)) := by
      rw [hn.does.lets, Plan.filter_allowed_cons hp']
    refine ⟨pr, ph', pr', taken, at?_cons_eq_some.2 ⟨b, hb, hat⟩,
      at?_cons_eq_some.2 ⟨b', hb', hat'⟩, htally, ?_, fun hcaps => ?_⟩
    · rw [← hfilter]
      exact (prefix_handed_share h hb q).trans (hfirst.filter _)
    · rw [Plan.capsAbove_cons hp', Nat.add_eq_zero_iff] at hcaps
      rw [handed_share h ((does_of_follow h hn.does).cuts hcaps.1) hb, hhanded hcaps.2, hfilter]

theorem Ready.prefix_visible (hn : Ready p n) (h : n.follow ts = some n') (q : Path) :
    n.handed q ts <+: p.visible q := by
  by_cases hq : ∃ s, p.at? q = some (.leaf s)
  · obtain ⟨s, hq⟩ := hq
    obtain ⟨pr, ph', pr', taken, -, -, htally, hfirst, -⟩ := hn.handed_leaf h hq
    simp only [Plan.visible, hq]
    exact hfirst.trans (htally.prefix_flatten.filter _)
  · rw [hn.handed_eq_nil h (not_exists.1 hq)]
    exact List.nil_prefix

theorem owed_of_outcome {ph : Phase} {pr : Probe} (h : (leaf s ph pr).outcome?.isSome) :
    ph.owed = 0 := by
  cases ph <;> first | rfl | cases h

/-- At every moment of a run, whatever the world does to it, its sink has been given what has come
from its scripts, in some order, and of each script the first of its matches that nothing on the way
denies. In the end, these are exactly those that its probe has counted in the run, unless a cap
stands above the script. -/
theorem Ready.handed_interleaved (hn : Ready p n) (h : n.follow ts = some n') :
    Interleaves (fun q => n.handed q ts) (n.hands [] ts) ∧
    (∀ q, n.handed q ts <+: p.visible q) ∧
    (n'.outcome?.isSome → ∀ q s, p.at? q = some (.leaf s) → p.capsAbove q = 0 →
      ∃ pr ph' pr' counted, n.at? q = some (.leaf s .idle pr) ∧
        n'.at? q = some (.leaf s ph' pr') ∧ pr'.emitted = pr.emitted + counted ∧
        counted ≤ s.batches.flatten.length ∧
        n.handed q ts = (s.batches.flatten.take counted).filter (p.allowed q)) := by
  refine ⟨interleaves_handed h, hn.prefix_visible h, fun hended q s hq hcaps => ?_⟩
  obtain ⟨pr, ph', pr', taken, hat, hat', htally, -, hhanded⟩ := hn.handed_leaf h hq
  have hcount := htally.count
  rw [owed_of_outcome (ended_at? hended hat'), Nat.add_zero] at hcount
  refine ⟨pr, ph', pr', _, hat, hat', hcount, htally.prefix_flatten.length_le, ?_⟩
  rw [hhanded hcaps, ← List.prefix_iff_eq_take.1 htally.prefix_flatten]

end Node

/-- The same for what a collector holds, whenever the caller cancels the run. -/
theorem Run.held_interleaved {p : Plan} {cancelAt : Option Nat} {es : List Event} {r : Run}
    (h : (direct (.ofPlan p) { cancelAt }).follow es = some r) :
    Interleaves (fun q => (Node.ofPlan p).handed q ((direct (.ofPlan p) { cancelAt }).moments es))
      r.outlet.held.flatten ∧
    ∀ q, (Node.ofPlan p).handed q ((direct (.ofPlan p) { cancelAt }).moments es) <+:
      p.visible q := by
  have hd := direct_ofPlan p cancelAt
  have hfollow := follow_moments h
  have hheld : r.outlet.held.flatten =
      (Node.ofPlan p).hands [] ((direct (.ofPlan p) { cancelAt }).moments es) := by
    rw [held_of_follow hd h, arrivals_eq_hands hd h]
    rfl
  rw [hheld]
  exact ⟨Node.interleaves_handed hfollow, Node.Ready.prefix_visible .first hfollow⟩

/-! A script below a checker takes turns with one below a cap, which lets one match through. -/

namespace Woven

def wide : Script :=
  { name := "wide", steps := [.emit [.ofRepo "a", .ofPath "a" "b"], .emit [.ofRepo "c"]] }

def narrow : Script := { name := "narrow", steps := [.emit [.ofRepo "x", .ofRepo "y"]] }

def plan : Plan :=
  .group .parallel (.filter (fun m => m.kind = .repo) (.leaf wide))
    [.limit 1 Nat.one_pos (.leaf narrow)]

def moments : List Moment :=
  [⟨.calm, [0, 0], .act⟩, ⟨.calm, [1, 0], .act⟩, ⟨.calm, [0, 0], .act⟩, ⟨.calm, [1, 0], .act⟩,
    ⟨.calm, [0, 0], .act⟩, ⟨.calm, [0, 0], .act⟩, ⟨.calm, [1, 0], .act⟩]

def tree : Node := .group .parallel
  [.filter (fun m => m.kind = .repo)
      (.leaf wide (.returned (.finished .success) false) { runs := 1, emitted := 3 }),
    .limit ⟨1, 2⟩ (.leaf narrow (.returned (.finished .success) true) { runs := 1, emitted := 2 })
      true false]
  { alerts := [.limitHit "narrow" 1], statuses := [.success, .partialSuccess] }

theorem hands_woven : (Node.ofPlan plan).follow moments = some tree ∧
    (Node.ofPlan plan).hands [] moments = [.ofRepo "a", .ofRepo "x", .ofRepo "c"] ∧
    Interleaves (fun q => (Node.ofPlan plan).handed q moments)
      [.ofRepo "a", .ofRepo "x", .ofRepo "c"] ∧
    (Node.ofPlan plan).handed [1, 0] moments <+: plan.visible [1, 0] ∧
    ∃ counted, 3 = 0 + counted ∧ (Node.ofPlan plan).handed [0, 0] moments =
      (wide.batches.flatten.take counted).filter (plan.allowed [0, 0]) := by
  have hfollow : (Node.ofPlan plan).follow moments = some tree := rfl
  have hhands : (Node.ofPlan plan).hands [] moments = [.ofRepo "a", .ofRepo "x", .ofRepo "c"] := by
    decide
  obtain ⟨hwoven, hfirst, hcounted⟩ := Node.Ready.handed_interleaved .first hfollow
  obtain ⟨pr, ph', pr', counted, hat, hat', hcount, -, hhanded⟩ := hcounted rfl [0, 0] wide rfl rfl
  cases hat
  cases hat'
  rw [hhands] at hwoven
  exact ⟨hfollow, hhands, hwoven, hfirst [1, 0], counted, hcount, hhanded⟩

end Woven

end SearchPlan
