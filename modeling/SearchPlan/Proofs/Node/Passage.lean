import SearchPlan.Proofs.Node.Reach

/-! The matches that pass a node of a running tree, whoever sends them, and what a cap makes of
them. -/

namespace SearchPlan.Node

variable {n n' k b b' : Node} {t : Moment} {ts us : List Moment} {f : Flow} {i : Nat} {q : Path}
  {p : Plan}

/-- The matches that the node at a path hands to its sink in a history of the tree. -/
def hands : Path → List Moment → Node → List Match
  | [], ts, n => (n.sent ts).flatMap (·.2)
  | i :: q, ts, n =>
    match n.branches[i]? with
    | some b => b.hands q (n.share i ts)
    | none => []

theorem hands_cons (h : n.branches[i]? = some b) (q : Path) (ts : List Moment) :
    n.hands (i :: q) ts = b.hands q (n.share i ts) := by
  simp only [hands, h]

theorem hands_nil_cons (h : n.meet t = some (k, f)) (ts : List Moment) :
    n.hands [] (t :: ts) = f.batch ++ k.hands [] ts := by
  simp only [hands, sent, h, List.flatMap_cons]

theorem hands_limit_cons {quota : Quota} {stopped fired : Bool} {c : Context} {r : Path} {m : Move}
    (hm : Moves m r (((c.scope stopped).through quota.fit).branch 0) b b' f) (ts : List Moment) :
    (limit quota b stopped fired).hands [0] (⟨c, 0 :: r, m⟩ :: ts) = f.batch ++
      (limit (quota.pass f).1 b' (stopped || (quota.pass f).2.2) c.fired).hands [0] ts := by
  have ht : (limit quota b stopped fired).meet ⟨c, 0 :: r, m⟩ = some _ :=
    meet_eq_some.2 (.limit hm)
  rw [hands_cons rfl, hands_cons rfl]
  simp only [share, ht, if_true]
  exact hands_nil_cons (meet_eq_some.2 hm) _

/-- A cap has received what its branch has handed over, and has forwarded what it had room for. -/
theorem limit_follow {quota quota' : Quota} {stopped stopped' fired fired' : Bool}
    (h : (limit quota b stopped fired).follow ts = some (limit quota' b' stopped' fired')) :
    quota'.limit = quota.limit ∧
    quota'.received =
      quota.received + ((limit quota b stopped fired).hands [0] ts).length ∧
    (limit quota b stopped fired).hands [] ts =
      ((limit quota b stopped fired).hands [0] ts).take (quota.limit - quota.received) := by
  induction ts generalizing quota b stopped fired with
  | nil => cases h; exact ⟨rfl, rfl, List.take_nil.symm⟩
  | cons t ts ih =>
    obtain ⟨c, p, m⟩ := t
    obtain ⟨k, f, ht, hk⟩ := follow_cons_eq_some.1 h
    cases meet_eq_some.1 ht with
    | limit hm =>
      obtain ⟨hlimit, hreceived, hhands⟩ := ih hk
      rw [Quota.limit_pass] at hlimit hhands
      rw [Quota.received_pass] at hreceived hhands
      rw [hands_limit_cons hm, hands_nil_cons ht, hhands, Quota.batch_pass, Quota.fit]
      refine ⟨hlimit, ?_, ?_⟩
      · rw [hreceived, List.length_append, Nat.add_assoc]
      · rw [List.take_append, Nat.sub_sub]

theorem limit_follow_ofPlan {count : Nat} {hc : 0 < count} {quota : Quota} {stopped fired : Bool}
    (h : (ofPlan (.limit count hc p)).follow ts = some (limit quota b stopped fired)) :
    quota.limit = count ∧
    quota.received = ((ofPlan (.limit count hc p)).hands [0] ts).length ∧
    (ofPlan (.limit count hc p)).hands [] ts =
      ((ofPlan (.limit count hc p)).hands [0] ts).take count := by
  rw [ofPlan] at h ⊢
  simpa using limit_follow h

/-- A node of the tree has a history of its own, with the same matches passing in it. -/
theorem exists_follow_at? {k' : Node} (h : n.follow ts = some n') (hk : n'.at? q = some k') :
    ∃ k us, n.at? q = some k ∧ k.follow us = some k' ∧
      ∀ r, n.hands (q ++ r) ts = k.hands r us := by
  induction q generalizing n n' ts with
  | nil => cases hk; exact ⟨n, ts, rfl, h, fun _ => rfl⟩
  | cons i q ih =>
    obtain ⟨b', hb', hk⟩ := at?_cons_eq_some.1 hk
    obtain ⟨b, hb, hf⟩ := exists_follow_share h hb'
    obtain ⟨k, us, hat, hus, hhands⟩ := ih hf hk
    refine ⟨k, us, at?_cons_eq_some.2 ⟨b, hb, hat⟩, hus, fun r => ?_⟩
    rw [List.cons_append, hands_cons hb, hhands]

theorem ofPlan_at? {p' : Plan} (h : p.at? q = some p') : (ofPlan p).at? q = some (ofPlan p') := by
  induction q generalizing p with
  | nil => cases h; rfl
  | cons i q ih =>
    obtain ⟨b, hb, h⟩ := Plan.at?_cons_eq_some.1 h
    exact at?_cons_eq_some.2 ⟨ofPlan b, branch_ofPlan hb, ih h⟩

end SearchPlan.Node
