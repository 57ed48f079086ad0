import SearchPlan.Proofs.Node.Unsent
import SearchPlan.Proofs.Plan.Above

/-! What a running tree has in common with one that differs in its checkers only. Where nobody has to
wait, a checker decides what gets past it and nothing else, except under a cap, which counts. -/

namespace SearchPlan

variable {c : Context} {m : Move} {p q : Path} {f f' : Flow}

theorem Context.through_of_free (hw : ∀ b, c.waits b = false) (g h : Batch → Batch) :
    c.through g = c.through h := by
  simp [through, hw]

namespace Node

mutual

/-- The tree with checkers that let everything through, except under its caps. -/
def bare : Node → Node
  | .leaf s ph pr => .leaf s ph pr
  | .noop seen => .noop seen
  | .group mode ns g => .group mode (bares ns) g
  | .priority required optional dropped => .priority required.bare optional.bare dropped
  | .timeout d n expired fired => .timeout d n.bare expired fired
  | .limit q n stopped fired => .limit q n stopped fired
  | .filter _ n => .filter .allowAll n.bare

def bares : List Node → List Node
  | [] => []
  | n :: ns => n.bare :: bares ns

end

variable {n n' k b b' : Node} {i : Nat}

theorem bares_eq_map (ns : List Node) : bares ns = ns.map bare := by
  induction ns with
  | nil => rfl
  | cons n ns ih => rw [bares, ih, List.map_cons]

@[simp] theorem name_bare (n : Node) : n.bare.name = n.name := by
  cases n <;> rfl

@[simp] theorem outcome?_bare (n : Node) : n.bare.outcome? = n.outcome? := by
  induction n with
  | group mode ns g ih =>
    have hended : ended (bares ns) = ended ns := by
      rw [bares_eq_map, Bool.eq_iff_iff, ended_eq_true, ended_eq_true, List.forall_mem_map]
      exact forall₂_congr fun n hn => by rw [ih n hn]
    simp only [bare, outcome?, hended]
  | _ => simp_all [bare, outcome?]

@[simp] theorem probes_bare (n : Node) : n.bare.probes = n.probes := by
  induction n with
  | group mode ns g ih =>
    simp only [bare, probes]
    induction ns with
    | nil => rfl
    | cons n ns ihs =>
      rw [List.forall_mem_cons] at ih
      simp only [bares, probesAll, ih.1, ihs ih.2]
  | _ => simp_all [bare, probes]

@[simp] theorem alarms_bare (n : Node) : n.bare.alarms = n.alarms := by
  induction n with
  | group mode ns g ih =>
    simp only [bare, alarms]
    induction ns with
    | nil => rfl
    | cons n ns ihs =>
      rw [List.forall_mem_cons] at ih
      simp only [bares, alarmsAll, ih.1, ihs ih.2]
  | _ => simp_all [bare, alarms]

theorem nextAt?_bares {ns : List Node} (h : ∀ n ∈ ns, ∀ c, n.bare.next? c = n.next? c)
    (c : Context) (i : Nat) : nextAt? c i (bares ns) = nextAt? c i ns := by
  induction ns generalizing i with
  | nil => rfl
  | cons n ns ih =>
    rw [List.forall_mem_cons] at h
    simp only [bares, nextAt?, h.1, ih h.2]

@[simp] theorem next?_bare (c : Context) (n : Node) : n.bare.next? c = n.next? c := by
  induction n generalizing c with
  | leaf => rfl
  | noop => rfl
  | group mode ns g ih => exact nextAt?_bares ih _ 0
  | priority r o dropped ihr iho => simp only [bare, next?, ihr, iho]
  | timeout d k expired fired ih => simp only [bare, next?, ih, outcome?_bare]
  | limit => rfl
  | filter allows k ih =>
    have hk : k.next? ((c.through (·.filter Checker.allowAll)).branch 0) =
        k.next? ((c.through (·.filter allows)).branch 0) :=
      (next?_waits (c.branch 0) _ k).trans (next?_waits (c.branch 0) _ k).symm
    simp only [bare, next?, ih]
    rw [hk]

theorem outcome?_of_bare (h : n.bare = n'.bare) : n'.outcome? = n.outcome? := by
  rw [← outcome?_bare, ← h, outcome?_bare]

theorem next?_of_bare (h : n.bare = n'.bare) (c : Context) : n'.next? c = n.next? c := by
  rw [← next?_bare, ← h, next?_bare]

theorem branches_of_bare (h : n.bare = n'.bare) : n.branches.map bare = n'.branches.map bare := by
  cases n <;> cases n' <;> simp_all [bare, branches, bares_eq_map]

theorem branch_of_bare (h : n.bare = n'.bare) (hb : n.branches[i]? = some b)
    (hb' : n'.branches[i]? = some b') : b.bare = b'.bare := by
  have hsame := congrArg (·[i]?) (branches_of_bare h)
  simp only [List.getElem?_map, hb, hb', Option.map_some] at hsame
  exact Option.some.inj hsame

theorem under_of_bare (h : n.bare = n'.bare) (hw : ∀ b, c.waits b = false) (i : Nat) :
    n.under c i = n'.under c i := by
  cases n with
  | filter allows k =>
    cases n' with
    | filter allows' k' => exact congrArg (·.branch i) (Context.through_of_free hw _ _)
    | _ => cases h
  | _ => cases n' <;> simp_all [bare, under, stops]

theorem under_free (hw : ∀ b, c.waits b = false) (n : Node) (i : Nat) (b : Batch) :
    (n.under c i).waits b = false := by
  rw [Bool.eq_false_iff]
  intro hb
  obtain ⟨b', hb'⟩ := under_waits hb
  rw [hw] at hb'
  cases hb'

/-- Lists of branches that differ in their checkers have the same places. -/
theorem exists_same_branch {ms ns us : List Node} (h : bares (ms ++ n :: ns) = bares us) :
    ∃ ms' n' ns', us = ms' ++ n' :: ns' ∧ ms'.length = ms.length ∧ n.bare = n'.bare ∧
      ∀ k k', k.bare = k'.bare → bares (ms ++ k :: ns) = bares (ms' ++ k' :: ns') := by
  rw [bares_eq_map, bares_eq_map, List.map_append, List.map_cons, eq_comm,
    List.map_eq_append_iff] at h
  obtain ⟨ms', us', rfl, hms, hus⟩ := h
  obtain ⟨n', ns', rfl, hn, hns⟩ := List.map_eq_cons_iff.1 hus
  refine ⟨ms', n', ns', rfl, by simpa using congrArg List.length hms, hn.symm, fun k k' hk => ?_⟩
  simp only [bares_eq_map, List.map_append, List.map_cons, hms, hns, hk]

/-- A tree that differs in its checkers can make the same moves, and then still differs in nothing
else. -/
theorem Moves.twin (h : Moves m p c n k f) (hw : ∀ b, c.waits b = false) (hn : n.bare = n'.bare) :
    ∃ k' f', Moves m p c n' k' f' ∧ k.bare = k'.bare := by
  induction h generalizing n' with
  | leaf h =>
    cases n' <;> cases hn
    exact ⟨_, _, .leaf h, rfl⟩
  | noop hm =>
    cases n' <;> cases hn
    exact ⟨_, _, .noop hm, rfl⟩
  | expire hm ho hd hx =>
    cases n' with
    | timeout d' b' expired' fired' =>
      simp only [bare, Node.timeout.injEq] at hn
      obtain ⟨rfl, hb, rfl, rfl⟩ := hn
      refine ⟨_, _, .expire hm ?_ hd ?_, ?_⟩
      · rw [outcome?_of_bare hb, ho]
      · rw [next?_of_bare hb, hx]
      · simp only [bare, hb]
    | _ => cases hn
  | @group p b k f c mode ms ns g h ih =>
    cases n' with
    | group mode' us g' =>
      simp only [bare, Node.group.injEq] at hn
      obtain ⟨rfl, hus, rfl⟩ := hn
      obtain ⟨ms', b', ns', rfl, hlen, hb, hsame⟩ := exists_same_branch hus
      obtain ⟨k', f', hm, hk⟩ := ih hw hb
      rw [← hlen] at hm ⊢
      refine ⟨_, _, .group hm, ?_⟩
      rw [outcome?_of_bare hk]
      simp only [bare, hsame _ _ hk]
    | _ => cases hn
  | required h ih =>
    cases n' with
    | priority r' o' dropped' =>
      simp only [bare, Node.priority.injEq] at hn
      obtain ⟨hr, ho, rfl⟩ := hn
      obtain ⟨k', f', hm, hk⟩ := ih hw hr
      refine ⟨_, _, .required hm, ?_⟩
      rw [outcome?_of_bare hk, outcome?_of_bare ho]
      simp only [bare, hk, ho]
    | _ => cases hn
  | optional h ih =>
    cases n' with
    | priority r' o' dropped' =>
      simp only [bare, Node.priority.injEq] at hn
      obtain ⟨hr, ho, rfl⟩ := hn
      obtain ⟨k', f', hm, hk⟩ := ih hw ho
      refine ⟨_, _, .optional hm, ?_⟩
      simp only [bare, hk, hr]
    | _ => cases hn
  | timeout h ih =>
    cases n' with
    | timeout d' b' expired' fired' =>
      simp only [bare, Node.timeout.injEq] at hn
      obtain ⟨rfl, hb, rfl, rfl⟩ := hn
      obtain ⟨k', f', hm, hk⟩ := ih hw hb
      refine ⟨_, _, .timeout hm, ?_⟩
      simp only [bare, hk]
    | _ => cases hn
  | limit h ih =>
    -- a cap counts what comes from below, so there the trees must not differ at all
    cases n' <;> cases hn
    exact ⟨_, _, .limit h, rfl⟩
  | @filter p b k f c allows h ih =>
    cases n' with
    | filter allows' b' =>
      simp only [bare, Node.filter.injEq, true_and] at hn
      have hfree : ∀ x, ((c.through (·.filter allows)).branch 0).waits x = false := fun x => by
        simp [Context.through, Context.branch, hw]
      obtain ⟨k', f', hm, hk⟩ := ih hfree hn
      rw [Context.through_of_free hw _ (·.filter allows')] at hm
      refine ⟨_, _, .filter hm, ?_⟩
      simp only [bare, hk]
    | _ => cases hn

/-- A move of the root does the same to the sink in both. -/
theorem Moves.flow_of_bare {k' : Node} (h : Moves m [] c n k f) (h' : Moves m [] c n' k' f')
    (hn : n.bare = n'.bare) : f = f' := by
  cases h with
  | leaf h =>
    cases n' <;> cases hn
    exact (Moves.leaf h).flow_unique h'
  | noop =>
    cases n' <;> cases hn
    cases h'
    rfl
  | expire =>
    cases n' with
    | timeout =>
      cases h'
      rfl
    | _ => cases hn

end Node

end SearchPlan
