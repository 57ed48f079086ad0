import SearchPlan.Proofs.Node.Ready
import SearchPlan.Proofs.Node.Transit

/-! Who waits for room in the sink of a tree. Each move of a tree says by what it does to the sink
whether its sender starts to wait there, goes on, or does neither. -/

namespace SearchPlan.Node

/-- What a move does to the sink above the tree and to the wait of its sender there. -/
inductive Sends (p : Path) (c : Context) (n n' : Node) : Flow → Prop
  | resumed : n.Waits p → ¬n'.Waits p → c.granted p = true → Sends p c n n' .resumed
  | queued : ¬n.Waits p → n'.Waits p → c.waits x = true → Sends p c n n' (.handed x true)
  | sent : ¬n.Waits p → ¬n'.Waits p → Sends p c n n' (.handed x false)
  | quiet : ¬n.Waits p → ¬n'.Waits p → Sends p c n n' .quiet

variable {n n' k b : Node} {c : Context} {m : Move} {p q r : Path} {f : Flow} {i : Nat} {x : Batch}

theorem under_granted (hb : n.branches[i]? = some b) (c : Context) (r : Path) :
    (n.under c i).granted r = c.granted (i :: r) := by
  cases n <;> rfl

/-- A batch that has to wait below a node has to wait at the sink above it. -/
theorem passes_of_waits (h : (n.under c i).waits x = true) :
    ∃ y, n.passes (.handed x true) = .handed y true ∧ c.waits y = true := by
  cases n with
  | limit quota k stopped fired =>
    simp only [under, Context.through, Context.branch, Context.scope, Bool.and_eq_true,
      Bool.not_eq_true', List.isEmpty_eq_false_iff] at h
    refine ⟨quota.fit x, ?_, h.2⟩
    simp only [passes, Quota.pass]
    split <;> simp_all
  | filter allows k =>
    simp only [under, Context.through, Context.branch, Bool.and_eq_true, Bool.not_eq_true',
      List.isEmpty_eq_false_iff] at h
    refine ⟨x.filter allows, ?_, h.2⟩
    simp only [passes, Flow.filter]
    split <;> simp_all
  | _ => exact ⟨x, rfl, h⟩

theorem passes_sent (n : Node) (x : Batch) :
    n.passes (.handed x false) = .quiet ∨ ∃ y, n.passes (.handed x false) = .handed y false := by
  cases n with
  | limit quota k stopped fired =>
    simp only [passes, Quota.pass]
    split
    · exact .inl rfl
    · exact .inr ⟨_, rfl⟩
  | filter allows k =>
    simp only [passes, Flow.filter]
    split
    · exact .inl rfl
    · exact .inr ⟨_, rfl⟩
  | _ => exact .inr ⟨x, rfl⟩

/-- What passes a node has to wait above it just if it has to wait below. -/
theorem waits_of_passes {waits : Bool} (h : n.passes f = .handed x waits) (c : Context) (i : Nat) :
    ∃ y, f = .handed y waits ∧ (n.under c i).waits y = c.waits x := by
  cases n with
  | limit quota k stopped fired =>
    cases f with
    | handed y w =>
      simp only [passes, Quota.pass] at h
      split at h
      case h_1 => cases h
      case h_2 hy =>
        cases h
        refine ⟨y, rfl, ?_⟩
        simp only [under, Context.through, Context.branch, Context.scope]
        rw [List.isEmpty_eq_false_iff.2 hy, Bool.not_false, Bool.true_and]
    | _ => cases h
  | filter allows k =>
    cases f with
    | handed y w =>
      simp only [passes, Flow.filter] at h
      split at h
      case h_1 => cases h
      case h_2 hy =>
        cases h
        refine ⟨y, rfl, ?_⟩
        simp only [under, Context.through, Context.branch]
        rw [List.isEmpty_eq_false_iff.2 hy, Bool.not_false, Bool.true_and]
    | _ => cases h
  | _ => exact ⟨x, h, rfl⟩

theorem waits_nil : n.Waits [] ↔ ∃ s size rest pr, n = .leaf s (.sending size rest) pr := by
  simp only [Waits, at?, Option.some.injEq]

theorem waits_cons (hb : n.branches[i]? = some b) : n.Waits (i :: q) ↔ b.Waits q := by
  refine ⟨fun h => ?_, Waits.cons hb⟩
  obtain ⟨b', hb', hw⟩ := h.of_cons
  obtain rfl : b' = b := Option.some.inj (hb'.symm.trans hb)
  exact hw

theorem Waits.of_append (h : n.Waits (q ++ r)) (hk : n.at? q = some k) : k.Waits r := by
  obtain ⟨s, size, rest, pr, hs⟩ := h
  obtain ⟨k', hk', hs⟩ := at?_append_eq_some.1 hs
  obtain rfl : k' = k := Option.some.inj (hk'.symm.trans hk)
  exact ⟨s, size, rest, pr, hs⟩

theorem Moves.sends (h : Moves m p c n n' f) : Sends p c n n' f := by
  induction p generalizing c n n' f with
  | nil =>
    cases h with
    | leaf h =>
      cases h with
      | queue _ hb => exact .queued (by simp [waits_nil]) (by simp [waits_nil]) hb
      | emit => exact .sent (by simp [waits_nil]) (by simp [waits_nil])
      | resume hg => exact .resumed (by simp [waits_nil]) (by simp [waits_nil]) hg
      | _ => exact .quiet (by simp [waits_nil]) (by simp [waits_nil])
    | _ => exact .quiet (by simp [waits_nil]) (by simp [waits_nil])
  | cons i p ih =>
    obtain ⟨b, b', f', hb, hm, hset, hf, -⟩ := h.branch
    have hb' : n'.branches[i]? = some b' := by
      rw [hset, List.getElem?_set_self (List.getElem?_eq_some_iff.1 hb).1]
    rw [hf]
    cases ih hm with
    | resumed hw hw' hg =>
      rw [under_granted hb] at hg
      rw [passes_resumed]
      exact .resumed ((waits_cons hb).2 hw) (hw' ∘ (waits_cons hb').1) hg
    | queued hw hw' hx =>
      obtain ⟨y, hy, hwaits⟩ := passes_of_waits hx
      rw [hy]
      exact .queued (hw ∘ (waits_cons hb).1) ((waits_cons hb').2 hw') hwaits
    | @sent x hw hw' =>
      rcases passes_sent n x with hy | ⟨y, hy⟩
      · rw [hy]
        exact .quiet (hw ∘ (waits_cons hb).1) (hw' ∘ (waits_cons hb').1)
      · rw [hy]
        exact .sent (hw ∘ (waits_cons hb).1) (hw' ∘ (waits_cons hb').1)
    | quiet hw hw' =>
      rw [passes_quiet]
      exact .quiet (hw ∘ (waits_cons hb).1) (hw' ∘ (waits_cons hb').1)

/-- The sender of a batch waits just if the sink would make it wait. -/
theorem Moves.waits_eq {waits : Bool} (h : Moves m p c n n' (.handed x waits)) :
    c.waits x = waits := by
  induction p generalizing c n n' x with
  | nil =>
    cases h with
    | leaf h =>
      cases h with
      | queue _ hb => exact hb
      | emit _ hb => exact hb
  | cons i p ih =>
    obtain ⟨b, b', f, -, hm, -, hf, -⟩ := h.branch
    obtain ⟨y, rfl, hy⟩ := waits_of_passes hf.symm c i
    rw [← hy, ih hm]

theorem Moves.resumed (h : Moves m q c n n' f) (hw : n.Waits q) : f = .resumed := by
  cases h.sends with
  | resumed => rfl
  | _ => contradiction

/-- The other senders wait on. -/
theorem Moves.waits_iff (h : Moves m p c n n' f) (hpq : p ≠ q) : n'.Waits q ↔ n.Waits q := by
  constructor
  · rintro ⟨s, size, rest, pr, hs⟩
    obtain ⟨k, hk, rfl | ⟨r, f', rfl, hm⟩⟩ := h.at? hs
    · exact ⟨s, size, rest, pr, hk⟩
    · cases hm with
      | leaf => exact absurd (List.append_nil q) hpq
  · intro hw
    exact (h.waits_or_resumed hw).resolve_right fun ⟨hp, _⟩ => hpq hp

/-- A sender that is let go on can move. -/
theorem Waits.next?_ne_none (h : n.Waits q) (hg : c.granted q = true) : n.next? c ≠ none := by
  intro hx
  obtain ⟨s, size, rest, pr, hs⟩ := h
  induction q generalizing n c with
  | nil =>
    cases hs
    simp [next?, Phase.next?, hg] at hx
  | cons i q ih =>
    obtain ⟨b, hb, hs⟩ := at?_cons_eq_some.1 hs
    exact ih ((under_granted hb c q).trans hg) (next?_branch hx hb) hs

theorem exists_open_child (ho : n.outcome? = none) (hn : n.branches ≠ []) :
    ∃ (i : Nat) (b : Node), n.branches[i]? = some b ∧ b.outcome? = none := by
  cases n with
  | leaf => exact absurd rfl hn
  | noop => exact absurd rfl hn
  | group mode ns g =>
    obtain ⟨b, hb, hopen⟩ := exists_open_of_group ho
    obtain ⟨i, hi⟩ := List.mem_iff_getElem?.1 hb
    exact ⟨i, b, hi, hopen⟩
  | priority r o dropped =>
    cases hro : r.outcome? with
    | none => exact ⟨0, r, rfl, hro⟩
    | some ro =>
      refine ⟨1, o, rfl, ?_⟩
      cases hoo : o.outcome? with
      | none => rfl
      | some oo => simp [outcome?, hro, hoo] at ho
  | timeout d k => exact ⟨0, k, rfl, Option.map_eq_none_iff.1 ho⟩
  | limit quota k => exact ⟨0, k, rfl, Option.map_eq_none_iff.1 ho⟩
  | filter allows k => exact ⟨0, k, rfl, ho⟩

/-- What is left of a tree in which nothing can move and no script waits is asleep. -/
theorem Still.exists_asleep (h : n.Still c) (ho : n.outcome? = none) :
    ∃ q s wakeAt rest pr, n.at? q = some (.leaf s (.sleeping wakeAt rest) pr) := by
  induction n using branch_induction generalizing c with
  | step n ih =>
    by_cases hn : n.branches = []
    · have hx := h.next
      cases n with
      | leaf s ph pr =>
        cases ph with
        | sleeping wakeAt rest => exact ⟨[], s, wakeAt, rest, pr, rfl⟩
        | sending size rest => exact absurd ⟨s, size, rest, pr, rfl⟩ (h.free [])
        | returned => cases ho
        | skipped => cases ho
        | _ => cases hx
      | noop seen =>
        cases seen with
        | true => cases ho
        | false => cases hx
      | group mode ns g =>
        obtain rfl : ns = [] := hn
        cases ho
      | _ => cases hn
    · obtain ⟨i, b, hb, hopen⟩ := exists_open_child ho hn
      obtain ⟨q, s, wakeAt, rest, pr, hs⟩ := ih b (List.mem_of_getElem? hb) (h.branch hb) hopen
      exact ⟨i :: q, s, wakeAt, rest, pr, at?_cons_eq_some.2 ⟨b, hb, hs⟩⟩

end SearchPlan.Node
