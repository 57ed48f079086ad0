import SearchPlan.Proofs.Node.Moves
import SearchPlan.Proofs.Sink.Pass

/-! The branches of a running node and what it puts between them and the world above. A move below
the root is a move of one branch, in whatever kind of node: `Moves.branch`. -/

namespace SearchPlan.Node

variable {c : Context} {m : Move} {p q : Path} {f : Flow} {n n' : Node} {i : Nat}

def branches : Node → List Node
  | .leaf _ _ _ => []
  | .noop _ => []
  | .group _ ns _ => ns
  | .priority required optional _ => [required, optional]
  | .timeout _ n _ _ => [n]
  | .limit _ n _ _ => [n]
  | .filter _ n => [n]

/-- Whether the node has told its branch at position `i` to stop. -/
def stops (i : Nat) : Node → Bool
  | .group _ _ g => g.decision.isSome
  | .priority _ _ dropped => decide (i = 1) && dropped
  | .timeout _ _ expired _ => expired
  | .limit _ _ stopped _ => stopped
  | _ => false

/-- What the branch at position `i` sees. -/
def under (c : Context) (i : Nat) : Node → Context
  | .limit q _ stopped _ => ((c.scope stopped).through q.fit).branch i
  | .filter allows _ => (c.through (·.filter allows)).branch i
  | n => (c.scope (n.stops i)).branch i

def lets : Node → Checker
  | .filter allows _ => allows
  | _ => .allowAll

/-- Whether the node has dropped matches for want of room. -/
def cuts : Node → Bool
  | .limit q _ _ _ => q.truncated
  | _ => false

/-- What the node makes of what a branch does to its sink. -/
def passes (f : Flow) : Node → Flow
  | .limit q _ _ _ => (q.pass f).2.1
  | .filter allows _ => f.filter allows
  | _ => f

def at? : Path → Node → Option Node
  | [], n => some n
  | i :: p, n => n.branches[i]?.bind (at? p)

/-- What the node at a path sees. -/
def sees : Path → Context → Node → Context
  | [], c, _ => c
  | i :: p, c, n =>
    match n.branches[i]? with
    | some b => b.sees p (n.under c i)
    | none => c

/-- What holds of a node if it holds of its branches holds of every node. -/
@[elab_as_elim]
theorem branch_induction {motive : Node → Prop}
    (step : ∀ n : Node, (∀ b ∈ n.branches, motive b) → motive n) (n : Node) : motive n := by
  induction n with
  | leaf s ph pr => exact step _ nofun
  | noop seen => exact step _ nofun
  | group mode ns g ih => exact step _ ih
  | priority r o dropped ihr iho =>
    exact step _ (List.forall_mem_cons.2 ⟨ihr, List.forall_mem_singleton.2 iho⟩)
  | timeout d n expired fired ih => exact step _ (List.forall_mem_singleton.2 ih)
  | limit q n stopped fired ih => exact step _ (List.forall_mem_singleton.2 ih)
  | filter allows n ih => exact step _ (List.forall_mem_singleton.2 ih)

theorem at?_cons (i : Nat) (p : Path) (n : Node) :
    n.at? (i :: p) = n.branches[i]?.bind (at? p) := rfl

theorem at?_cons_eq_some {k : Node} : n.at? (i :: p) = some k ↔
    ∃ b, n.branches[i]? = some b ∧ b.at? p = some k := by
  rw [at?_cons, Option.bind_eq_some_iff]

theorem at?_append (q r : Path) (n : Node) : n.at? (q ++ r) = (n.at? q).bind (at? r) := by
  induction q generalizing n with
  | nil => rfl
  | cons i q ih =>
    rw [List.cons_append, at?_cons, at?_cons, Option.bind_assoc]
    exact Option.bind_congr fun b _ => ih b

theorem at?_append_eq_some {k : Node} {r : Path} : n.at? (q ++ r) = some k ↔
    ∃ b, n.at? q = some b ∧ b.at? r = some k := by
  rw [at?_append, Option.bind_eq_some_iff]

theorem sees_cons {b : Node} (h : n.branches[i]? = some b) (p : Path) (c : Context) :
    n.sees (i :: p) c = b.sees p (n.under c i) := by
  simp only [sees, h]

@[simp] theorem under_now (c : Context) (i : Nat) (n : Node) : (n.under c i).now = c.now := by
  cases n <;> rfl

@[simp] theorem under_fired (c : Context) (i : Nat) (n : Node) :
    (n.under c i).fired = (c.fired || n.stops i) := by
  cases n <;> simp [under, stops, Context.scope, Context.through, Context.branch]

theorem under_live (hc : c.fired = false) (hs : n.stops i = false) :
    (n.under c i).fired = false := by
  rw [under_fired, hc, hs]
  rfl

theorem under_waits {b : Batch} (h : (n.under c i).waits b = true) : ∃ b', c.waits b' = true := by
  cases n with
  | limit q k stopped fired =>
    simp only [under, Context.through, Context.branch, Context.scope, Bool.and_eq_true] at h
    exact ⟨_, h.2⟩
  | filter allows k =>
    simp only [under, Context.through, Context.branch, Bool.and_eq_true] at h
    exact ⟨_, h.2⟩
  | _ => exact ⟨b, h⟩

@[simp] theorem sees_now (q : Path) (c : Context) (n : Node) : (n.sees q c).now = c.now := by
  induction q generalizing n c with
  | nil => rfl
  | cons i q ih =>
    simp only [sees]
    split
    · rw [ih, under_now]
    · rfl

theorem sees_append (h : n.at? q = some k) (r : Path) (c : Context) :
    n.sees (q ++ r) c = k.sees r (n.sees q c) := by
  induction q generalizing n c with
  | nil =>
    cases h
    rfl
  | cons i q ih =>
    obtain ⟨b, hb, hk⟩ := at?_cons_eq_some.1 h
    rw [List.cons_append, sees_cons hb, sees_cons hb, ih hk]

/-- The matches that get past a node in a move of a branch are the first of those that the branch
hands over, but for what the node denies, and all of them if it has not cut any. -/
theorem Moves.branch (h : Moves m (i :: p) c n n' f) : ∃ b b' f', n.branches[i]? = some b ∧
    Moves m p (n.under c i) b b' f' ∧ n'.branches = n.branches.set i b' ∧ f = n.passes f' ∧
    f.batch <+: f'.batch.filter n.lets ∧ (n'.cuts = false → f.batch = f'.batch.filter n.lets) := by
  have same (f : Flow) : f.batch <+: f.batch.filter Checker.allowAll ∧
      (n'.cuts = false → f.batch = f.batch.filter Checker.allowAll) := by
    rw [Checker.filter_allowAll]
    exact ⟨List.prefix_rfl, fun _ => rfl⟩
  cases h with
  | group h => exact ⟨_, _, _, by simp [branches], h, by simp [branches], rfl, same _⟩
  | required h =>
    exact ⟨_, _, _, rfl, by simpa [under, stops, Context.scope] using h, rfl, rfl, same _⟩
  | optional h => exact ⟨_, _, _, rfl, by simpa [under, stops] using h, rfl, rfl, same _⟩
  | timeout h => exact ⟨_, _, _, rfl, h, rfl, rfl, same _⟩
  | limit h =>
    refine ⟨_, _, _, rfl, h, rfl, rfl, ?_, fun hc => ?_⟩
    · rw [Quota.batch_pass]
      exact (List.take_prefix _ _).trans (same _).1
    · rw [Quota.batch_pass, Quota.fit_of_not_truncated hc]
      exact (Checker.filter_allowAll _).symm
  | filter h =>
    refine ⟨_, _, _, rfl, h, rfl, rfl, ?_, fun _ => Flow.batch_filter _ _⟩
    rw [Flow.batch_filter]
    exact List.prefix_rfl

/-- A node that has cut matches lets no more of them through. -/
theorem Moves.batch_of_cuts (h : Moves m p c n n' f) (hc : n.cuts = true) : f.batch = [] := by
  cases h with
  | limit h => rw [Quota.batch_pass, Quota.fit_of_truncated hc]
  | _ => cases hc

theorem Moves.branches_eq (h : Moves m [] c n n' f) : n'.branches = n.branches := by
  cases h <;> rfl

theorem Moves.length_branches (h : Moves m p c n n' f) :
    n'.branches.length = n.branches.length := by
  cases p with
  | nil => rw [h.branches_eq]
  | cons i p =>
    obtain ⟨b, b', f', -, -, hset, -⟩ := h.branch
    rw [hset, List.length_set]

theorem Moves.lets (h : Moves m p c n n' f) : n'.lets = n.lets := by
  cases h <;> rfl

theorem Moves.cuts (h : Moves m p c n n' f) (hc : n.cuts = true) : n'.cuts = true := by
  cases h with
  | limit h => exact Quota.truncated_pass hc _
  | _ => exact hc

theorem Moves.name (h : Moves m p c n n' f) : n'.name = n.name := by
  cases h <;> rfl

/-- A branch that was told to stop is not told to go on. -/
theorem Moves.stops (h : Moves m p c n n' f) (hs : n.stops i = true) : n'.stops i = true := by
  cases h with
  | group h =>
    simp only [Node.stops] at hs ⊢
    simp only [Gathered.hear]
    split
    · simp [Gathered.add, hs]
    · exact hs
  | required h => simp_all [Node.stops]
  | limit h => simp_all [Node.stops]
  | expire => rfl
  | _ => exact hs

/-- A move below a path is a move of the node there. -/
theorem Moves.of_append {r : Path} (h : Moves m (q ++ r) c n n' f) : ∃ k k' f', n.at? q = some k ∧
    n'.at? q = some k' ∧ Moves m r (n.sees q c) k k' f' := by
  induction q generalizing c n n' f with
  | nil => exact ⟨n, n', f, rfl, rfl, h⟩
  | cons i q ih =>
    obtain ⟨b, b', f', hb, hm, hset, -⟩ := h.branch
    obtain ⟨k, k', f'', hk, hk', hmove⟩ := ih hm
    have hb' : n'.branches[i]? = some b' := by
      rw [hset, List.getElem?_set_self (List.getElem?_eq_some_iff.1 hb).1]
    refine ⟨k, k', f'', at?_cons_eq_some.2 ⟨b, hb, hk⟩, at?_cons_eq_some.2 ⟨b', hb', hk'⟩, ?_⟩
    rwa [sees_cons hb]

/-- A move of a tree leaves the node at a path as it was or is a move of that node. -/
theorem Moves.at? {k' : Node} (h : Moves m p c n n' f) (hk : n'.at? q = some k') :
    ∃ k, n.at? q = some k ∧
      (k' = k ∨ ∃ r f', p = q ++ r ∧ Moves m r (n.sees q c) k k' f') := by
  induction q generalizing p c n n' f with
  | nil => cases hk; exact ⟨n, rfl, .inr ⟨p, f, rfl, h⟩⟩
  | cons j q ih =>
    obtain ⟨b', hb', hk⟩ := at?_cons_eq_some.1 hk
    cases p with
    | nil => rw [h.branches_eq] at hb'; exact ⟨k', at?_cons_eq_some.2 ⟨b', hb', hk⟩, .inl rfl⟩
    | cons i p =>
      obtain ⟨b, b₁, f', hb, hm, hset, -⟩ := h.branch
      rw [hset] at hb'
      by_cases hij : i = j
      · subst hij
        have hlt : i < n.branches.length := (List.getElem?_eq_some_iff.1 hb).1
        obtain rfl : b₁ = b' := by simpa [List.getElem?_set, hlt] using hb'
        obtain ⟨k, hat, hkk⟩ := ih hm hk
        refine ⟨k, at?_cons_eq_some.2 ⟨b, hb, hat⟩, ?_⟩
        rcases hkk with rfl | ⟨r, f'', rfl, hmove⟩
        · exact .inl rfl
        · exact .inr ⟨r, f'', rfl, by rwa [sees_cons hb]⟩
      · rw [List.getElem?_set_ne hij] at hb'
        exact ⟨k', at?_cons_eq_some.2 ⟨b', hb', hk⟩, .inl rfl⟩

/-- A move of a tree leaves a branch as it was or is a move of that branch. -/
theorem Moves.branch_of_branch {b' : Node} (h : Moves m p c n n' f)
    (hb' : n'.branches[i]? = some b') : ∃ b, n.branches[i]? = some b ∧
      (b' = b ∨ ∃ r f', p = i :: r ∧ Moves m r (n.under c i) b b' f') := by
  obtain ⟨k, hk, hmove⟩ := h.at? (q := [i]) (at?_cons_eq_some.2 ⟨b', hb', rfl⟩)
  obtain ⟨b, hb, hk⟩ := at?_cons_eq_some.1 hk
  cases hk
  rw [sees_cons hb] at hmove
  exact ⟨k, hb, hmove⟩

theorem Moves.exists_at? {k : Node} (h : Moves m p c n n' f) (hk : n.at? q = some k) :
    ∃ k', n'.at? q = some k' := by
  induction q generalizing p c n n' f with
  | nil => exact ⟨n', rfl⟩
  | cons i q ih =>
    obtain ⟨b, hb, hk⟩ := at?_cons_eq_some.1 hk
    have hi : i < n'.branches.length := by
      rw [h.length_branches]
      exact (List.getElem?_eq_some_iff.1 hb).1
    have hb' := List.getElem?_eq_getElem hi
    obtain ⟨b₀, hb₀, hmove⟩ := h.branch_of_branch hb'
    obtain rfl : b₀ = b := Option.some.inj (hb₀.symm.trans hb)
    rcases hmove with heq | ⟨r, f', rfl, hm⟩
    · exact ⟨k, at?_cons_eq_some.2 ⟨_, hb', heq ▸ hk⟩⟩
    · obtain ⟨k', hk'⟩ := ih hm hk
      exact ⟨k', at?_cons_eq_some.2 ⟨_, hb', hk'⟩⟩

end SearchPlan.Node
