import Mathlib.Data.List.Induction
import SearchPlan.Proofs.Node.Branch

/-! Histories of a running tree: which node moved when, and what the world looked like then. Nothing
ties one moment to the next, so every sink, every caller and every clock is among the histories. A
branch has a history of its own in that of the tree. -/

namespace SearchPlan

structure Moment where
  context : Context
  path : Path
  move : Move

def Context.calm : Context := ⟨0, false, fun _ => false, fun _ => false⟩

namespace Node

variable {n n' k b : Node} {t : Moment} {ts us : List Moment} {f : Flow} {i : Nat} {q : Path}

def meet (n : Node) (t : Moment) : Option (Node × Flow) := n.step t.move t.path t.context

/-- The tree after a history, if every move in it can happen when its time has come. -/
def follow : List Moment → Node → Option Node
  | [], n => some n
  | t :: ts, n => (n.meet t).bind fun (n, _) => follow ts n

/-- What a history holds of its branch at position `i`. -/
def share (i : Nat) : List Moment → Node → List Moment
  | [], _ => []
  | t :: ts, n =>
    match n.meet t with
    | none => []
    | some (n', _) =>
      match t.path with
      | [] => share i ts n'
      | j :: p =>
        if j = i then ⟨n.under t.context i, p, t.move⟩ :: share i ts n' else share i ts n'

/-- What a history hands over to the sink, with the senders. -/
def sent : List Moment → Node → List (Path × Batch)
  | [], _ => []
  | t :: ts, n =>
    match n.meet t with
    | none => []
    | some (n', f) => (t.path, f.batch) :: sent ts n'

def handed (q : Path) (ts : List Moment) (n : Node) : List Match :=
  ((n.sent ts).filter (·.1 = q)).flatMap (·.2)

theorem meet_eq_some : n.meet t = some (n', f) ↔ Moves t.move t.path t.context n n' f :=
  step_eq_some

theorem follow_cons_eq_some : n.follow (t :: ts) = some n' ↔
    ∃ k f, n.meet t = some (k, f) ∧ k.follow ts = some n' := by
  simp only [follow, Option.bind_eq_some_iff, Prod.exists]

theorem follow_append (ts us : List Moment) (n : Node) :
    n.follow (ts ++ us) = (n.follow ts).bind (follow us) := by
  induction ts generalizing n with
  | nil => rfl
  | cons t ts ih =>
    simp only [List.cons_append, follow]
    cases n.meet t with
    | none => rfl
    | some k => exact ih k.1

theorem follow_concat (h : n.follow ts = some k) (ht : k.meet t = some (n', f)) :
    n.follow (ts ++ [t]) = some n' := by
  rw [follow_append, h]
  exact follow_cons_eq_some.2 ⟨n', f, ht, rfl⟩

theorem sent_append (h : n.follow ts = some k) (us : List Moment) :
    n.sent (ts ++ us) = n.sent ts ++ k.sent us := by
  induction ts generalizing n with
  | nil => cases h; rfl
  | cons t ts ih =>
    obtain ⟨n₁, f, ht, h⟩ := follow_cons_eq_some.1 h
    simp only [List.cons_append, sent, ht, ih h]

/-- What holds at the start and is kept by every move holds after every history. -/
theorem follow_induction {motive : List Moment → Node → Prop} (start : motive [] n)
    (move : ∀ ts t k k' f, n.follow ts = some k → motive ts k →
      Moves t.move t.path t.context k k' f → motive (ts ++ [t]) k')
    (h : n.follow ts = some n') : motive ts n' := by
  induction ts using List.reverseRecOn generalizing n' with
  | nil => cases h; exact start
  | append_singleton ts t ih =>
    rw [follow_append, Option.bind_eq_some_iff] at h
    obtain ⟨k, hk, h⟩ := h
    obtain ⟨k', f, ht, h⟩ := follow_cons_eq_some.1 h
    cases h
    exact move ts t k n' f hk (ih hk) (meet_eq_some.1 ht)

theorem length_branches_of_follow (h : n.follow ts = some n') :
    n'.branches.length = n.branches.length :=
  follow_induction (motive := fun _ k => k.branches.length = n.branches.length) rfl
    (fun _ _ _ _ _ _ ih hm => hm.length_branches.trans ih) h

theorem stops_of_follow (h : n.follow ts = some n') (hs : n.stops i = true) : n'.stops i = true :=
  follow_induction (motive := fun _ k => k.stops i = true) hs
    (fun _ _ _ _ _ _ ih hm => hm.stops ih) h

/-- The first moment of a history is one of the branch, or passes it by. -/
theorem share_cons (ht : n.meet t = some (k, f)) (hb : n.branches[i]? = some b)
    (ts : List Moment) :
    (∃ p b' f', t.path = i :: p ∧ k.branches[i]? = some b' ∧
      b.meet ⟨n.under t.context i, p, t.move⟩ = some (b', f') ∧
      n.share i (t :: ts) = ⟨n.under t.context i, p, t.move⟩ :: k.share i ts ∧
      f.batch <+: f'.batch.filter n.lets ∧ (k.cuts = false → f.batch = f'.batch.filter n.lets)) ∨
    (∀ p, t.path ≠ i :: p) ∧ k.branches[i]? = some b ∧ n.share i (t :: ts) = k.share i ts := by
  obtain ⟨c, p, m⟩ := t
  have hm := meet_eq_some.1 ht
  cases p with
  | nil => exact .inr ⟨nofun, by rwa [hm.branches_eq], by simp only [share, ht]⟩
  | cons j p =>
    obtain ⟨a, a', f', ha, hma, hset, -, hf⟩ := hm.branch
    by_cases hji : j = i
    · subst hji
      have hlt := (List.getElem?_eq_some_iff.1 hb).1
      obtain rfl : a = b := Option.some.inj (ha.symm.trans hb)
      refine .inl ⟨p, a', f', rfl, ?_, meet_eq_some.2 hma, by simp only [share, ht, if_true], hf⟩
      rw [hset, List.getElem?_set_self hlt]
    · refine .inr ⟨fun q hq => hji (List.cons.inj hq).1, ?_, ?_⟩
      · rwa [hset, List.getElem?_set_ne hji]
      · simp only [share, ht, hji, if_false]

/-- A branch follows its share of the history of the tree. -/
theorem follow_share (h : n.follow ts = some n') (hb : n.branches[i]? = some b) :
    ∃ b', n'.branches[i]? = some b' ∧ b.follow (n.share i ts) = some b' := by
  induction ts generalizing n b with
  | nil => cases h; exact ⟨b, hb, rfl⟩
  | cons t ts ih =>
    obtain ⟨k, f, ht, hk⟩ := follow_cons_eq_some.1 h
    rcases share_cons ht hb ts with ⟨p, a, f', -, ha, hma, hshare, -⟩ | ⟨-, ha, hshare⟩
    · obtain ⟨b', hb', hf⟩ := ih hk ha
      rw [hshare]
      exact ⟨b', hb', follow_cons_eq_some.2 ⟨a, f', hma, hf⟩⟩
    · rw [hshare]
      exact ih hk ha

theorem handed_cons (h : n.meet t = some (k, f)) (q : Path) (ts : List Moment) :
    n.handed q (t :: ts) = (if t.path = q then f.batch else []) ++ k.handed q ts := by
  simp only [handed, sent, h, List.filter_cons, decide_eq_true_eq]
  split <;> simp

theorem handed_append (h : n.follow ts = some k) (q : Path) (us : List Moment) :
    n.handed q (ts ++ us) = n.handed q ts ++ k.handed q us := by
  simp only [handed, sent_append h, List.filter_append, List.flatMap_append]

theorem cuts_of_follow (h : n.follow ts = some n') (hc : n.cuts = true) : n'.cuts = true :=
  follow_induction (motive := fun _ k => k.cuts = true) hc (fun _ _ _ _ _ _ ih hm => hm.cuts ih) h

/-- A place from which no move hands anything over, as long as something holds that every move
keeps. -/
theorem handed_eq_nil {P : Node → Prop} (h : n.follow ts = some n') (hn : P n)
    (kept : ∀ {m p c k k' f}, Moves m p c k k' f → P k → P k')
    (silent : ∀ {m c k k' f}, Moves m q c k k' f → P k → f.batch = []) : n.handed q ts = [] := by
  induction ts generalizing n with
  | nil => rfl
  | cons t ts ih =>
    obtain ⟨k, f, ht, hk⟩ := follow_cons_eq_some.1 h
    have hm := meet_eq_some.1 ht
    rw [handed_cons ht, ih hk (kept hm hn), List.append_nil]
    split
    case isTrue hq =>
      rw [hq] at hm
      exact silent hm hn
    case isFalse => rfl

theorem handed_of_cuts (h : n.follow ts = some n') (hc : n.cuts = true) (q : Path) :
    n.handed q ts = [] :=
  handed_eq_nil (P := fun k => k.cuts = true) h hc (fun hm => hm.cuts) fun hm => hm.batch_of_cuts

/-- A node that has cut nothing has handed over what its branches have, but for what it denies. -/
theorem handed_share (h : n.follow ts = some n') (hc : n'.cuts = false)
    (hb : n.branches[i]? = some b) (q : Path) :
    n.handed (i :: q) ts = (b.handed q (n.share i ts)).filter n.lets := by
  induction ts generalizing n b with
  | nil => rfl
  | cons t ts ih =>
    obtain ⟨k, f, ht, hk⟩ := follow_cons_eq_some.1 h
    have hkc : k.cuts = false := by
      rw [Bool.eq_false_iff]
      intro hkc
      simp [cuts_of_follow hk hkc] at hc
    rw [handed_cons ht, ← (meet_eq_some.1 ht).lets]
    rcases share_cons ht hb ts with ⟨p, a, f', hp, ha, hma, hshare, -, hf⟩ | ⟨hp, ha, hshare⟩
    · rw [hshare, handed_cons hma, ih hk ha, List.filter_append, (meet_eq_some.1 ht).lets, hf hkc,
        hp]
      simp only [List.cons.injEq, true_and]
      split <;> rfl
    · rw [hshare, ih hk ha, if_neg (hp q), List.nil_append]

/-- Whatever a node has cut, it has handed over the first of what a branch has, but for what it
denies. -/
theorem prefix_handed_share (h : n.follow ts = some n') (hb : n.branches[i]? = some b) (q : Path) :
    n.handed (i :: q) ts <+: (b.handed q (n.share i ts)).filter n.lets := by
  induction ts generalizing n b with
  | nil => exact List.nil_prefix
  | cons t ts ih =>
    obtain ⟨k, f, ht, hk⟩ := follow_cons_eq_some.1 h
    rw [handed_cons ht]
    rcases share_cons ht hb ts with ⟨p, a, f', hp, ha, hma, hshare, hfirst, hf⟩ | ⟨hp, ha, hshare⟩
    · have hrest := ih hk ha
      rw [(meet_eq_some.1 ht).lets] at hrest
      rw [hshare, handed_cons hma, List.filter_append, hp]
      simp only [List.cons.injEq, true_and]
      split
      case isFalse => exact hrest
      case isTrue =>
        -- what comes after a batch that was cut is lost, so that no gap is left
        cases hkc : k.cuts with
        | false =>
          rw [hf hkc]
          exact (List.prefix_append_right_inj _).2 hrest
        | true =>
          rw [handed_of_cuts hk hkc, List.append_nil]
          exact hfirst.trans (List.prefix_append _ _)
    · rw [hshare, if_neg (hp q), List.nil_append, ← (meet_eq_some.1 ht).lets]
      exact ih hk ha

/-- A branch that was never told to stop sees its token fired only with the token of the tree. -/
theorem not_fired_share (h : n.follow ts = some n') (hs : n'.stops i = false)
    (hts : ∀ t ∈ ts, t.context.fired = false) : ∀ t ∈ n.share i ts, t.context.fired = false := by
  induction ts generalizing n with
  | nil => simp [share]
  | cons t ts ih =>
    have hn : n.stops i = false := by
      rw [Bool.eq_false_iff]
      intro hn
      simp [stops_of_follow h hn] at hs
    obtain ⟨c, p, m⟩ := t
    obtain ⟨k, f, ht, hk⟩ := follow_cons_eq_some.1 h
    have hshare := ih hk (List.forall_mem_cons.1 hts).2
    simp only [share, ht]
    split
    · exact hshare
    · split
      · exact List.forall_mem_cons.2 ⟨under_live (List.forall_mem_cons.1 hts).1 hn, hshare⟩
      · exact hshare

theorem exists_follow_share (h : n.follow ts = some n') (hb : n'.branches[i]? = some b) :
    ∃ a, n.branches[i]? = some a ∧ a.follow (n.share i ts) = some b := by
  have hi := (List.getElem?_eq_some_iff.1 hb).1
  rw [length_branches_of_follow h] at hi
  have ha := List.getElem?_eq_getElem hi
  obtain ⟨b', hb', hf⟩ := follow_share h ha
  obtain rfl : b' = b := Option.some.inj (hb'.symm.trans hb)
  exact ⟨_, ha, hf⟩

end Node

end SearchPlan
