import SearchPlan.Proofs.Node.Next
import SearchPlan.Proofs.Node.Outcome
import SearchPlan.Proofs.Node.Passage

/-! Sends on their way to the sink of a tree. A sender that has to wait stays at its place in the
tree until it goes on, and its matches have got through only then. -/

namespace SearchPlan

/-- The matches that a sink has taken, and the batches whose senders wait for room in it. -/
structure Transit where
  taken : List Match := []
  waiting : List (Path × Batch) := []

namespace Transit

def accept (p : Path) (x : Transit) : Flow → Transit
  | .quiet => x
  | .handed b false => { x with taken := x.taken ++ b }
  | .handed b true => { x with waiting := x.waiting ++ [(p, b)] }
  | .resumed =>
    { taken := x.taken ++ (x.waiting.filter (·.1 = p)).flatMap (·.2)
      waiting := x.waiting.filter (·.1 ≠ p) }

def all (x : Transit) : List Match := x.taken ++ x.waiting.flatMap (·.2)

theorem all_accept (p : Path) (x : Transit) (f : Flow) :
    (x.accept p f).all.Perm (x.all ++ f.batch) := by
  cases f with
  | quiet => exact .of_eq (List.append_nil x.all).symm
  | handed b waits =>
    cases waits with
    | false =>
      simp only [accept, all, Flow.batch, List.append_assoc]
      exact List.perm_append_comm.append_left _
    | true => simp [accept, all, Flow.batch]
  | resumed =>
    have hsplit : (x.waiting.filter (·.1 = p) ++ x.waiting.filter (·.1 ≠ p)).Perm x.waiting := by
      simpa using List.filter_append_perm (fun y : Path × Batch => decide (y.1 = p)) x.waiting
    have hall := (hsplit.flatMap_right (·.2)).append_left x.taken
    simpa [accept, all, Flow.batch, List.flatMap_append] using hall

end Transit

namespace Node

variable {n n' b : Node} {c : Context} {m : Move} {p q : Path} {f : Flow} {i : Nat} {x : Batch}
  {ts : List Moment}

theorem not_waits_of_ended (h : n.outcome?.isSome) (q : Path) : ¬n.Waits q := by
  rintro ⟨s, size, rest, pr, hq⟩
  have hended := ended_at? h hq
  cases hended

theorem handed_of_passes (h : n.passes f = .handed x true) : ∃ y, f = .handed y true := by
  cases n with
  | limit quota k stopped fired =>
    cases f with
    | handed y waits =>
      simp only [passes, Quota.pass] at h
      split at h <;> cases h
      exact ⟨y, rfl⟩
    | _ => cases h
  | filter allows k =>
    cases f with
    | handed y waits =>
      simp only [passes, Flow.filter] at h
      split at h <;> cases h
      exact ⟨y, rfl⟩
    | _ => cases h
  | _ => exact ⟨x, h⟩

@[simp] theorem passes_quiet (n : Node) : n.passes .quiet = .quiet := by
  cases n <;> rfl

@[simp] theorem passes_resumed (n : Node) : n.passes .resumed = .resumed := by
  cases n <;> rfl

theorem Moves.waits_of_handed (h : Moves m p c n n' (.handed x true)) : n'.Waits p := by
  induction p generalizing c n n' x with
  | nil =>
    cases h with
    | leaf h =>
      cases h
      exact ⟨_, _, _, _, rfl⟩
  | cons i p ih =>
    obtain ⟨b, b', f, hb, hm, hset, hf, -⟩ := h.branch
    obtain ⟨y, rfl⟩ := handed_of_passes hf.symm
    apply (ih hm).cons
    rw [hset, List.getElem?_set_self (List.getElem?_eq_some_iff.1 hb).1]

/-- A sender waits until it goes on, and everything above it sees it go on. -/
theorem Moves.waits_or_resumed (h : Moves m p c n n' f) (hw : n.Waits q) :
    n'.Waits q ∨ p = q ∧ f = .resumed := by
  induction q generalizing p c n n' f with
  | nil =>
    obtain ⟨s, size, rest, pr, hq⟩ := hw
    cases hq
    cases h with
    | leaf h =>
      cases h
      exact .inr ⟨rfl, rfl⟩
  | cons j q ih =>
    obtain ⟨b, hb, hw⟩ := hw.of_cons
    cases p with
    | nil =>
      left
      apply hw.cons
      rw [h.branches_eq, hb]
    | cons i p =>
      obtain ⟨a, a', f', ha, hm, hset, hf, -⟩ := h.branch
      by_cases hij : i = j
      · subst hij
        obtain rfl : a = b := Option.some.inj (ha.symm.trans hb)
        rcases ih hm hw with hw | ⟨rfl, rfl⟩
        · left
          apply hw.cons
          rw [hset, List.getElem?_set_self (List.getElem?_eq_some_iff.1 ha).1]
        · exact .inr ⟨rfl, by rw [hf, passes_resumed]⟩
      · left
        apply hw.cons
        rw [hset, List.getElem?_set_ne hij, hb]

def transit : List Moment → Transit → Node → Transit
  | [], x, _ => x
  | t :: ts, x, n =>
    match n.meet t with
    | none => x
    | some (n', f) => transit ts (x.accept t.path f) n'

/-- The matches that have got through to the sink of the node at a path in a history of the tree. -/
def forwarded : Path → List Moment → Node → List Match
  | [], ts, n => (n.transit ts {}).taken
  | i :: q, ts, n =>
    match n.branches[i]? with
    | some b => b.forwarded q (n.share i ts)
    | none => []

theorem forwarded_cons (h : n.branches[i]? = some b) (q : Path) (ts : List Moment) :
    n.forwarded (i :: q) ts = b.forwarded q (n.share i ts) := by
  simp only [forwarded, h]

theorem all_transit (h : n.follow ts = some n') (x : Transit) :
    (n.transit ts x).all.Perm (x.all ++ n.hands [] ts) := by
  induction ts generalizing n x with
  | nil =>
    have hnone : n.hands [] [] = [] := rfl
    rw [transit, hnone, List.append_nil]
  | cons t ts ih =>
    obtain ⟨k, f, ht, hk⟩ := follow_cons_eq_some.1 h
    simp only [transit, ht]
    rw [hands_nil_cons ht, ← List.append_assoc]
    exact (ih hk _).trans ((Transit.all_accept t.path x f).append_right _)

theorem waits_of_transit {x : Transit} (h : n.follow ts = some n')
    (hx : ∀ y ∈ x.waiting, n.Waits y.1) : ∀ y ∈ (n.transit ts x).waiting, n'.Waits y.1 := by
  induction ts generalizing n x with
  | nil =>
    cases h
    exact hx
  | cons t ts ih =>
    obtain ⟨k, f, ht, hk⟩ := follow_cons_eq_some.1 h
    have hm := meet_eq_some.1 ht
    have hstay (hf : f ≠ .resumed) (y : Path × Batch) (hy : y ∈ x.waiting) : k.Waits y.1 :=
      (hm.waits_or_resumed (hx y hy)).resolve_right fun ⟨_, h⟩ => hf h
    simp only [transit, ht]
    apply ih hk
    intro y hy
    cases f with
    | quiet => exact hstay nofun y hy
    | handed z waits =>
      cases waits with
      | false => exact hstay nofun y hy
      | true =>
        rcases List.mem_append.1 hy with hy | hy
        · exact hstay nofun y hy
        · rw [List.mem_singleton.1 hy]
          exact hm.waits_of_handed
    | resumed =>
      obtain ⟨hy, hne⟩ := List.mem_filter.1 hy
      refine (hm.waits_or_resumed (hx y hy)).resolve_right ?_
      rintro ⟨hp, -⟩
      simp [hp] at hne

/-- What has got through is what was handed over, but for what is still on its way. -/
theorem length_forwarded (h : n.follow ts = some n') :
    (n.forwarded [] ts).length ≤ (n.hands [] ts).length ∧
      ((∀ q, ¬n'.Waits q) → (n.forwarded [] ts).length = (n.hands [] ts).length) := by
  have hlen := (all_transit h {}).length_eq
  simp only [Transit.all, List.flatMap_nil, List.append_nil, List.length_append, List.length_nil,
    Nat.zero_add] at hlen
  refine ⟨Nat.le.intro hlen, ?_⟩
  intro hfree
  have hnone : (n.transit ts {}).waiting = [] := by
    apply List.eq_nil_iff_forall_not_mem.2
    intro y hy
    exact hfree _ (waits_of_transit h (x := {}) nofun y hy)
  rw [hnone] at hlen
  exact hlen

end Node

end SearchPlan
