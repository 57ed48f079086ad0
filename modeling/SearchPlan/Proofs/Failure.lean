import SearchPlan.Proofs.Node.Outcome
import SearchPlan.Proofs.Node.Script

/-! Where failures come from. A job that fails has a branch that failed, down to a script that did,
and the alert of that script stays with it on the way up. -/

namespace SearchPlan

def Ending.Fails : Ending → Prop
  | .finished status => status = .failure
  | .failed _ => True

/-- The alert that a script raises if it fails on its own account. -/
def Script.complaint (s : Script) : Option Alert :=
  match s.ending with
  | .finished .failure => some (.branchFailed s.name s!"{s.name} reported failure")
  | .finished _ => none
  | .failed e => some (.branchFailed s.name e.message)

/-- A script whose token has fired does not complain. -/
theorem Script.sublist_complaint (s : Script) (fired : Bool) :
    (s.ending.outcome s.name fired).alerts.Sublist s.complaint.toList := by
  rw [complaint]
  cases s.ending with
  | finished status => cases status <;> cases fired <;> simp [Ending.outcome, Outcome.alerts]
  | failed e => cases fired <;> simp [Ending.outcome, Outcome.alerts]

theorem Ending.of_failure {e : Ending} {name : String} {fired : Bool} {as : List Alert}
    (h : e.outcome name fired = .done ⟨.failure, as⟩) :
    fired = false ∧ e.Fails ∧ ∃ message, .branchFailed name message ∈ as := by
  cases e with
  | finished status =>
    cases status <;> cases fired <;> cases h
    exact ⟨rfl, rfl, _, List.mem_singleton_self _⟩
  | failed e =>
    cases fired <;> cases h
    exact ⟨rfl, trivial, _, List.mem_singleton_self _⟩

theorem Phase.Upto.of_failure {s : Script} {ph : Phase} {pr : Probe} {taken : List Step}
    {as : List Alert} (h : Upto s ph pr taken)
    (ho : ph.outcome? s.name = some (.done ⟨.failure, as⟩)) :
    ph = .returned s.ending false ∧ pr.runs = 1 ∧ s.ending.Fails ∧
      ∃ message, .branchFailed s.name message ∈ as := by
  cases h with
  | finished _ hpr =>
    obtain ⟨rfl, hfails, hmem⟩ := Ending.of_failure (Option.some.inj ho)
    exact ⟨rfl, by rw [hpr]; rfl, hfails, hmem⟩
  | stopped => simp [outcome?, Ending.outcome] at ho
  | _ => cases ho

/-- A group whose branches are all done, none of them decisive, fails only if all of them do. -/
theorem Mode.eq_failure_of_verdict {mode : Mode} {sts : List Status} {st : Status}
    (h : mode.verdict sts = .failure) (hsts : ∀ st ∈ sts, mode.decisive ≠ some st)
    (hst : st ∈ sts) : st = .failure := by
  cases mode with
  | and =>
    simp only [verdict] at h
    split at h <;> cases h
  | or =>
    cases st with
    | success => exact absurd rfl (hsts _ hst)
    | partialSuccess => simp [verdict, hst] at h
    | failure => rfl
  | parallel =>
    simp only [verdict] at h
    split at h
    case isTrue => cases h
    case isFalse =>
      split at h
      case isTrue => cases h
      case isFalse hnone =>
        cases st with
        | failure => rfl
        | _ => exact absurd (List.any_eq_true.2 ⟨_, hst, rfl⟩) hnone

theorem Gathered.Heard.exists_failure {mode : Mode} {ns : List Node} {g : Gathered}
    {as : List Alert} (h : g.Heard mode ns) (hne : ns ≠ []) (hended : ∀ n ∈ ns, n.outcome?.isSome)
    (ho : g.outcome mode = .done ⟨.failure, as⟩) : ∃ n ∈ ns, n.Reports .failure := by
  cases hd : g.decision with
  | some st =>
    obtain ⟨-, hreports⟩ := h.knows.decided st hd
    simp only [outcome, hd, Outcome.done.injEq, Execution.mk.injEq] at ho
    rwa [ho.1] at hreports
  | none =>
    simp only [outcome, hd] at ho
    split at ho
    case isTrue => cases ho
    case isFalse hinterrupted =>
      simp only [Outcome.done.injEq, Execution.mk.injEq] at ho
      obtain ⟨n, hn⟩ := List.exists_mem_of_ne_nil ns hne
      obtain ⟨o, hno⟩ := Option.isSome_iff_exists.1 (hended n hn)
      cases o with
      | cancelled as' => exact absurd ((h.knows.interrupted hd).2 ⟨n, hn, as', hno⟩) hinterrupted
      | done e =>
        have hreports : ∃ n ∈ ns, n.Reports e.status := ⟨n, hn, e.alerts, hno⟩
        have hfailure := Mode.eq_failure_of_verdict ho.1
          (fun st hst => h.knows.undecided hd st ((h.knows.statuses hd st).1 hst))
          ((h.knows.statuses hd _).2 hreports)
        exact ⟨n, hn, e.alerts, by rw [hno, ← hfailure]⟩

namespace Node

variable {p : Plan} {n k b : Node} {q r : Path} {as : List Alert} {i : Nat}

/-- A script below the node was started, failed on its own account, and is blamed in the alerts. -/
def Blames (n : Node) (as : List Alert) : Prop :=
  ∃ q s pr message, n.at? q = some (.leaf s (.returned s.ending false) pr) ∧ pr.runs = 1 ∧
    s.ending.Fails ∧ .branchFailed s.name message ∈ as

theorem Blames.of_branch {as' : List Alert} (hb : n.branches[i]? = some b) (h : b.Blames as')
    (hsub : as' ⊆ as) : n.Blames as := by
  obtain ⟨q, s, pr, message, hq, hpr, hfails, hmem⟩ := h
  exact ⟨i :: q, s, pr, message, at?_cons_eq_some.2 ⟨b, hb, hq⟩, hpr, hfails, hsub hmem⟩

theorem Reached.blames_of_leaf {s : Script} {ph : Phase} {pr : Probe}
    (h : Reached p (.leaf s ph pr))
    (ho : (leaf s ph pr).outcome? = some (.done ⟨.failure, as⟩)) : (leaf s ph pr).Blames as := by
  have hdoes := h.does
  cases p with
  | leaf s' =>
    obtain rfl : s = s' := hdoes
    obtain ⟨ts, h⟩ := h
    obtain ⟨ph', pr', hn, hupto, -⟩ := upto_of_follow h
    cases hn
    obtain ⟨rfl, hpr, hfails, message, hmem⟩ := hupto.of_failure ho
    exact ⟨[], s, pr, message, rfl, hpr, hfails, hmem⟩
  | _ => cases hdoes

theorem Reached.branches_ne_nil {mode : Mode} {ns : List Node} {g : Gathered}
    (h : Reached p (.group mode ns g)) : ns ≠ [] := by
  have hdoes := h.does
  cases p with
  | group mode' first rest =>
    obtain ⟨ts, h⟩ := h
    have hlen := length_branches_of_follow h
    rw [branches_ofPlan, List.length_map] at hlen
    exact List.ne_nil_of_length_pos (by rw [branches] at hlen; simp [hlen, Plan.children])
  | _ => cases hdoes

theorem of_timed_failure {child : String} {d : Duration} {expired fired : Bool} {bo : Outcome}
    (h : timed child d expired fired bo = .done ⟨.failure, as⟩) : bo = .done ⟨.failure, as⟩ := by
  cases expired with
  | false => exact h
  | true => cases fired <;> cases h

theorem of_capped_failure {child : String} {quota : Quota} {fired : Bool} {bo : Outcome}
    (h : capped child quota fired bo = .done ⟨.failure, as⟩) :
    ∃ as', bo = .done ⟨.failure, as'⟩ ∧ as' ⊆ as := by
  have hsub := (sublist_capped child quota fired bo).subset
  rw [h] at hsub
  simp only [capped] at h
  split at h
  case isTrue => exact ⟨as, h, List.Subset.refl _⟩
  case isFalse =>
    cases bo with
    | cancelled as' => cases h
    | done e =>
      obtain ⟨st, as'⟩ := e
      cases st with
      | failure => exact ⟨as', rfl, hsub⟩
      | _ => cases ht : quota.truncated <;> simp_all

/-- A job that fails has a branch that failed, and keeps its alerts. -/
theorem Reached.branch_of_failure (h : Reached p n) (hn : n.branches ≠ [])
    (ho : n.outcome? = some (.done ⟨.failure, as⟩)) :
    ∃ (i : Nat) (b : Node) (as' : List Alert), n.branches[i]? = some b ∧
      b.outcome? = some (.done ⟨.failure, as'⟩) ∧ as' ⊆ as := by
  cases n with
  | leaf => exact absurd rfl hn
  | noop => exact absurd rfl hn
  | group mode ns g =>
    have hperm := alerts_of_group h ho
    simp only [outcome?] at ho
    split at ho
    case isTrue hended =>
      obtain ⟨b, hb, as', hbo⟩ := h.heard.exists_failure h.branches_ne_nil
        (ended_eq_true.1 hended) (Option.some.inj ho)
      obtain ⟨i, hi⟩ := List.mem_iff_getElem?.1 hb
      refine ⟨i, b, as', hi, hbo, ?_⟩
      intro a ha
      refine hperm.symm.subset (List.mem_flatMap.2 ⟨b, hb, ?_⟩)
      rwa [raised_eq hbo]
    case isFalse => cases ho
  | priority r k dropped =>
    simp only [outcome?] at ho
    split at ho
    case h_1 ro ko hro hko =>
      obtain ⟨⟨st, as'⟩, rfl, rfl, hsub⟩ := of_preferred_done (Option.some.inj ho)
      exact ⟨0, r, as', rfl, hro, hsub⟩
    case h_2 => cases ho
  | timeout d k expired fired =>
    obtain ⟨bo, hbo, ho⟩ := Option.map_eq_some_iff.1 ho
    rw [of_timed_failure ho] at hbo
    exact ⟨0, k, as, rfl, hbo, List.Subset.refl _⟩
  | limit quota k stopped fired =>
    obtain ⟨bo, hbo, ho⟩ := Option.map_eq_some_iff.1 ho
    obtain ⟨as', rfl, hsub⟩ := of_capped_failure ho
    exact ⟨0, k, as', rfl, hbo, hsub⟩
  | filter allows k => exact ⟨0, k, as, rfl, ho, List.Subset.refl _⟩

theorem Reached.blames (h : Reached p n) (ho : n.outcome? = some (.done ⟨.failure, as⟩)) :
    n.Blames as := by
  induction n using branch_induction generalizing p as with
  | step n ih =>
    by_cases hn : n.branches = []
    · cases n with
      | leaf s ph pr => exact h.blames_of_leaf ho
      | noop seen => cases seen <;> cases ho
      | group => exact absurd hn h.branches_ne_nil
      | _ => cases hn
    · obtain ⟨i, b, as', hb, hbo, hsub⟩ := h.branch_of_failure hn ho
      obtain ⟨p', -, hp'⟩ := h.branch hb
      exact (ih b (List.mem_of_getElem? hb) hp' hbo).of_branch hb hsub

/-- Whatever stops the scripts of a plan, a job of it fails only if a script below the job has
failed on its own account, and then says so. If no script has, the whole plan does not fail. -/
theorem Reached.failure_has_cause (h : Reached p n) :
    (∀ q k as, n.at? q = some k → k.outcome? = some (.done ⟨.failure, as⟩) → k.Blames as) ∧
    (∀ o, n.outcome? = some o →
      (∀ q s e fired pr, n.at? q = some (.leaf s (.returned e fired) pr) → ¬e.Fails) →
      (o.execution n.name).status = .success ∨ (o.execution n.name).status = .partialSuccess) := by
  refine ⟨?_, ?_⟩
  · intro q k as hk ho
    obtain ⟨p', -, hp'⟩ := h.at? hk
    exact hp'.blames ho
  · intro o ho hnone
    cases o with
    | cancelled as => exact .inr rfl
    | done e =>
      obtain ⟨st, as⟩ := e
      cases st with
      | success => exact .inl rfl
      | partialSuccess => exact .inr rfl
      | failure =>
        obtain ⟨q, s, pr, message, hq, -, hfails, -⟩ := h.blames ho
        exact absurd hfails (hnone q s _ _ pr hq)

end Node

/-! All branches of a choice fail: one gives an error, and one is stopped in the middle by the
failure of its sibling. -/

namespace Broken

def remote : Script := { name := "remote", failure := some (.unavailable "remote") }

def bad : Script := { name := "bad", status := .failure }

def slow : Script := { name := "slow", steps := [.sleep (.ofMillis 5), .emit [.ofRepo "a"]] }

def plan : Plan :=
  .group .or (.leaf remote) [.timeout (.ofMillis 9) (.group .and (.leaf bad) [.leaf slow])]

def moments : List Moment :=
  [⟨.calm, [1, 0, 1], .act⟩, ⟨.calm, [1, 0, 1], .act⟩, ⟨.calm, [0], .act⟩, ⟨.calm, [0], .act⟩,
    ⟨.calm, [1, 0, 0], .act⟩, ⟨.calm, [1, 0, 0], .act⟩, ⟨.calm, [1, 0, 1], .halt⟩]

def tree : Node := .group .or
  [.leaf remote (.returned (.failed (.unavailable "remote")) false) { runs := 1 },
    .timeout (.ofMillis 9)
      (.group .and
        [.leaf bad (.returned (.finished .failure) false) { runs := 1 },
          .leaf slow (.returned (.finished .partialSuccess) true) { runs := 1, stopped := true }]
        { alerts := [.branchFailed "bad" "bad reported failure"], decision := some .failure })
      false false]
  { alerts := [.branchFailed "remote" "Job remote backend unavailable",
      .branchFailed "bad" "bad reported failure"]
    statuses := [.failure, .failure] }

theorem tree_blames : (Node.ofPlan plan).follow moments = some tree ∧
    tree.Blames [.branchFailed "remote" "Job remote backend unavailable",
      .branchFailed "bad" "bad reported failure"] := by
  have hfollow : (Node.ofPlan plan).follow moments = some tree := rfl
  exact ⟨hfollow, (Node.Reached.failure_has_cause ⟨moments, hfollow⟩).1 [] tree _ rfl rfl⟩

end Broken

end SearchPlan
