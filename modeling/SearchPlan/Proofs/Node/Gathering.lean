import SearchPlan.Proofs.Node.Reach

/-! What a group knows of its branches: exactly how those that have ended have ended, until it has
decided, and all of their alerts also after that. -/

namespace SearchPlan

namespace Node

variable {c : Context} {m : Move} {p : Path} {f : Flow} {n n' : Node}

def raised (n : Node) : List Alert :=
  match n.outcome? with
  | some o => o.alerts
  | none => []

def Reports (st : Status) (n : Node) : Prop := ∃ as, n.outcome? = some (.done ⟨st, as⟩)

def GaveUp (n : Node) : Prop := ∃ as, n.outcome? = some (.cancelled as)

theorem raised_eq {o : Outcome} (h : n.outcome? = some o) : n.raised = o.alerts := by
  simp only [raised, h]

theorem raised_eq_nil (h : n.outcome? = none) : n.raised = [] := by
  simp only [raised, h]

theorem not_reports {st : Status} (h : n.outcome? = none) : ¬n.Reports st := by
  simp [Reports, h]

theorem not_gaveUp (h : n.outcome? = none) : ¬n.GaveUp := by
  simp [GaveUp, h]

theorem Reports.eq {st st' : Status} (h : n.Reports st) (h' : n.Reports st') : st = st' := by
  obtain ⟨as, h⟩ := h
  obtain ⟨as', h'⟩ := h'
  rw [h] at h'
  cases h'
  rfl

theorem preferred_done (optional : String) (dropped : Bool) (e : Execution) (o : Outcome) :
    ∃ as, preferred optional dropped (.done e) o = .done ⟨e.status, as⟩ := by
  simp only [preferred]
  split
  · exact ⟨_, rfl⟩
  · split <;> exact ⟨_, rfl⟩

end Node

namespace Gathered

variable {mode : Mode} {ms ns : List Node} {n n' : Node} {g : Gathered} {was : Status → Prop}
  {gaveUp : Prop}

/-- The group knows what the status of its branches `was` and whether one `gaveUp`. -/
structure Knows (mode : Mode) (was : Status → Prop) (gaveUp : Prop) (g : Gathered) : Prop where
  decided : ∀ st, g.decision = some st → mode.decisive = some st ∧ was st
  statuses : g.decision = none → ∀ st, st ∈ g.statuses ↔ was st
  undecided : g.decision = none → ∀ st, was st → mode.decisive ≠ some st
  interrupted : g.decision = none → (g.interrupted = true ↔ gaveUp)

theorem add_of_decided {st : Status} (hg : g.decision = some st) (mode : Mode) (o : Outcome) :
    g.add mode o = { g with alerts := g.alerts ++ o.alerts } := by
  simp [add, hg]

theorem add_cancelled (hg : g.decision = none) (mode : Mode) (as : List Alert) :
    g.add mode (.cancelled as) = { g with alerts := g.alerts ++ as, interrupted := true } := by
  simp [add, hg, Outcome.alerts]

theorem add_decisive (hg : g.decision = none) {e : Execution}
    (he : mode.decisive = some e.status) : g.add mode (.done e) =
      { g with alerts := g.alerts ++ e.alerts, decision := some e.status } := by
  simp [add, hg, he, Outcome.alerts]

theorem add_done (hg : g.decision = none) {e : Execution} (he : mode.decisive ≠ some e.status) :
    g.add mode (.done e) =
      { g with alerts := g.alerts ++ e.alerts, statuses := g.statuses ++ [e.status] } := by
  simp [add, hg, he, Outcome.alerts]

@[simp] theorem alerts_add (mode : Mode) (g : Gathered) (o : Outcome) :
    (g.add mode o).alerts = g.alerts ++ o.alerts := by
  simp only [add]
  split
  · rfl
  · split
    · rfl
    · split <;> rfl

theorem alerts_hear (mode : Mode) (g : Gathered) (n : Node) :
    (g.hear mode n.outcome?).alerts = g.alerts ++ n.raised := by
  cases h : n.outcome? with
  | none => rw [Node.raised_eq_nil h, List.append_nil]; rfl
  | some o => rw [Node.raised_eq h]; exact alerts_add mode g o

theorem Knows.cancelled (h : g.Knows mode was gaveUp) (as : List Alert) :
    (g.add mode (.cancelled as)).Knows mode was True := by
  cases hg : g.decision with
  | some st => rw [add_of_decided hg]; exact ⟨h.decided, by simp [hg], by simp [hg], by simp [hg]⟩
  | none => rw [add_cancelled hg]; exact ⟨h.decided, h.statuses, h.undecided, by simp⟩

theorem Knows.done (h : g.Knows mode was gaveUp) (e : Execution) :
    (g.add mode (.done e)).Knows mode (fun st => st = e.status ∨ was st) gaveUp := by
  cases hg : g.decision with
  | some st =>
    rw [add_of_decided hg]
    refine ⟨fun st hst => ?_, by simp [hg], by simp [hg], by simp [hg]⟩
    exact ⟨(h.decided st hst).1, .inr (h.decided st hst).2⟩
  | none =>
    by_cases he : mode.decisive = some e.status
    · rw [add_decisive hg he]
      refine ⟨fun st hst => ?_, by simp, by simp, by simp⟩
      obtain rfl : e.status = st := Option.some.inj hst
      exact ⟨he, .inl rfl⟩
    · rw [add_done hg he]
      refine ⟨by simp [hg], fun _ st => ?_, fun _ st hst => ?_, h.interrupted⟩
      · rw [List.mem_append, h.statuses hg, List.mem_singleton, or_comm]
      · rcases hst with rfl | hst
        · exact he
        · exact h.undecided hg st hst

/-- What the group has gathered is what its branches `ns` have come to. -/
structure Heard (mode : Mode) (ns : List Node) (g : Gathered) : Prop where
  alerts : g.alerts.Perm (ns.flatMap Node.raised)
  knows : g.Knows mode (fun st => ∃ n ∈ ns, n.Reports st) (∃ n ∈ ns, n.GaveUp)

theorem Heard.start (h : ∀ n ∈ ns, n.outcome? = none) : Heard mode ns {} := by
  have hr (st : Status) : ¬∃ n ∈ ns, n.Reports st := fun ⟨n, hn, hr⟩ => Node.not_reports (h n hn) hr
  have hg : ¬∃ n ∈ ns, n.GaveUp := fun ⟨n, hn, hg⟩ => Node.not_gaveUp (h n hn) hg
  have ha : ns.flatMap Node.raised = [] :=
    List.flatMap_eq_nil_iff.2 fun n hn => Node.raised_eq_nil (h n hn)
  exact ⟨by rw [ha], by simp, by simpa using hr, fun _ st h => absurd h (hr st), by simpa using hg⟩

theorem exists_mem_middle {P : Node → Prop} :
    (∃ k ∈ ms ++ n :: ns, P k) ↔ P n ∨ ∃ k ∈ ms ++ ns, P k := by
  simp only [List.perm_middle.mem_iff, List.mem_cons, or_and_right, exists_or, exists_eq_left]

theorem exists_mem_replace {P : Node → Prop} (n' : Node) (hn : ¬P n) :
    (∃ k ∈ ms ++ n' :: ns, P k) ↔ P n' ∨ ∃ k ∈ ms ++ n :: ns, P k := by
  simp only [exists_mem_middle, hn, false_or]

theorem Heard.alerts_hear (h : g.Heard mode (ms ++ n :: ns)) (hn : n.outcome? = none) :
    (g.hear mode n'.outcome?).alerts.Perm ((ms ++ n' :: ns).flatMap Node.raised) := by
  have hg := h.alerts
  simp only [Gathered.alerts_hear, List.flatMap_append, List.flatMap_cons, Node.raised_eq_nil hn,
    List.nil_append] at hg ⊢
  calc
    (g.alerts ++ n'.raised).Perm (n'.raised ++ g.alerts) := List.perm_append_comm
    List.Perm _ (n'.raised ++ (ms.flatMap Node.raised ++ ns.flatMap Node.raised)) :=
      hg.append_left _
    List.Perm _ (ms.flatMap Node.raised ++ (n'.raised ++ ns.flatMap Node.raised)) := by
      simpa only [List.append_assoc] using List.perm_append_comm.append_right _

theorem Heard.knows_hear (h : g.Heard mode (ms ++ n :: ns)) (hn : n.outcome? = none) :
    (g.hear mode n'.outcome?).Knows mode (fun st => ∃ k ∈ ms ++ n' :: ns, k.Reports st)
      (∃ k ∈ ms ++ n' :: ns, k.GaveUp) := by
  simp only [exists_mem_replace n' (Node.not_reports hn),
    exists_mem_replace n' (Node.not_gaveUp hn)]
  cases ho : n'.outcome? with
  | none => simpa only [hear, Node.not_reports ho, Node.not_gaveUp ho, false_or] using h.knows
  | some o =>
    cases o with
    | cancelled as =>
      have hr (st : Status) : ¬n'.Reports st := by simp [Node.Reports, ho]
      have hg : n'.GaveUp := ⟨as, ho⟩
      simpa only [hear, hr, hg, false_or, true_or] using h.knows.cancelled as
    | done e =>
      have hr (st : Status) : n'.Reports st ↔ st = e.status := by
        constructor
        · rintro ⟨as, h⟩
          rw [ho] at h
          cases h
          rfl
        · rintro rfl
          exact ⟨e.alerts, ho⟩
      have hg : ¬n'.GaveUp := by simp [Node.GaveUp, ho]
      simpa only [hear, hr, hg, false_or] using h.knows.done e

/-- A group that hears of each of its branches as it ends knows how they have ended. -/
theorem Heard.hear (h : g.Heard mode (ms ++ n :: ns)) (hn : n.outcome? = none) :
    (g.hear mode n'.outcome?).Heard mode (ms ++ n' :: ns) :=
  ⟨h.alerts_hear hn, h.knows_hear hn⟩

end Gathered

theorem Node.Moves.heard {mode : Mode} {ns : List Node} {g : Gathered} {n n' : Node} {c : Context}
    {m : Move} {p : Path} {f : Flow} (h : Moves m p c n n' f)
    (hn : ∀ mode ns g, n = .group mode ns g → g.Heard mode ns) (he : n' = .group mode ns g) :
    g.Heard mode ns := by
  cases h with
  | group h => cases he; exact (hn _ _ _ rfl).hear h.outcome?_eq_none
  | _ => cases he

/-- Every group in every run knows how its branches have ended. -/
theorem Node.Reached.heard {p : Plan} {mode : Mode} {ns : List Node} {g : Gathered}
    (h : Reached p (.group mode ns g)) : g.Heard mode ns := by
  refine h.induction (motive := fun n => ∀ mode ns g, n = .group mode ns g → g.Heard mode ns)
    (fun mode ns g he => ?_) (fun _ ih hm mode ns g he => hm.heard ih he) _ _ _ rfl
  cases p with
  | group mode' first rest =>
    cases he
    rw [← ofPlans, ofPlans_eq_map]
    exact .start (List.forall_mem_map.2 fun p _ => outcome?_ofPlan p)
  | _ => simp [ofPlan] at he

end SearchPlan
