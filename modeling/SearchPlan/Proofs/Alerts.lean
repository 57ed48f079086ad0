import Mathlib.Data.Multiset.AddSub
import SearchPlan.Proofs.Node.Outcome
import SearchPlan.Proofs.Run.Happens
import SearchPlan.Run.Start

/-! Alerts on their way up. A node keeps all the alerts of its branches, with one exception: a
preference forgets those of an optional branch that gave up before the required one was done. -/

namespace SearchPlan

namespace Node

variable {p : Plan} {n k : Node} {q : Path} {o : Outcome}

/-- The optional branch gave up with alerts while the required one went on, and that one is done. -/
def Forgets : Node → Prop
  | .priority required optional dropped =>
    dropped = false ∧ ¬required.GaveUp ∧ optional.GaveUp ∧ optional.raised ≠ []
  | _ => False

theorem sublist_preferred_done (name : String) (e best : Execution) :
    ((Outcome.done e).alerts ++ (Outcome.done best).alerts).Sublist
      (preferred name false (.done e) (.done best)).alerts := by
  obtain ⟨st, as⟩ := best
  cases st with
  | success => exact .refl _
  | partialSuccess => exact .refl _
  | failure =>
    cases as with
    | nil => simp [preferred, Outcome.alerts]
    | cons a as => exact .refl _

theorem subperm_preferred_iff {name : String} {dropped : Bool} {r o : Outcome} :
    (r.alerts ++ o.alerts).Subperm (preferred name dropped r o).alerts ↔
      ¬(dropped = false ∧ (∃ e, r = .done e) ∧ (∃ as, o = .cancelled as) ∧ o.alerts ≠ []) := by
  cases r with
  | cancelled as => simp [preferred, Outcome.alerts, List.Subperm.refl]
  | done e =>
    cases dropped with
    | true => simp [preferred, Outcome.alerts, List.Subperm.refl]
    | false =>
      cases o with
      | cancelled as =>
        have hlen : (e.alerts ++ as).Subperm e.alerts ↔ as = [] := by
          constructor
          · intro h
            have := h.length_le
            rw [List.length_append] at this
            exact List.length_eq_zero_iff.1 (by omega)
          · rintro rfl
            rw [List.append_nil]
        simpa [preferred, Outcome.alerts] using hlen
      | done best =>
        simpa using (sublist_preferred_done name e best).subperm

theorem alerts_of_forgets {r b : Node} {dropped : Bool} (h : (Node.priority r b dropped).Forgets)
    (ho : (Node.priority r b dropped).outcome? = some o) : o.alerts = r.raised := by
  obtain ⟨rfl, hr, ⟨as, hb⟩, -⟩ := h
  simp only [outcome?] at ho
  split at ho
  case h_1 ro bo hro hbo =>
    cases ro with
    | cancelled as => exact absurd ⟨as, hro⟩ hr
    | done e =>
      obtain rfl : bo = .cancelled as := Option.some.inj (hbo.symm.trans hb)
      cases ho
      exact (raised_eq hro).symm
  case h_2 => cases ho

/-- A node that has ended has all the alerts of its branches in its outcome, each as often as they
have it, unless it is a preference that forgets those of its optional branch. -/
theorem Reached.alerts_kept (h : Reached p n) (hk : n.at? q = some k) (ho : k.outcome? = some o) :
    ((k.branches.flatMap raised : Multiset Alert) ≤ (o.alerts : Multiset Alert) ↔ ¬k.Forgets) ∧
      (k.Forgets → ∃ r b, k.branches = [r, b] ∧ o.alerts = r.raised) := by
  obtain ⟨p', -, h⟩ := h.at? hk
  rw [Multiset.coe_le]
  cases k with
  | leaf s ph pr => simp [branches, Forgets]
  | noop seen => simp [branches, Forgets]
  | group mode ns g => simpa [branches, Forgets] using (alerts_of_group h ho).symm.subperm
  | priority r b dropped =>
    refine ⟨?_, fun hf => ⟨r, b, rfl, alerts_of_forgets hf ho⟩⟩
    simp only [outcome?] at ho
    split at ho
    case h_1 ro bo hr hb =>
      cases ho
      simp only [branches, List.flatMap_cons, List.flatMap_nil, List.append_nil, raised_eq hr,
        raised_eq hb, subperm_preferred_iff, Forgets, GaveUp, hr, hb, Option.some.injEq]
      cases ro <;> simp
    case h_2 => cases ho
  | timeout d b expired fired =>
    obtain ⟨bo, hb, rfl⟩ := Option.map_eq_some_iff.1 ho
    simpa [branches, Forgets, raised_eq hb] using (sublist_timed _ d expired fired bo).subperm
  | limit quota b stopped fired =>
    obtain ⟨bo, hb, rfl⟩ := Option.map_eq_some_iff.1 ho
    simpa [branches, Forgets, raised_eq hb] using (sublist_capped _ quota fired bo).subperm
  | filter allows b =>
    rw [outcome?] at ho
    simp [branches, Forgets, raised_eq ho, List.Subperm.refl]

end Node

namespace Forgetful

def required : Script where
  name := "required"
  steps := [.emit [.ofRepo "a"], .emit [.ofRepo "b"]]

def bad : Script := { name := "bad", status := .failure }

def slow : Script := { name := "slow", steps := [.sleep (.ofMillis 100)] }

def plan : Plan := .priority (.leaf required) (.group .parallel (.leaf bad) [.leaf slow])

/-- The required branch waits for room when the caller cancels the run. -/
def run : Run :=
  .spawned (.ofPlan plan) { cancelAt := some 10 } { buffer := 1, pause := .ofMillis 50 }

def events : List Event :=
  [.move [0] .act, .move [0] .act, .move [0] .act, .move [1, 0] .act, .move [1, 0] .act,
    .move [1, 1] .act, .move [1, 1] .act, .tick, .cancel, .move [1, 1] .halt, .tick, .read,
    .move [0] .act, .move [0] .act]

def tree : Node := .priority
  (.leaf required (.returned (.finished .success) true) { runs := 1, emitted := 2 })
  (.group .parallel
    [.leaf bad (.returned (.finished .failure) false) { runs := 1 },
      .leaf slow (.returned (.finished .partialSuccess) true) { runs := 1, stopped := true }]
    { alerts := [.branchFailed "bad" "bad reported failure"], statuses := [.failure],
      interrupted := true })
  false

theorem follow_events : (run.follow events).map (·.tree) = some tree := rfl

theorem reached_tree : Node.Reached plan tree := by
  obtain ⟨r, hr, ht⟩ := Option.map_eq_some_iff.1 follow_events
  exact ht ▸ Run.reached rfl hr

theorem alerts_lost : Node.Reached plan tree ∧ tree.outcome? = some (.done ⟨.success, []⟩) ∧
    tree.branches.flatMap Node.raised = [.branchFailed "bad" "bad reported failure"] ∧
    tree.Forgets := by
  refine ⟨reached_tree, rfl, rfl, ?_⟩
  by_contra hf
  have := (Node.Reached.alerts_kept reached_tree (q := []) rfl rfl).1.2 hf
  exact absurd (Multiset.card_le_card this) (by decide)

end Forgetful

end SearchPlan
