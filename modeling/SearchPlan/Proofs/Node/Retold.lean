import Mathlib.Data.List.Forall2
import SearchPlan.Proofs.Node.Moves

/-! What is said of a run if one of its nodes goes by another name: the same alerts, of which those
that speak of this node give its other name. -/

namespace SearchPlan

/-- The same alert, where it may speak of `is` if it spoke of `was`. -/
inductive Alert.Retold (was is : String) : Alert → Alert → Prop
  | same : Retold was is a a
  | timeout : Retold was is (.timeout was after) (.timeout is after)
  | limitHit : Retold was is (.limitHit was limit) (.limitHit is limit)
  | branchFailed : Retold was is (.branchFailed was reason) (.branchFailed is reason)
  | cancelled : Retold was is (.cancelled was) (.cancelled is)

structure Execution.Retold (was is : String) (e e' : Execution) : Prop where
  status : e.status = e'.status
  alerts : List.Forall₂ (Alert.Retold was is) e.alerts e'.alerts

inductive Outcome.Retold (was is : String) : Outcome → Outcome → Prop
  | done : e.Retold was is e' → Retold was is (.done e) (.done e')
  | cancelled : List.Forall₂ (Alert.Retold was is) as as' →
      Retold was is (.cancelled as) (.cancelled as')

structure Gathered.Retold (was is : String) (g g' : Gathered) : Prop where
  alerts : List.Forall₂ (Alert.Retold was is) g.alerts g'.alerts
  statuses : g.statuses = g'.statuses
  interrupted : g.interrupted = g'.interrupted
  decision : g.decision = g'.decision

variable {was is : String}

instance : Std.Refl (Alert.Retold was is) := ⟨fun _ => .same⟩

theorem Execution.retold_refl (e : Execution) : e.Retold was is e := ⟨rfl, List.forall₂_refl _⟩

theorem Outcome.retold_refl (o : Outcome) : o.Retold was is o := by
  cases o with
  | done e => exact .done e.retold_refl
  | cancelled as => exact .cancelled (List.forall₂_refl as)

theorem Outcome.rel_retold_refl (o : Option Outcome) :
    Option.Rel (Outcome.Retold was is) o o := by
  cases o with
  | none => exact .none
  | some o => exact .some o.retold_refl

/-- The names by which alerts speak of a node of which it may be said that it `is` what it `was`. -/
def Named (was is : String) (x x' : String) : Prop := x = x' ∨ x = was ∧ x' = is

namespace Outcome

variable {o o' b b' : Outcome} {x x' : String}

theorem Retold.alerts (h : o.Retold was is o') :
    List.Forall₂ (Alert.Retold was is) o.alerts o'.alerts := by
  cases h with
  | done he => exact he.alerts
  | cancelled has => exact has

theorem Retold.timed (h : o.Retold was is o') (hx : Named was is x x') (after : Duration)
    (expired fired : Bool) : (Node.timed x after expired fired o).Retold was is
      (Node.timed x' after expired fired o') := by
  have hlast : Alert.Retold was is (.timeout x after) (.timeout x' after) := by
    obtain rfl | ⟨rfl, rfl⟩ := hx
    · exact .same
    · exact .timeout
  simp only [Node.timed]
  split
  · exact h
  · split
    · exact .cancelled h.alerts
    · exact .done ⟨rfl, List.rel_append h.alerts (.cons hlast .nil)⟩

theorem Retold.capped (h : o.Retold was is o') (hx : Named was is x x') (quota : Quota)
    (fired : Bool) : (Node.capped x quota fired o).Retold was is
      (Node.capped x' quota fired o') := by
  have hlast : Alert.Retold was is (.limitHit x quota.limit) (.limitHit x' quota.limit) := by
    obtain rfl | ⟨rfl, rfl⟩ := hx
    · exact .same
    · exact .limitHit
  simp only [Node.capped]
  split
  · exact h
  · refine .done ⟨?_, List.rel_append h.alerts (.cons hlast .nil)⟩
    cases h with
    | done he => simp only [he.status]
    | cancelled => rfl

theorem Retold.preferred (h : o.Retold was is o') (hb : b.Retold was is b')
    (hx : Named was is x x') (dropped : Bool) : (Node.preferred x dropped o b).Retold was is
      (Node.preferred x' dropped o' b') := by
  have hlast : Alert.Retold was is (.branchFailed x "optional branch failed")
      (.branchFailed x' "optional branch failed") := by
    obtain rfl | ⟨rfl, rfl⟩ := hx
    · exact .same
    · exact .branchFailed
  cases h with
  | cancelled has => exact .cancelled (List.rel_append has hb.alerts)
  | done he =>
    cases dropped with
    | true => exact .done ⟨he.status, List.rel_append he.alerts hb.alerts⟩
    | false =>
      cases hb with
      | cancelled => exact .done he
      | @done best best' hbest =>
        obtain ⟨st, as⟩ := best
        obtain ⟨st', as'⟩ := best'
        obtain ⟨rfl : st = st', has⟩ := hbest
        -- a failure without alerts is told of by the preference itself
        cases has with
        | nil =>
          cases st with
          | failure => exact .done ⟨he.status, List.rel_append he.alerts (.cons hlast .nil)⟩
          | _ => exact .done ⟨he.status, List.rel_append he.alerts .nil⟩
        | cons ha has =>
          have halerts := List.rel_append he.alerts (.cons ha has)
          cases st <;> exact .done ⟨he.status, halerts⟩

theorem Retold.execution (h : o.Retold was is o') (hx : Named was is x x') :
    (o.execution x).Retold was is (o'.execution x') := by
  have hlast : Alert.Retold was is (.cancelled x) (.cancelled x') := by
    obtain rfl | ⟨rfl, rfl⟩ := hx
    · exact .same
    · exact .cancelled
  cases h with
  | done he => exact he
  | cancelled has => exact ⟨rfl, List.rel_append has (.cons hlast .nil)⟩

end Outcome

namespace Gathered

variable {g g' : Gathered} {o o' : Outcome}

theorem Retold.add (h : g.Retold was is g') (ho : o.Retold was is o') (mode : Mode) :
    (g.add mode o).Retold was is (g'.add mode o') := by
  have halerts := List.rel_append h.alerts ho.alerts
  obtain ⟨as, statuses, interrupted, decision⟩ := g
  obtain ⟨as', statuses', interrupted', decision'⟩ := g'
  obtain ⟨-, rfl : statuses = statuses', rfl : interrupted = interrupted',
    rfl : decision = decision'⟩ := h
  simp only [Gathered.add]
  split
  · exact ⟨halerts, rfl, rfl, rfl⟩
  · cases ho with
    | cancelled has => exact ⟨halerts, rfl, rfl, rfl⟩
    | done he =>
      simp only [he.status]
      split <;> exact ⟨halerts, rfl, rfl, rfl⟩

theorem Retold.hear {o o' : Option Outcome} (h : g.Retold was is g')
    (ho : Option.Rel (Outcome.Retold was is) o o') (mode : Mode) :
    (Gathered.hear mode g o).Retold was is (Gathered.hear mode g' o') := by
  cases ho with
  | none => exact h
  | some ho => exact h.add ho mode

theorem Retold.outcome (h : g.Retold was is g') (mode : Mode) :
    (g.outcome mode).Retold was is (g'.outcome mode) := by
  simp only [Gathered.outcome, h.decision, h.interrupted, h.statuses]
  split
  · exact .done ⟨rfl, h.alerts⟩
  · split
    · exact .cancelled h.alerts
    · exact .done ⟨rfl, h.alerts⟩

end Gathered

end SearchPlan
