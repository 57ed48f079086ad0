import Mathlib.Algebra.GroupWithZero.Nat
import SearchPlan.Run.Node

/-! When a plan without caps ends and with which status, read off the plan alone. -/

namespace SearchPlan

structure Forecast where
  time : Nat
  status : Status
  deriving DecidableEq

def Step.nap : Step → Nat
  | .sleep d => d.millis
  | .emit _ => 0

def Step.naps (steps : List Step) : Nat := (steps.map nap).sum

theorem Step.naps_cons (st : Step) (rest : List Step) :
    naps (st :: rest) = st.nap + naps rest :=
  List.sum_cons

namespace Forecast

variable {f : Forecast} {fs : List Forecast} {st : Status} {t : Nat}

def latest : List Forecast → Nat
  | [] => 0
  | f :: fs => max f.time (latest fs)

/-- When the first of those with the status ends, if there are any. -/
def earliest (st : Status) (fs : List Forecast) : Option Nat :=
  ((fs.filter (·.status = st)).map time).min?

theorem le_latest (h : f ∈ fs) : f.time ≤ latest fs := by
  induction fs with
  | nil => cases h
  | cons g fs ih =>
    rcases List.mem_cons.1 h with rfl | h
    · exact Nat.le_max_left _ _
    · exact Nat.le_trans (ih h) (Nat.le_max_right _ _)

theorem latest_le (h : ∀ f ∈ fs, f.time ≤ t) : latest fs ≤ t := by
  induction fs with
  | nil => exact Nat.zero_le t
  | cons g fs ih =>
    rw [List.forall_mem_cons] at h
    exact Nat.max_le.2 ⟨h.1, ih h.2⟩

theorem earliest_eq_none : earliest st fs = none ↔ ∀ f ∈ fs, f.status ≠ st := by
  simp [earliest]

/-- The first of those with the status is one of them, and none of them is before it. -/
theorem earliest_eq_some (h : earliest st fs = some t) :
    ⟨t, st⟩ ∈ fs ∧ ∀ f ∈ fs, f.status = st → t ≤ f.time := by
  simp only [earliest, List.min?_eq_some_iff, List.mem_map, List.mem_filter, decide_eq_true_eq] at h
  obtain ⟨⟨f, ⟨hf, rfl⟩, rfl⟩, hle⟩ := h
  refine ⟨hf, ?_⟩
  intro g hg hst
  exact hle g.time ⟨g, ⟨hg, hst⟩, rfl⟩

end Forecast

namespace Mode

variable {mode : Mode} {fs : List Forecast} {f : Forecast}

/-- A group ends with the first branch that decides for it, or else with the last. -/
def forecast (fs : List Forecast) : Mode → Forecast
  | .and =>
    match Forecast.earliest .failure fs with
    | some t => ⟨t, .failure⟩
    | none =>
      ⟨Forecast.latest fs, if ∀ f ∈ fs, f.status = .success then .success else .partialSuccess⟩
  | .or =>
    match Forecast.earliest .success fs with
    | some t => ⟨t, .success⟩
    | none =>
      ⟨Forecast.latest fs,
        if ∃ f ∈ fs, f.status = .partialSuccess then .partialSuccess else .failure⟩
  | .parallel =>
    ⟨Forecast.latest fs,
      if ∀ f ∈ fs, f.status = .success then .success
      else if ∀ f ∈ fs, f.status = .failure then .failure
      else .partialSuccess⟩

/-- If a branch decides, the group ends as the first such branch does. -/
theorem forecast_of_decisive (hf : f ∈ fs) (h : mode.decisive = some f.status) :
    mode.forecast fs ∈ fs ∧ (mode.forecast fs).status = f.status ∧
      (mode.forecast fs).time ≤ f.time := by
  cases mode with
  | parallel => cases h
  | and =>
    have hst : f.status = .failure := (Option.some.inj h).symm
    cases he : Forecast.earliest .failure fs with
    | none => exact absurd hst (Forecast.earliest_eq_none.1 he f hf)
    | some t =>
      obtain ⟨hmem, hle⟩ := Forecast.earliest_eq_some he
      simp only [forecast, he]
      exact ⟨hmem, hst.symm, hle f hf hst⟩
  | or =>
    have hst : f.status = .success := (Option.some.inj h).symm
    cases he : Forecast.earliest .success fs with
    | none => exact absurd hst (Forecast.earliest_eq_none.1 he f hf)
    | some t =>
      obtain ⟨hmem, hle⟩ := Forecast.earliest_eq_some he
      simp only [forecast, he]
      exact ⟨hmem, hst.symm, hle f hf hst⟩

/-- If no branch decides, the group ends with the last branch and its verdict. -/
theorem forecast_of_undecided (h : ∀ f ∈ fs, mode.decisive ≠ some f.status) :
    mode.forecast fs = ⟨Forecast.latest fs, mode.verdict (fs.map Forecast.status)⟩ := by
  cases mode with
  | and =>
    have he : Forecast.earliest .failure fs = none :=
      Forecast.earliest_eq_none.2 fun f hf hst => h f hf (by rw [hst]; rfl)
    have hall : (∀ f ∈ fs, f.status = .success) ↔ ¬∃ f ∈ fs, f.status = .partialSuccess := by
      constructor
      · rintro hs ⟨f, hf, hst⟩
        rw [hs f hf] at hst
        cases hst
      · intro hs f hf
        cases hst : f.status with
        | success => rfl
        | partialSuccess => exact absurd ⟨f, hf, hst⟩ hs
        | failure => exact absurd hst (Forecast.earliest_eq_none.1 he f hf)
    simp only [forecast, he, verdict, List.mem_map, hall, ite_not]
  | or =>
    have he : Forecast.earliest .success fs = none :=
      Forecast.earliest_eq_none.2 fun f hf hst => h f hf (by rw [hst]; rfl)
    simp only [forecast, he, verdict, List.mem_map]
  | parallel =>
    have hfailed : (∀ f ∈ fs, f.status = .failure) ↔ ¬∃ f ∈ fs, f.status.isOk = true := by
      rw [not_exists]
      apply forall_congr'
      intro f
      cases hst : f.status <;> simp [Status.isOk]
    simp only [forecast, verdict, List.all_map, List.any_map, List.all_eq_true, List.any_eq_true,
      Function.comp_apply, decide_eq_true_eq, hfailed, ite_not]

theorem verdict_congr {sts sts' : List Status} (h : ∀ st, st ∈ sts ↔ st ∈ sts') (mode : Mode) :
    mode.verdict sts = mode.verdict sts' := by
  cases mode with
  | and => simp only [verdict, h]
  | or => simp only [verdict, h]
  | parallel =>
    have hall : sts.all (· = .success) = sts'.all (· = .success) := by
      rw [Bool.eq_iff_iff]
      simp [h]
    have hany : sts.any (·.isOk) = sts'.any (·.isOk) := by
      rw [Bool.eq_iff_iff]
      simp [h]
    simp only [verdict, hall, hany]

end Mode

namespace Plan

mutual

/-- When the plan ends if nobody stops it, and with which status. A cap is taken not to be
reached. -/
def forecast : Plan → Forecast
  | .leaf s => ⟨Step.naps s.steps, if s.failure.isSome then .failure else s.status⟩
  | .noop => ⟨0, .success⟩
  | .group mode first rest => mode.forecast (first.forecast :: forecasts rest)
  | .priority required _ => required.forecast
  | .timeout d p =>
    if p.forecast.time ≤ d.millis then p.forecast else ⟨d.millis, .partialSuccess⟩
  | .limit _ _ p => p.forecast
  | .filter _ p => p.forecast

def forecasts : List Plan → List Forecast
  | [] => []
  | p :: ps => p.forecast :: forecasts ps

end

mutual

def uncapped : Plan → Bool
  | .leaf _ => true
  | .noop => true
  | .group _ first rest => first.uncapped && uncappedAll rest
  | .priority required optional => required.uncapped && optional.uncapped
  | .timeout _ p => p.uncapped
  | .limit _ _ _ => false
  | .filter _ p => p.uncapped

def uncappedAll : List Plan → Bool
  | [] => true
  | p :: ps => p.uncapped && uncappedAll ps

end

theorem forecasts_eq_map (ps : List Plan) : forecasts ps = ps.map forecast := by
  induction ps with
  | nil => rfl
  | cons p ps ih => rw [forecasts, ih, List.map_cons]

theorem forecast_group (mode : Mode) (first : Plan) (rest : List Plan) :
    (Plan.group mode first rest).forecast = mode.forecast ((first :: rest).map forecast) := by
  rw [forecast, forecasts_eq_map, List.map_cons]

theorem uncappedAll_eq_true {ps : List Plan} :
    uncappedAll ps = true ↔ ∀ p ∈ ps, p.uncapped = true := by
  induction ps with
  | nil => simp [uncappedAll]
  | cons p ps ih => simp [uncappedAll, ih]

end Plan

end SearchPlan
