import SearchPlan.Sink.Quota

/-! What a quota and a checker make of the matches that are handed over. -/

namespace SearchPlan

theorem Checker.filter_allowAll (b : List Match) : b.filter allowAll = b :=
  List.filter_eq_self.2 fun _ _ => rfl

/-- The matches that a move hands over. -/
def Flow.batch : Flow → Batch
  | .handed b _ => b
  | _ => []

@[simp] theorem Flow.batch_filter (allows : Match → Bool) (f : Flow) :
    (f.filter allows).batch = f.batch.filter allows := by
  cases f with
  | quiet => rfl
  | resumed => rfl
  | handed b waits =>
    cases h : b.filter allows <;> simp [filter, batch, h]

namespace Quota

@[simp] theorem batch_pass (q : Quota) (f : Flow) :
    (q.pass f).2.1.batch = q.fit f.batch := by
  cases f with
  | quiet => simp [pass, fit, Flow.batch]
  | resumed => simp [pass, fit, Flow.batch]
  | handed b waits =>
    cases h : q.fit b <;> simp [pass, Flow.batch, h]

theorem pass_eq_receive (q : Quota) (f : Flow) : (q.pass f).1 = q.receive f.batch := by
  cases f with
  | handed b waits =>
    simp only [pass, Flow.batch]
    split <;> rfl
  | _ => rfl

@[simp] theorem limit_pass (q : Quota) (f : Flow) : (q.pass f).1.limit = q.limit := by
  rw [pass_eq_receive]
  rfl

@[simp] theorem received_pass (q : Quota) (f : Flow) :
    (q.pass f).1.received = q.received + f.batch.length := by
  rw [pass_eq_receive]
  rfl

theorem fit_of_not_truncated {q : Quota} {f : Flow} (h : (q.pass f).1.truncated = false) :
    q.fit f.batch = f.batch := by
  simp only [truncated, limit_pass, received_pass, decide_eq_false_iff_not] at h
  exact List.take_of_length_le (by omega)

theorem fit_of_truncated {q : Quota} (h : q.truncated = true) (b : Batch) : q.fit b = [] := by
  simp only [truncated, decide_eq_true_eq] at h
  rw [fit, Nat.sub_eq_zero_of_le (Nat.le_of_lt h), List.take_zero]

theorem truncated_pass {q : Quota} (h : q.truncated = true) (f : Flow) :
    (q.pass f).1.truncated = true := by
  simp only [truncated, limit_pass, received_pass, decide_eq_true_eq] at h ⊢
  omega

end Quota

end SearchPlan
