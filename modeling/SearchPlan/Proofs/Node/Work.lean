import SearchPlan.Proofs.Node.Next
import SearchPlan.Run.Work

/-! The work that is left in a running tree. Every move takes some of it, and every alarm. -/

namespace SearchPlan

variable {c : Context} {m : Move} {p : Path} {f : Flow} {now time : Nat}

def Flow.load : Flow → Nat
  | .handed _ _ => 2
  | _ => 0

theorem Flow.load_filter (allows : Match → Bool) (f : Flow) : (f.filter allows).load ≤ f.load := by
  cases f with
  | handed b waits =>
    simp only [filter]
    split <;> simp [load]
  | _ => exact Nat.le_refl _

theorem Quota.load_pass (q : Quota) (f : Flow) : (q.pass f).2.1.load ≤ f.load := by
  cases f with
  | handed b waits =>
    simp only [pass]
    split <;> simp [Flow.load]
  | _ => exact Nat.le_refl _

theorem Run.ahead_le_one (now time : Nat) : ahead now time ≤ 1 := by
  rw [ahead]
  split <;> simp

theorem Run.ahead_mono {now now' : Nat} (h : now ≤ now') (time : Nat) :
    ahead now' time ≤ ahead now time := by
  simp only [ahead]
  split <;> split <;> omega

theorem Run.ahead_lt {now now' : Nat} (h : now < time) (h' : time ≤ now') :
    ahead now' time < ahead now time := by
  rw [ahead, ahead, if_pos h, if_neg (by omega)]
  exact Nat.zero_lt_one

theorem Phase.Moves.work_lt {s : Script} {ph ph' : Phase} {pr pr' : Probe}
    (h : Moves c s m ph pr ph' pr' f) (now : Nat) : ph'.work now s + f.load < ph.work now s := by
  cases h with
  | @sleep d =>
    simp only [work, Flow.load, List.length_cons]
    have := Run.ahead_le_one now (c.now + d.millis)
    omega
  | _ =>
    simp only [work, Flow.load, List.length_cons]
    omega

namespace Node

variable {n n' : Node}

theorem workAll_append (now : Nat) (ms ns : List Node) :
    workAll now (ms ++ ns) = workAll now ms + workAll now ns := by
  induction ms with
  | nil => exact (Nat.zero_add _).symm
  | cons n ms ih => rw [List.cons_append, workAll, workAll, ih, Nat.add_assoc]

/-- A move takes some of the work and leaves more than its batch may cost the reader. -/
theorem Moves.work_lt (h : Moves m p c n n' f) (now : Nat) :
    n'.work now + f.load < n.work now := by
  induction h with
  | leaf h => exact h.work_lt now
  | noop => exact Nat.zero_lt_one
  | expire _ hopen =>
    simp only [work, hopen, Flow.load, Option.isSome_none, Bool.or_self, Bool.true_or, if_true,
      Bool.false_eq_true, if_false]
    omega
  | group h ih =>
    simp only [work, workAll_append, workAll]
    omega
  | required h ih =>
    simp only [work]
    omega
  | optional h ih =>
    simp only [work]
    omega
  | timeout h ih =>
    simp only [work, h.outcome?_eq_none]
    split <;> simp_all <;> omega
  | limit h ih =>
    simp only [work]
    exact Nat.lt_of_le_of_lt (Nat.add_le_add_left (Quota.load_pass _ _) _) ih
  | filter h ih =>
    exact Nat.lt_of_le_of_lt (Nat.add_le_add_left (Flow.load_filter _ _) _) ih

theorem workAll_mono {now now' : Nat} {ns : List Node}
    (h : ∀ n ∈ ns, n.work now' ≤ n.work now) : workAll now' ns ≤ workAll now ns := by
  induction ns with
  | nil => exact Nat.le_refl _
  | cons n ns ih =>
    rw [List.forall_mem_cons] at h
    exact Nat.add_le_add h.1 (ih h.2)

theorem work_mono {now now' : Nat} (h : now ≤ now') (n : Node) : n.work now' ≤ n.work now := by
  induction n with
  | leaf s ph pr =>
    cases ph with
    | sleeping wakeAt rest => exact Nat.add_le_add_left (Run.ahead_mono h wakeAt) _
    | _ => exact Nat.le_refl _
  | noop seen => exact Nat.le_refl _
  | group mode ns g ih => exact workAll_mono ih
  | priority r o dropped ihr iho => exact Nat.add_le_add ihr iho
  | timeout d k expired fired ih =>
    have := Run.ahead_mono h d.millis
    simp only [work]
    split <;> omega
  | limit quota k stopped fired ih => exact ih
  | filter allows k ih => exact ih

theorem work_lt_of_alarm {now now' : Nat} (ha : time ∈ n.alarms) (h : now < time)
    (h' : time ≤ now') : n.work now' < n.work now := by
  have hle : now ≤ now' := by omega
  induction n with
  | leaf s ph pr =>
    cases ph with
    | sleeping wakeAt rest =>
      obtain rfl := List.mem_singleton.1 ha
      exact Nat.add_lt_add_left (Run.ahead_lt h h') _
    | _ => cases ha
  | noop seen => cases ha
  | group mode ns g ih =>
    obtain ⟨b, hb, hab⟩ := mem_alarmsAll.1 ha
    obtain ⟨ms, us, rfl⟩ := List.append_of_mem hb
    have hms : workAll now' ms ≤ workAll now ms := workAll_mono fun n _ => work_mono hle n
    have hus : workAll now' us ≤ workAll now us := workAll_mono fun n _ => work_mono hle n
    have := ih b hb hab
    simp only [work, workAll_append, workAll]
    omega
  | priority r o dropped ihr iho =>
    have hr := work_mono hle r
    have ho := work_mono hle o
    simp only [work]
    rcases List.mem_append.1 ha with ha | ha
    · have := ihr ha
      omega
    · have := iho ha
      omega
  | timeout d k expired fired ih =>
    have hk := work_mono hle k
    have hd := Run.ahead_mono hle d.millis
    simp only [work]
    simp only [alarms] at ha
    split at ha
    case isTrue hover =>
      rw [if_pos hover, if_pos hover]
      exact Nat.add_lt_add_left (ih ha) _
    case isFalse hover =>
      rw [if_neg hover, if_neg hover]
      rcases List.mem_cons.1 ha with rfl | ha
      · have := Run.ahead_lt h h'
        omega
      · have := ih ha
        omega
  | limit quota k stopped fired ih => exact ih ha
  | filter allows k ih => exact ih ha

end Node

end SearchPlan
