import SearchPlan.Proofs.Node.Work
import SearchPlan.Proofs.Run.Happens
import SearchPlan.Run.Schedule

/-! Every event takes some of the work that a run still has to do, so no run goes on for ever. The
settled order takes it to where nothing can happen any more. -/

namespace SearchPlan

variable {p : Path} {f : Flow} {time : Nat}

namespace Channel

theorem size_send (ch : Channel) (p : Path) (b : Batch) (waits : Bool) :
    (ch.send p b waits).buffer.length + (ch.send p b waits).line.length ≤
      ch.buffer.length + ch.line.length + 1 := by
  simp only [send]
  split
  · simp [Nat.add_assoc]
  · split
    · exact Nat.le_succ _
    · simp only [List.length_append, List.length_singleton]
      omega

theorem size_resume (ch : Channel) (p : Path) :
    (ch.resume p).buffer.length + (ch.resume p).line.length ≤
      ch.buffer.length + ch.line.length := by
  simp only [resume]
  split
  · exact Nat.add_le_add_left (List.length_filter_le _ _) _
  · cases hl : ch.line with
    | nil => simp [hl]
    | cons x line =>
      simp only [List.length_append, List.length_cons, List.length_nil]
      omega

end Channel

namespace Run

variable {r r' : Run} {e : Event} {es : List Event}

theorem pending_accept (r : Run) (tree : Node) (quota : Option Quota) (fired : Bool) (p : Path)
    (f : Flow) : 2 * pending { r with tree, quota, outlet := r.outlet.accept p f, fired } ≤
      2 * r.pending + f.load := by
  cases ho : r.outlet with
  | collector held =>
    cases f <;> simp [pending, Outlet.accept, Outlet.send, Outlet.resume]
  | channel ch =>
    cases f with
    | quiet => simp [pending, ho, Outlet.accept]
    | handed b waits =>
      have hsend := ch.size_send p b waits
      simp only [pending, ho, Outlet.accept, Outlet.send, Flow.load]
      omega
    | resumed =>
      have hresume := ch.size_resume p
      simp only [pending, ho, Outlet.accept, Outlet.resume, Flow.load]
      omega

theorem pending_read (r : Run) {ch ch' : Channel} {b : Batch} (reader : Reader)
    (ho : r.outlet = .channel ch) (hc : ch.read? = some (b, ch')) :
    pending { r with reader, outlet := .channel (if reader.gone then ch'.close else ch') } <
      r.pending := by
  simp only [Channel.read?] at hc
  split at hc
  case h_1 => cases hc
  case h_2 b buffer hb =>
    cases hc
    simp only [pending, ho, hb]
    cases reader.gone <;> simp [Channel.close]

/-- The work left to a caller who may yet cancel the run. -/
def toCancel (now : Nat) (fired : Bool) (cancelAt : Option Nat) : Nat :=
  if fired then 0 else match cancelAt with | some t => 1 + ahead now t | none => 0

/-- The work left to the reader, besides the batches that there are to read. -/
def toRead (now : Nat) (reader : Reader) : Nat :=
  if reader.gone then 0 else 1 + ahead now reader.due

theorem work_eq (r : Run) : r.work = r.tree.work r.now + toCancel r.now r.fired r.cancelAt
    + toRead r.now r.reader + 2 * r.pending := rfl

theorem toCancel_or_le (now : Nat) (fired stops : Bool) (cancelAt : Option Nat) :
    toCancel now (fired || stops) cancelAt ≤ toCancel now fired cancelAt := by
  cases fired <;> cases stops <;> simp [toCancel]

theorem toCancel_mono {now now' : Nat} (h : now ≤ now') (fired : Bool) (cancelAt : Option Nat) :
    toCancel now' fired cancelAt ≤ toCancel now fired cancelAt := by
  cases cancelAt with
  | none => exact Nat.le_refl _
  | some t =>
    have := ahead_mono h t
    simp only [toCancel]
    split <;> omega

theorem toRead_mono {now now' : Nat} (h : now ≤ now') (reader : Reader) :
    toRead now' reader ≤ toRead now reader := by
  have := ahead_mono h reader.due
  simp only [toRead]
  split <;> omega

theorem toCancel_lt {now now' : Nat} (h : now < time) (h' : time ≤ now') :
    toCancel now' false (some time) < toCancel now false (some time) :=
  Nat.add_lt_add_left (ahead_lt h h') 1

theorem toRead_lt {now now' : Nat} {reader : Reader} (hgone : reader.gone = false)
    (h : now < reader.due) (h' : reader.due ≤ now') : toRead now' reader < toRead now reader := by
  have := ahead_lt h h'
  simp only [toRead, hgone]
  exact Nat.add_lt_add_left this 1

theorem work_tick_lt (h : time ∈ r.alarms) : work { r with now := time } < r.work := by
  obtain ⟨hdue, hnow⟩ := List.mem_filter.1 h
  rw [decide_eq_true_eq] at hnow
  have htree := Node.work_mono (Nat.le_of_lt hnow) r.tree
  have hcancel := toCancel_mono (Nat.le_of_lt hnow) r.fired r.cancelAt
  have hread := toRead_mono (Nat.le_of_lt hnow) r.reader
  have hpending : pending { r with now := time } = r.pending := rfl
  rw [work_eq, work_eq, hpending]
  rcases List.mem_append.1 hdue with hdue | hdue
  · rcases List.mem_append.1 hdue with hdue | hdue
    · have := Node.work_lt_of_alarm hdue hnow (Nat.le_refl _)
      dsimp only
      omega
    · cases hgone : r.reader.gone with
      | true => simp [hgone] at hdue
      | false =>
        obtain rfl : time = r.reader.due := by simpa [hgone] using hdue
        have := toRead_lt hgone hnow (Nat.le_refl _)
        dsimp only
        omega
  · cases hfired : r.fired with
    | true => simp [hfired] at hdue
    | false =>
      have hat : r.cancelAt = some time := by simpa [hfired] using hdue
      have := toCancel_lt hnow (Nat.le_refl _)
      rw [hat]
      rw [hfired] at hcancel
      dsimp only
      omega

/-- Every event takes some of the work. -/
theorem Happens.work_lt (h : Happens r e r') : r'.work < r.work := by
  cases h with
  | @move m p n f hm =>
    have htree := hm.work_lt r.now
    have hload : (r.pass f).2.1.load ≤ f.load := by
      simp only [pass]
      split
      · exact Quota.load_pass _ _
      · exact Nat.le_refl _
    have hpending :=
      r.pending_accept n (r.pass f).1 (r.fired || (r.pass f).2.2) p (r.pass f).2.1
    have hcancel := toCancel_or_le r.now r.fired (r.pass f).2.2 r.cancelAt
    rw [work_eq, work_eq]
    dsimp only
    omega
  | cancel hf ht hdue =>
    have hcancel : toCancel r.now true r.cancelAt < toCancel r.now r.fired r.cancelAt := by
      rw [hf, ht, toCancel, toCancel, if_pos rfl, if_neg Bool.false_ne_true]
      exact Nat.lt_of_lt_of_le Nat.zero_lt_one (Nat.le_add_right 1 _)
    have hpending : pending { r with fired := true } = r.pending := rfl
    rw [work_eq, work_eq, hpending]
    dsimp only
    omega
  | @read ch b ch' hgone hdue ho hc =>
    have hpending := r.pending_read (r.reader.read r.now b) ho hc
    have hread : toRead r.now (r.reader.read r.now b) ≤ toRead r.now r.reader + 1 := by
      have := ahead_le_one r.now (r.reader.read r.now b).due
      rw [toRead, toRead, hgone, if_neg Bool.false_ne_true]
      split
      · exact Nat.zero_le _
      · omega
    rw [work_eq, work_eq]
    dsimp only
    omega
  | leave hgone hdue ho hc hend =>
    have hread : toRead r.now r.reader.leave < toRead r.now r.reader := by
      have hleft : toRead r.now r.reader.leave = 0 := rfl
      rw [hleft, toRead, hgone, if_neg Bool.false_ne_true]
      exact Nat.lt_of_lt_of_le Nat.zero_lt_one (Nat.le_add_right 1 _)
    have hpending : pending { r with reader := r.reader.leave } = r.pending := rfl
    rw [work_eq, work_eq, hpending]
    dsimp only
    omega
  | tick hm hc hr ha => exact work_tick_lt (List.min?_mem ha)

theorem length_add_work_le (h : r.follow es = some r') : es.length + r'.work ≤ r.work := by
  induction es generalizing r with
  | nil =>
    cases h
    simp
  | cons e es ih =>
    obtain ⟨k, hk, h⟩ := follow_cons_eq_some.1 h
    have hlt := (happens_of_step hk).2.work_lt
    have := ih h
    rw [List.length_cons]
    omega

theorem of_next?_eq_some {turn turn' : Turn} (h : r.next? turn = some (e, turn')) :
    r.finished = false ∧
      (e = .read ∧ r.read?.isSome ∨ e = .cancel ∧ r.cancel?.isSome ∨ e = .tick ∧ r.tick?.isSome ∨
        ∃ q m, e = .move q m ∧ r.nextMove? = some (q, m)) := by
  simp only [next?] at h
  split at h
  case isTrue => cases h
  case isFalse hf =>
    refine ⟨Bool.eq_false_iff.2 hf, ?_⟩
    split at h
    all_goals
      simp only [Option.orElse_eq_orElse, Option.orElse_eq_or, Option.or_eq_some_iff,
        Option.ite_none_right_eq_some, Option.some.injEq, Prod.mk.injEq,
        Option.map_eq_some_iff] at h
      grind

theorem of_next?_eq_none {turn : Turn} (h : r.next? turn = none) (hf : r.finished = false) :
    r.nextMove? = none ∧ r.cancel? = none ∧ r.read? = none ∧ r.tick? = none := by
  -- Nobody reads from a collector, so it need not be tried.
  have hread (held : List Batch) (ho : r.outlet = .collector held) : r.read? = none := by
    simp [read?, ho]
  simp only [next?, hf, Bool.false_eq_true, if_false] at h
  split at h
  all_goals
    simp only [Option.orElse_eq_orElse, Option.orElse_eq_or, Option.or_eq_none_iff,
      Option.map_eq_none_iff, ite_eq_right_iff, reduceCtorEq, imp_false, Bool.not_eq_true,
      Option.isSome_eq_false_iff, Option.isNone_iff_eq_none] at h
    grind

theorem exists_step_of_next? {turn turn' : Turn} (h : r.next? turn = some (e, turn')) :
    ∃ r', r.step e = some r' := by
  obtain ⟨hf, he⟩ := of_next?_eq_some h
  rcases he with ⟨rfl, he⟩ | ⟨rfl, he⟩ | ⟨rfl, he⟩ | ⟨q, m, rfl, hx⟩
  · simpa [step, hf] using Option.isSome_iff_exists.1 he
  · simpa [step, hf] using Option.isSome_iff_exists.1 he
  · simpa [step, hf] using Option.isSome_iff_exists.1 he
  · obtain ⟨n, f, hm⟩ := Node.exists_moves_of_next? hx
    exact ⟨_, (Happens.move hm).step hf⟩

/-- The settled order stops only where nothing can happen. -/
theorem step_eq_none_of_next? {turn : Turn} (h : r.next? turn = none) (e : Event) :
    r.step e = none := by
  cases hf : r.finished with
  | true => simp [step, hf]
  | false =>
    obtain ⟨hx, hcancel, hread, htick⟩ := of_next?_eq_none h hf
    cases e with
    | move q m =>
      simp only [step, hf, move?, Bool.false_eq_true, if_false, Option.map_eq_none_iff]
      cases hs : r.tree.step m q r.context with
      | none => rfl
      | some nf => exact absurd hx (Node.moves_of_step hs).next?_ne_none
    | cancel => simp [step, hf, hcancel]
    | read => simp [step, hf, hread]
    | tick => simp [step, hf, htick]

theorem step_advance {n : Nat} (h : r.work ≤ n) (turn : Turn) (e : Event) :
    (advance n turn r).step e = none := by
  induction n generalizing r turn with
  | zero =>
    cases hs : r.step e with
    | none => exact hs
    | some r' =>
      have := (happens_of_step hs).2.work_lt
      omega
  | succ n ih =>
    rw [advance]
    cases hn : r.next? turn with
    | none => exact step_eq_none_of_next? hn e
    | some et =>
      obtain ⟨e', turn'⟩ := et
      obtain ⟨r', hr'⟩ := exists_step_of_next? hn
      have := (happens_of_step hr').2.work_lt
      simp only [hr']
      exact ih (by omega) turn'

theorem step_complete (r : Run) (e : Event) : r.complete.step e = none :=
  step_advance (Nat.le_refl _) .caller e

/-- No event can happen any more. -/
def Over (r : Run) : Prop := ∀ e, r.step e = none

theorem exists_over (r : Run) : ∃ es r', r.follow es = some r' ∧ r'.Over := by
  obtain ⟨es, hes⟩ := exists_follow_eq_advance r.work .caller r
  exact ⟨es, r.complete, hes, step_complete r⟩

theorem over_of_finished (h : r.finished = true) : r.Over := by
  intro e
  simp [step, h]

/-- What can do no more is finished, if something can happen until it is. -/
theorem Over.finished (h : r.Over) (hstep : r.finished = false → ∃ e k, r.step e = some k) :
    r.finished = true := by
  by_contra hopen
  obtain ⟨e, k, he⟩ := hstep (Bool.eq_false_iff.2 hopen)
  rw [h e] at he
  cases he

theorem eq_of_over (h : r.Over) (hes : r.follow es = some r') : r' = r ∧ es = [] := by
  cases es with
  | nil =>
    cases hes
    exact ⟨rfl, rfl⟩
  | cons e es =>
    obtain ⟨k, hk, -⟩ := follow_cons_eq_some.1 hes
    rw [h e] at hk
    cases hk

end Run

end SearchPlan
