import Mathlib.Data.ENat.Basic
import SearchPlan.Proofs.Node.OnTime
import SearchPlan.Proofs.Node.Outcome
import SearchPlan.Proofs.Node.Passage
import SearchPlan.Proofs.Node.Token

/-! Jobs below others that keep to time. A job is on time as long as its token has not fired, and
that fires when the first job above it comes to its end. -/

namespace SearchPlan

namespace Plan

variable {p b : Plan} {i : Nat}

/-- When the first of the jobs above a place ends. -/
def cut : Path → Plan → ℕ∞
  | [], _ => ⊤
  | i :: q, p =>
    let below := (p.children[i]?.map (cut q)).getD ⊤
    if p.forecast.time ≤ below then p.forecast.time else below

theorem cut_le_iff {c : ℕ∞} (h : p.children[i]? = some b) (q : Path) :
    p.cut (i :: q) ≤ c ↔ p.forecast.time ≤ c ∨ b.cut q ≤ c := by
  simp only [cut, h, Option.map_some, Option.getD_some]
  rw [← min_def, min_le_iff]

theorem le_cut_iff {c : ℕ∞} (h : p.children[i]? = some b) (q : Path) :
    c ≤ p.cut (i :: q) ↔ c ≤ p.forecast.time ∧ c ≤ b.cut q := by
  simp only [cut, h, Option.map_some, Option.getD_some]
  rw [← min_def, le_min_iff]

theorem uncapped_child (h : p.uncapped = true) (hb : p.children[i]? = some b) :
    b.uncapped = true := by
  have hmem := List.mem_of_getElem? hb
  cases p with
  | leaf => cases hmem
  | noop => cases hmem
  | group mode first rest =>
    simp only [uncapped, Bool.and_eq_true, uncappedAll_eq_true] at h
    rcases List.mem_cons.1 hmem with rfl | hmem
    · exact h.1
    · exact h.2 b hmem
  | priority r o =>
    simp only [uncapped, Bool.and_eq_true] at h
    rcases List.mem_cons.1 hmem with rfl | hmem
    · exact h.1
    · rw [List.mem_singleton.1 hmem]
      exact h.2
  | timeout d k =>
    rw [List.mem_singleton.1 hmem]
    exact h
  | limit => cases h
  | filter allows k =>
    rw [List.mem_singleton.1 hmem]
    exact h

theorem uncapped_at? {q : Path} (h : p.uncapped = true) (hb : p.at? q = some b) :
    b.uncapped = true := by
  induction q generalizing p with
  | nil =>
    cases hb
    exact h
  | cons i q ih =>
    obtain ⟨k, hk, hb⟩ := at?_cons_eq_some.1 hb
    exact ih (uncapped_child h hk) hb

end Plan

namespace Node

variable {p p' : Plan} {n n' k b : Node} {c : Context} {m : Move} {q r : Path} {f : Flow}
  {i now now' : Nat}

theorem Pauses.at? (h : n.Pauses now c) (hk : n.at? q = some k) (ht : n.told q = false) :
    k.Pauses now (n.sees q c) := by
  induction q generalizing n c with
  | nil =>
    cases hk
    exact h
  | cons i q ih =>
    obtain ⟨b, hb, hk⟩ := at?_cons_eq_some.1 hk
    rw [told_cons hb, Bool.or_eq_false_iff] at ht
    rw [sees_cons hb]
    exact ih (h.branch hb ht.1) hk ht.2

/-- Every node that nothing above it has told to stop is on time. -/
def Punctual (now : Nat) (p : Plan) (n : Node) : Prop :=
  ∀ q k p', n.at? q = some k → p.at? q = some p' → n.told q = false → k.OnTime now p'

theorem punctual_ofPlan (h : p.uncapped = true) : (ofPlan p).Punctual 0 p := by
  intro q k p' hk hp _
  obtain rfl : ofPlan p' = k := Option.some.inj ((ofPlan_at? hp).symm.trans hk)
  exact onTime_ofPlan (Plan.uncapped_at? h hp)

theorem Punctual.onTime (h : n.Punctual now p) : n.OnTime now p :=
  h [] n p rfl rfl rfl

theorem Punctual.branch (h : n.Punctual now p) (hb : n.branches[i]? = some b)
    (hp : p.children[i]? = some p') (hs : n.stops i = false) : b.Punctual now p' := by
  intro q k p₁ hk hp₁ ht
  apply h (i :: q) k p₁ (at?_cons_eq_some.2 ⟨b, hb, hk⟩) (Plan.at?_cons_eq_some.2 ⟨p', hp, hp₁⟩)
  rw [told_cons hb, hs, ht]
  rfl

theorem Punctual.move (h : n.Punctual c.now p) (hm : Moves m r c n n' f) (hc : c.fired = false)
    (hw : ∀ b, c.waits b = false) (hfree : ∀ q, ¬n.Waits q) : n'.Punctual c.now p := by
  intro q k' p' hk' hp' ht'
  obtain ⟨k, hk, hmoves⟩ := hm.at? hk'
  have ht : n.told q = false := by
    apply Bool.eq_false_iff.2
    intro ht
    rw [hm.told_mono ht] at ht'
    cases ht'
  have hontime := h q k p' hk hp' ht
  rcases hmoves with rfl | ⟨r', f', -, hm⟩
  · exact hontime
  · rw [← sees_now q c n] at hontime ⊢
    apply hontime.move hm
    · rw [sees_fired hk, hc, ht]
      rfl
    · intro b
      apply Bool.eq_false_iff.2
      intro hb
      obtain ⟨b', hb'⟩ := sees_waits hb
      rw [hw] at hb'
      cases hb'
    · intro q' hq'
      exact hfree _ (hq'.at? hk)

theorem Punctual.tick (h : n.Punctual now p) (hs : n.Pauses now c) (hlt : now < now')
    (ha : ∀ time ∈ n.alarms, now < time → now' ≤ time) : n.Punctual now' p := by
  intro q k p' hk hp ht
  apply (h q k p' hk hp ht).tick (hs.at? hk ht) hlt
  intro time hmem
  exact ha time (alarms_at? hk hmem)

theorem Moves.ended_of_dropped (h : Moves m r c n n' f)
    (hn : ∀ b o, n = .priority b o true → b.outcome?.isSome) {o : Node}
    (he : n' = .priority b o true) : b.outcome?.isSome := by
  cases h with
  | @required r k k' f c o dropped hm =>
    simp only [priority.injEq] at he
    obtain ⟨rfl, rfl, hd⟩ := he
    cases dropped with
    | true => exact absurd hm.outcome?_eq_none (Option.ne_none_iff_isSome.2 (hn _ _ rfl))
    | false =>
      rw [Bool.false_or, Bool.and_eq_true] at hd
      exact hd.1
  | optional hm =>
    cases he
    exact hn _ _ rfl
  | _ => cases he

/-- A preference tells its optional branch to stop only when the required one has ended. -/
theorem Reached.ended_of_dropped {o : Node} (h : Reached p (.priority b o true)) :
    b.outcome?.isSome := by
  refine h.induction (motive := fun n => ∀ b o, n = .priority b o true → b.outcome?.isSome) ?_
    (fun _ ih hm _ _ he => hm.ended_of_dropped ih he) _ _ rfl
  intro b o he
  cases p <;> cases he

/-- A job that tells a branch to stop has come to its own end. -/
theorem OnTime.time_le_of_stops (h : n.OnTime now p) (hr : Reached p n) (hs : n.stops i = true) :
    p.forecast.time ≤ now := by
  cases h with
  | leaf => cases hs
  | noop => cases hs
  | gathering hg =>
    rw [stops, hg] at hs
    cases hs
  | decided _ ht => exact ht
  | @priority _ r dropped _ o hrequired =>
    obtain ⟨-, rfl⟩ : i = 1 ∧ dropped = true := by simpa [stops] using hs
    exact (hrequired.report hr.ended_of_dropped).2
  | timeout => cases hs
  | expired hlate hnow =>
    rw [forecast_timeout, Nat.min_eq_right (Nat.le_of_lt hlate)]
    exact hnow
  | filter => cases hs

/-- A token fires only when a job above the place ends. -/
theorem Punctual.cut_le_now (h : n.Punctual now p) (hr : Reached p n) (hp : p.at? q = some p')
    (ht : n.told q = true) : p.cut q ≤ now := by
  induction q generalizing n p with
  | nil => cases ht
  | cons i q ih =>
    obtain ⟨p₁, hp₁, hp⟩ := Plan.at?_cons_eq_some.1 hp
    rw [Plan.cut_le_iff hp₁]
    cases hs : n.stops i with
    | true =>
      left
      exact_mod_cast h.onTime.time_le_of_stops hr hs
    | false =>
      simp only [told, hs, Bool.false_or, Option.any_eq_true] at ht
      obtain ⟨b, hb, ht⟩ := ht
      obtain ⟨p₂, hp₂, hr'⟩ := hr.branch hb
      obtain rfl : p₂ = p₁ := Option.some.inj (hp₂.symm.trans hp₁)
      exact .inr (ih (h.branch hb hp₁ hs) hr' hp ht)

/-- As long as the token of a place has not fired and the job there goes on, no job above it is at
its end. -/
theorem Punctual.now_le_cut (h : n.Punctual now p) (hk : n.at? q = some k)
    (hp : p.at? q = some p') (ht : n.told q = false) (ho : k.outcome? = none) :
    now ≤ p.cut q := by
  induction q generalizing n p with
  | nil => exact le_top
  | cons i q ih =>
    obtain ⟨p₁, hp₁, hp⟩ := Plan.at?_cons_eq_some.1 hp
    have hopen : n.outcome? = none := by
      by_contra hended
      have := ended_at? (Option.ne_none_iff_isSome.1 hended) hk
      rw [ho] at this
      cases this
    obtain ⟨b, hb, hk⟩ := at?_cons_eq_some.1 hk
    rw [told_cons hb, Bool.or_eq_false_iff] at ht
    refine (Plan.le_cut_iff hp₁ q).2 ⟨?_, ih (h.branch hb hp₁ ht.1) hk hp ht.2⟩
    exact_mod_cast h.onTime.now_le hopen

end Node

end SearchPlan
