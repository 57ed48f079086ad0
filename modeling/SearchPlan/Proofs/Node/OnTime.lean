import SearchPlan.Proofs.Forecast
import SearchPlan.Proofs.Node.Gathering
import SearchPlan.Proofs.Node.Work

/-! A running tree that nobody stops from outside, whose sends never wait, and in which the clock
goes on only when nothing can move. It keeps to the times in the forecast of its plan. -/

namespace SearchPlan

variable {c : Context} {m : Move} {q : Path} {f : Flow} {now now' : Nat}

inductive Phase.OnTime (now : Nat) (s : Script) : Phase → Prop
  | idle : now = 0 → OnTime now s .idle
  | running : now + Step.naps rest = Step.naps s.steps → OnTime now s (.running rest)
  | sleeping : wakeAt + Step.naps rest = Step.naps s.steps → now ≤ wakeAt →
      OnTime now s (.sleeping wakeAt rest)
  | returned : Step.naps s.steps ≤ now → OnTime now s (.returned s.ending false)

namespace Phase

variable {s : Script} {ph ph' : Phase} {pr pr' : Probe}

theorem Moves.onTime (h : Moves c s m ph pr ph' pr' f) (hc : c.fired = false)
    (hw : ∀ b, c.waits b = false) (ht : ph.OnTime c.now s) : ph'.OnTime c.now s := by
  cases h with
  | start =>
    obtain ⟨hnow⟩ := ht
    exact .running (by rw [hnow, Nat.zero_add])
  | finish =>
    obtain _ | ⟨ht⟩ := ht
    rw [hc]
    exact .returned (Nat.le_of_eq ht.symm)
  | pass _ hd =>
    obtain _ | ⟨ht⟩ := ht
    rw [Step.naps_cons, Step.nap, hd, Nat.zero_add] at ht
    exact .running ht
  | sleep =>
    obtain _ | ⟨ht⟩ := ht
    rw [Step.naps_cons, Step.nap, ← Nat.add_assoc] at ht
    exact .sleeping ht (Nat.le_add_right _ _)
  | emit =>
    obtain _ | ⟨ht⟩ := ht
    rw [Step.naps_cons, Step.nap, Nat.zero_add] at ht
    exact .running ht
  | wake hdue =>
    cases ht with
    | sleeping ht hnow =>
      rw [← Nat.le_antisymm hnow hdue] at ht
      exact .running ht
  | queue _ hb => simp [hw] at hb
  | resume => cases ht
  | skip hfired => simp [hc] at hfired
  | stop hfired => simp [hc] at hfired
  | halt hfired => simp [hc] at hfired

theorem OnTime.report {name : String} {o : Outcome} (ht : ph.OnTime now s)
    (ho : ph.outcome? name = some o) :
    (∃ as, o = .done ⟨(Plan.leaf s).forecast.status, as⟩) ∧ (Plan.leaf s).forecast.time ≤ now := by
  cases ht with
  | returned ht =>
    cases ho
    refine ⟨?_, ht⟩
    simp only [Script.ending, Plan.forecast]
    cases s.failure with
    | some e => exact ⟨_, rfl⟩
    | none => cases s.status <;> exact ⟨_, rfl⟩
  | _ => cases ho

theorem OnTime.now_le {name : String} (ht : ph.OnTime now s) (ho : ph.outcome? name = none) :
    now ≤ Step.naps s.steps := by
  cases ht with
  | idle ht => omega
  | running ht => omega
  | sleeping ht hnow => omega
  | returned => cases ho

theorem OnTime.alarm {name : String} (ht : ph.OnTime c.now s) (ho : ph.outcome? name = none)
    (hx : ph.next? c = none) : ∃ wakeAt rest, ph = .sleeping wakeAt rest ∧ c.now < wakeAt ∧
      wakeAt + Step.naps rest = Step.naps s.steps := by
  cases ht with
  | @sleeping wakeAt rest ht hnow =>
    simp only [next?] at hx
    split at hx
    · cases hx
    case isFalse hdue => exact ⟨wakeAt, rest, rfl, by omega, ht⟩
  | returned => cases ho
  | _ => cases hx

theorem OnTime.tick (ht : ph.OnTime c.now s) (hx : ph.next? c = none) (hlt : c.now < now')
    (ha : ∀ wakeAt rest, ph = .sleeping wakeAt rest → c.now < wakeAt → now' ≤ wakeAt) :
    ph.OnTime now' s := by
  cases ht with
  | sleeping ht hnow =>
    simp only [next?] at hx
    split at hx
    · cases hx
    case isFalse hdue => exact .sleeping ht (ha _ _ rfl (Nat.lt_of_not_le hdue))
  | returned ht => exact .returned (Nat.le_trans ht (Nat.le_of_lt hlt))
  | _ => cases hx

end Phase

namespace Node

/-- The node does its plan, has lost no time since the start of the run, and was stopped by nothing
but what stops it in the plan. -/
inductive OnTime (now : Nat) : Plan → Node → Prop
  | leaf : ph.OnTime now s → OnTime now (.leaf s) (.leaf s ph pr)
  | noop : (seen = false → now = 0) → OnTime now .noop (.noop seen)
  | gathering : g.decision = none → g.Heard mode ns →
      ns.length = (first :: rest).length →
      (∀ (i : Nat) p n, (first :: rest)[i]? = some p → ns[i]? = some n → OnTime now p n) →
      OnTime now (.group mode first rest) (.group mode ns g)
  | decided : g.decision = some (Plan.group mode first rest).forecast.status →
      (Plan.group mode first rest).forecast.time ≤ now →
      ((Node.group mode ns g).outcome? = none → now ≤ (Plan.group mode first rest).forecast.time) →
      OnTime now (.group mode first rest) (.group mode ns g)
  | priority : OnTime now p r →
      (r.outcome?.isSome → o.outcome? = none → dropped = true ∧ now ≤ p.forecast.time) →
      OnTime now (.priority p p') (.priority r o dropped)
  | timeout : OnTime now p n → (n.outcome? = none → now ≤ d.millis) →
      (n.outcome?.isSome → p.forecast.time ≤ d.millis) →
      OnTime now (.timeout d p) (.timeout d n false false)
  | expired : d.millis < p.forecast.time → d.millis ≤ now → (n.outcome? = none → now ≤ d.millis) →
      OnTime now (.timeout d p) (.timeout d n true false)
  | filter : OnTime now p n → OnTime now (.filter allows p) (.filter allows n)

variable {p first : Plan} {rest : List Plan} {n n' : Node} {mode : Mode} {ns : List Node}
  {g : Gathered} {i : Nat}

theorem onTime_ofPlan (h : p.uncapped = true) : OnTime 0 p (ofPlan p) := by
  induction p with
  | leaf s => exact .leaf (.idle rfl)
  | noop => exact .noop fun _ => rfl
  | group mode first rest ihf ihr =>
    simp only [Plan.uncapped, Bool.and_eq_true, Plan.uncappedAll_eq_true] at h
    have hns : ofPlan first :: ofPlans rest = (first :: rest).map ofPlan := by
      rw [ofPlans_eq_map, List.map_cons]
    rw [ofPlan, hns]
    refine .gathering rfl (.start ?_) (List.length_map _) ?_
    · exact List.forall_mem_map.2 fun p _ => outcome?_ofPlan p
    · intro i p n hp hn
      rw [List.getElem?_map, hp] at hn
      cases hn
      rcases List.mem_cons.1 (List.mem_of_getElem? hp) with rfl | hp
      · exact ihf h.1
      · exact ihr p hp (h.2 p hp)
  | priority r o ihr iho =>
    simp only [Plan.uncapped, Bool.and_eq_true] at h
    refine .priority (ihr h.1) ?_
    simp [outcome?_ofPlan]
  | timeout d p ih =>
    refine .timeout (ih h) (fun _ => Nat.zero_le _) ?_
    simp [outcome?_ofPlan]
  | limit => cases h
  | filter allows p ih => exact .filter (ih h)

theorem exists_same_place {α β : Type} {xs : List α} {ys : List β} {x : α}
    (hlen : ys.length = xs.length) (hx : x ∈ xs) :
    ∃ (i : Nat) (y : β), xs[i]? = some x ∧ ys[i]? = some y := by
  obtain ⟨i, hi, rfl⟩ := List.mem_iff_getElem.1 hx
  exact ⟨i, _, List.getElem?_eq_getElem hi, List.getElem?_eq_getElem (hlen ▸ hi)⟩

/-- A group that has not decided ends with the verdict on its branches. -/
theorem outcome_of_gathering (hg : g.decision = none) (hheard : g.Heard mode ns)
    (hlen : ns.length = (first :: rest).length)
    (hbranch : ∀ (i : Nat) p n, (first :: rest)[i]? = some p → ns[i]? = some n →
      n.Reports p.forecast.status) :
    (∀ f ∈ (first :: rest).map Plan.forecast, mode.decisive ≠ some f.status) ∧
      g.outcome mode = .done ⟨(Plan.group mode first rest).forecast.status, g.alerts⟩ := by
  have hreports (st : Status) :
      (∃ n ∈ ns, n.Reports st) ↔ st ∈ ((first :: rest).map Plan.forecast).map Forecast.status := by
    simp only [List.mem_map, exists_exists_and_eq_and]
    constructor
    · rintro ⟨n, hn, hst⟩
      obtain ⟨i, p, hn, hp⟩ := exists_same_place hlen.symm hn
      exact ⟨p, List.mem_of_getElem? hp, (hbranch i p n hp hn).eq hst⟩
    · rintro ⟨p, hp, rfl⟩
      obtain ⟨i, n, hp, hn⟩ := exists_same_place hlen hp
      exact ⟨n, List.mem_of_getElem? hn, hbranch i p n hp hn⟩
  have hundecided : ∀ f ∈ (first :: rest).map Plan.forecast, mode.decisive ≠ some f.status := by
    intro f hf
    exact hheard.knows.undecided hg _ ((hreports _).2 (List.mem_map_of_mem hf))
  have hinterrupted : g.interrupted = false := by
    rw [← Bool.not_eq_true, hheard.knows.interrupted hg]
    rintro ⟨n, hn, as, ho⟩
    obtain ⟨i, p, hn, hp⟩ := exists_same_place hlen.symm hn
    obtain ⟨as', ho'⟩ := hbranch i p n hp hn
    rw [ho] at ho'
    cases ho'
  have hverdict : mode.verdict g.statuses =
      mode.verdict (((first :: rest).map Plan.forecast).map Forecast.status) := by
    apply Mode.verdict_congr
    intro st
    rw [hheard.knows.statuses hg, hreports]
  rw [Plan.forecast_group, Mode.forecast_of_undecided hundecided]
  exact ⟨hundecided, by simp [Gathered.outcome, hg, hinterrupted, hverdict]⟩

theorem report_of_gathering (hg : g.decision = none) (hheard : g.Heard mode ns)
    (hlen : ns.length = (first :: rest).length)
    (hbranch : ∀ (i : Nat) p n, (first :: rest)[i]? = some p → ns[i]? = some n →
      n.Reports p.forecast.status ∧ p.forecast.time ≤ now) :
    g.outcome mode = .done ⟨(Plan.group mode first rest).forecast.status, g.alerts⟩ ∧
      (Plan.group mode first rest).forecast.time ≤ now := by
  obtain ⟨hundecided, hout⟩ :=
    outcome_of_gathering hg hheard hlen fun i p n hp hn => (hbranch i p n hp hn).1
  refine ⟨hout, ?_⟩
  rw [Plan.forecast_group, Mode.forecast_of_undecided hundecided]
  apply Forecast.latest_le
  intro f hf
  obtain ⟨p, hp, rfl⟩ := List.mem_map.1 hf
  obtain ⟨i, n, hp, hn⟩ := exists_same_place hlen hp
  exact (hbranch i p n hp hn).2

/-- A node that has ended did so at its time and with its status. -/
theorem OnTime.report (h : OnTime now p n) (ho : n.outcome?.isSome) :
    n.Reports p.forecast.status ∧ p.forecast.time ≤ now := by
  induction h with
  | leaf hph =>
    obtain ⟨o, ho⟩ := Option.isSome_iff_exists.1 ho
    obtain ⟨⟨as, rfl⟩, ht⟩ := hph.report ho
    exact ⟨⟨as, ho⟩, ht⟩
  | @noop seen _ =>
    cases seen with
    | true => exact ⟨⟨[], rfl⟩, Nat.zero_le _⟩
    | false => cases ho
  | @gathering first rest ns mode g hg hheard hlen hbranch ih =>
    simp only [outcome?] at ho
    split at ho
    case isTrue hended =>
      rw [ended_eq_true] at hended
      obtain ⟨hout, ht⟩ := report_of_gathering hg hheard hlen
        fun i p n hp hn => ih i p n hp hn (hended n (List.mem_of_getElem? hn))
      refine ⟨⟨g.alerts, ?_⟩, ht⟩
      rw [outcome?, if_pos (ended_eq_true.2 hended), hout]
    case isFalse => cases ho
  | @decided mode first rest ns g hg ht _ =>
    refine ⟨⟨g.alerts, ?_⟩, ht⟩
    simp only [outcome?] at ho ⊢
    split at ho
    case isTrue hended => simp [hended, Gathered.outcome, hg]
    case isFalse => cases ho
  | @priority p r dropped p' o hr hdone ih =>
    simp only [outcome?] at ho
    split at ho
    case h_1 ro bo hro hbo =>
      obtain ⟨⟨as, hr⟩, ht⟩ := ih (by rw [hro]; rfl)
      obtain ⟨as', hp⟩ := preferred_done o.name dropped ⟨p.forecast.status, as⟩ bo
      exact ⟨⟨as', by simp only [outcome?, hr, hbo, hp]; rfl⟩, ht⟩
    case h_2 => cases ho
  | timeout hn hopen hover ih =>
    simp only [outcome?, Option.isSome_map] at ho
    obtain ⟨⟨as, ho'⟩, ht⟩ := ih ho
    rw [Plan.forecast, if_pos (hover ho)]
    exact ⟨⟨as, by rw [outcome?, ho']; rfl⟩, ht⟩
  | expired hlate hnow hopen =>
    simp only [outcome?, Option.isSome_map] at ho
    obtain ⟨o, ho⟩ := Option.isSome_iff_exists.1 ho
    rw [Plan.forecast, if_neg (by omega)]
    exact ⟨⟨_, by rw [outcome?, ho]; rfl⟩, hnow⟩
  | filter hn ih => exact ih ho

/-- A group that is still gathering waits for a branch that will not end after it. -/
theorem exists_open_branch (hg : g.decision = none) (hheard : g.Heard mode ns)
    (hlen : ns.length = (first :: rest).length)
    (hbranch : ∀ (i : Nat) p n, (first :: rest)[i]? = some p → ns[i]? = some n → OnTime now p n)
    (ho : (Node.group mode ns g).outcome? = none) :
    ∃ (i : Nat) (p : Plan) (n : Node), (first :: rest)[i]? = some p ∧ ns[i]? = some n ∧
      n.outcome? = none ∧ p.forecast.time ≤ (Plan.group mode first rest).forecast.time := by
  rw [Plan.forecast_group]
  by_cases hd : ∃ f ∈ (first :: rest).map Plan.forecast, mode.decisive = some f.status
  · obtain ⟨f, hf, hd⟩ := hd
    obtain ⟨hmem, hst, -⟩ := Mode.forecast_of_decisive hf hd
    obtain ⟨p, hp, hpf⟩ := List.mem_map.1 hmem
    obtain ⟨i, n, hp, hn⟩ := exists_same_place hlen hp
    refine ⟨i, p, n, hp, hn, ?_, Nat.le_of_eq (by rw [hpf])⟩
    by_contra hended
    obtain ⟨hreports, -⟩ := (hbranch i p n hp hn).report (Option.ne_none_iff_isSome.1 hended)
    apply hheard.knows.undecided hg _ ⟨n, List.mem_of_getElem? hn, hreports⟩
    rw [hpf, hst, hd]
  · simp only [not_exists, not_and] at hd
    obtain ⟨n, hn, ho⟩ := exists_open_of_group ho
    obtain ⟨i, p, hn, hp⟩ := exists_same_place hlen.symm hn
    refine ⟨i, p, n, hp, hn, ho, ?_⟩
    rw [Mode.forecast_of_undecided hd]
    exact Forecast.le_latest (List.mem_map_of_mem (List.mem_of_getElem? hp))

theorem forecast_timeout (d : Duration) (p : Plan) :
    (Plan.timeout d p).forecast.time = min p.forecast.time d.millis := by
  rw [Plan.forecast]
  split
  case isTrue h => rw [Nat.min_eq_left h]
  case isFalse h => exact (Nat.min_eq_right (Nat.le_of_not_le h)).symm

/-- A node that has not ended is not late. -/
theorem OnTime.now_le (h : OnTime now p n) (ho : n.outcome? = none) : now ≤ p.forecast.time := by
  induction h with
  | leaf hph => exact hph.now_le ho
  | @noop seen hseen =>
    cases seen with
    | true => cases ho
    | false => exact Nat.le_of_eq (hseen rfl)
  | gathering hg hheard hlen hbranch ih =>
    obtain ⟨i, p, n, hp, hn, ho, ht⟩ := exists_open_branch hg hheard hlen hbranch ho
    exact Nat.le_trans (ih i p n hp hn ho) ht
  | decided _ _ hnow => exact hnow ho
  | @priority p r dropped p' o hr hdone ih =>
    cases hro : r.outcome? with
    | none => exact ih hro
    | some ro =>
      have hoo : o.outcome? = none := by
        cases hoo : o.outcome? with
        | none => rfl
        | some oo => simp [outcome?, hro, hoo] at ho
      exact (hdone (by rw [hro]; rfl) hoo).2
  | timeout hn hopen _ ih =>
    rw [forecast_timeout]
    have ho := Option.map_eq_none_iff.1 ho
    exact Nat.le_min.2 ⟨ih ho, hopen ho⟩
  | expired hlate _ hopen =>
    rw [forecast_timeout, Nat.min_eq_right (Nat.le_of_lt hlate)]
    exact hopen (Option.map_eq_none_iff.1 ho)
  | filter _ ih => exact ih ho

/-- A node in which nothing can move, but that has not ended, has an alarm that goes off in time. -/
theorem OnTime.alarm (h : OnTime now p n) (hs : n.Pauses now c) (ho : n.outcome? = none) :
    ∃ time ∈ n.alarms, now < time ∧ time ≤ p.forecast.time := by
  induction h generalizing c with
  | leaf hph =>
    obtain rfl := hs.now_eq
    obtain ⟨wakeAt, rest, rfl, hlt, ht⟩ := hph.alarm ho (Option.map_eq_none_iff.1 hs.still.next)
    refine ⟨wakeAt, List.mem_singleton_self _, hlt, ?_⟩
    rw [Plan.forecast, ← ht]
    exact Nat.le_add_right _ _
  | @noop seen =>
    cases seen with
    | true => cases ho
    | false => cases hs.still.next
  | gathering hg hheard hlen hbranch ih =>
    obtain ⟨i, p, n, hp, hn, hopen, ht⟩ := exists_open_branch hg hheard hlen hbranch ho
    obtain ⟨time, ha, hlt, hle⟩ := ih i p n hp hn (hs.branch hn (by rw [stops, hg]; rfl)) hopen
    exact ⟨time, alarms_branch hn ha, hlt, Nat.le_trans hle ht⟩
  | decided hg => exact absurd ho (hs.still.group_ended hg)
  | @priority p r dropped p' o hr hdone ih =>
    cases hro : r.outcome? with
    | none =>
      obtain ⟨time, ha, hlt, hle⟩ := ih (hs.branch (i := 0) rfl rfl) hro
      exact ⟨time, alarms_branch (i := 0) rfl ha, hlt, hle⟩
    | some ro =>
      cases hoo : o.outcome? with
      | none =>
        have hdropped := (hdone (by rw [hro]; rfl) hoo).1
        exact absurd hoo (hs.still.ended_of_stops (i := 1) rfl (by rw [stops, hdropped]; rfl))
      | some oo => simp [outcome?, hro, hoo] at ho
  | @timeout p n d hn hopen _ ih =>
    have ho := Option.map_eq_none_iff.1 ho
    have hdue := now_lt_of_next?_eq_none hs.still.next ho
    rw [hs.now_eq] at hdue
    rw [forecast_timeout]
    rcases Nat.le_total p.forecast.time d.millis with ht | ht
    · obtain ⟨time, ha, hlt, hle⟩ := ih (hs.branch (i := 0) rfl rfl) ho
      exact ⟨time, alarms_branch (i := 0) rfl ha, hlt, Nat.le_min.2 ⟨hle, Nat.le_trans hle ht⟩⟩
    · exact ⟨d.millis, by simp [alarms, ho], hdue, Nat.le_min.2 ⟨ht, Nat.le_refl _⟩⟩
  | expired => exact absurd (Option.map_eq_none_iff.1 ho) (hs.still.ended_of_stops (i := 0) rfl rfl)
  | filter _ ih => exact ih (hs.branch (i := 0) rfl rfl) ho

/-- When nothing can move, the clock may go on to the next alarm. -/
theorem OnTime.tick (h : OnTime now p n) (hs : n.Pauses now c) (hlt : now < now')
    (ha : ∀ time ∈ n.alarms, now < time → now' ≤ time) : OnTime now' p n := by
  induction h generalizing c with
  | leaf hph =>
    obtain rfl := hs.now_eq
    refine .leaf (hph.tick (Option.map_eq_none_iff.1 hs.still.next) hlt ?_)
    rintro wakeAt rest rfl hwake
    exact ha wakeAt (List.mem_singleton_self _) hwake
  | @noop seen =>
    cases seen with
    | true => exact .noop nofun
    | false => cases hs.still.next
  | gathering hg hheard hlen hbranch ih =>
    refine .gathering hg hheard hlen ?_
    intro i p n hp hn
    apply ih i p n hp hn (hs.branch hn (by rw [stops, hg]; rfl))
    intro time ht
    exact ha time (alarms_branch hn ht)
  | decided hg ht _ =>
    exact .decided hg (Nat.le_trans ht (Nat.le_of_lt hlt))
      fun ho => absurd ho (hs.still.group_ended hg)
  | priority hr hdone ih =>
    refine .priority ?_ ?_
    · apply ih (hs.branch (i := 0) rfl rfl)
      intro time ht
      exact ha time (alarms_branch (i := 0) rfl ht)
    · intro hro hoo
      have hdropped := (hdone hro hoo).1
      exact absurd hoo (hs.still.ended_of_stops (i := 1) rfl (by rw [stops, hdropped]; rfl))
  | @timeout p n d hn hopen hover ih =>
    refine .timeout ?_ ?_ hover
    · apply ih (hs.branch (i := 0) rfl rfl)
      intro time ht
      exact ha time (alarms_branch (i := 0) rfl ht)
    · intro ho
      have hdue := now_lt_of_next?_eq_none hs.still.next ho
      rw [hs.now_eq] at hdue
      exact ha d.millis (by simp [alarms, ho]) hdue
  | expired hlate hdue _ =>
    exact .expired hlate (Nat.le_trans hdue (Nat.le_of_lt hlt))
      fun ho => absurd ho (hs.still.ended_of_stops (i := 0) rfl rfl)
  | filter _ ih => exact .filter (ih (hs.branch (i := 0) rfl rfl) ha)

theorem hear_of_decided {st : Status} (hg : g.decision = some st) (mode : Mode)
    (o : Option Outcome) : (g.hear mode o).decision = some st := by
  cases o with
  | none => exact hg
  | some o => rw [Gathered.hear, Gathered.add_of_decided hg, hg]

theorem getElem?_middle {ms us : List Node} {b b' k : Node} (h : (ms ++ b' :: us)[i]? = some k) :
    (i = ms.length ∧ k = b') ∨ (ms ++ b :: us)[i]? = some k := by
  rcases Nat.lt_trichotomy i ms.length with hi | hi | hi
  · right
    rwa [List.getElem?_append_left hi] at h ⊢
  · left
    subst hi
    refine ⟨rfl, ?_⟩
    simpa using h.symm
  · right
    rw [List.getElem?_append_right (Nat.le_of_lt hi)] at h ⊢
    obtain ⟨j, hj⟩ := Nat.exists_eq_succ_of_ne_zero (Nat.sub_ne_zero_of_lt hi)
    rwa [hj, List.getElem?_cons_succ] at h ⊢

/-- A group with a branch that has moved is still gathering, or that branch has decided for it. -/
theorem onTime_of_hear (hheard : g.Heard mode ns) (hlen : ns.length = (first :: rest).length)
    (hbranch : ∀ (i : Nat) p n, (first :: rest)[i]? = some p → ns[i]? = some n → OnTime now p n)
    (hnow : now ≤ (Plan.group mode first rest).forecast.time) :
    OnTime now (.group mode first rest) (.group mode ns g) := by
  cases hg : g.decision with
  | none => exact .gathering hg hheard hlen hbranch
  | some st =>
    obtain ⟨hdecisive, n, hn, hreports⟩ := hheard.knows.decided st hg
    obtain ⟨i, p, hn, hp⟩ := exists_same_place hlen.symm hn
    obtain ⟨hst, ht⟩ := (hbranch i p n hp hn).report (by
      obtain ⟨as, ho⟩ := hreports
      rw [ho]
      rfl)
    obtain rfl := hreports.eq hst
    obtain ⟨-, hst, hle⟩ := Mode.forecast_of_decisive
      (List.mem_map_of_mem (f := Plan.forecast) (List.mem_of_getElem? hp)) hdecisive
    rw [← Plan.forecast_group] at hst hle
    exact .decided (by rw [hg, hst]) (Nat.le_trans hle ht) fun _ => hnow

/-- A move costs no time. -/
theorem OnTime.move (h : OnTime c.now p n) (hm : Moves m q c n n' f) (hc : c.fired = false)
    (hw : ∀ b, c.waits b = false) (hfree : ∀ q, ¬n.Waits q) : OnTime c.now p n' := by
  have hopen := hm.outcome?_eq_none
  induction hm generalizing p with
  | leaf hm =>
    cases h with
    | leaf hph => exact .leaf (hm.onTime hc hw hph)
  | noop =>
    cases h
    exact .noop nofun
  | @expire c d n fired _ ho hdue hx =>
    cases h with
    | timeout hn hnow hover =>
      have hpauses : n.Pauses c.now ((c.scope false).branch 0) := by
        refine ⟨rfl, ?_, hx, fun q hq => hfree _ (hq.cons (i := 0) rfl)⟩
        simp [Context.scope, Context.branch, hc]
      -- the branch has an alarm after the deadline, and so ends after it
      obtain ⟨time, -, hlt, hle⟩ := hn.alarm hpauses ho
      exact .expired (Nat.lt_of_le_of_lt hdue (Nat.lt_of_lt_of_le hlt hle)) hdue hnow
  | @group p b b' f c mode ms us g hm ih =>
    cases h with
    | gathering hg hheard hlen hbranch =>
      have hnow := (OnTime.gathering hg hheard hlen hbranch).now_le hopen
      refine onTime_of_hear (hheard.hear hm.outcome?_eq_none) (by simpa using hlen) ?_ hnow
      intro i p k hp hk
      rcases getElem?_middle (b := b) hk with ⟨rfl, rfl⟩ | hk
      · have hb : (ms ++ b :: us)[ms.length]? = some b := by simp
        exact ih (hbranch _ _ _ hp hb) (by simp [Context.scope, Context.branch, hc, hg]) hw
          (fun q hq => hfree _ (hq.cons hb)) hm.outcome?_eq_none
      · exact hbranch i p k hp hk
    -- what a branch comes to after the decision is not heard
    | decided hg ht hnow => exact .decided (hear_of_decided hg mode _) ht fun _ => hnow hopen
  | required hm ih =>
    cases h with
    | priority hr hdone =>
      refine .priority ?_ ?_
      · exact ih hr (by simp [Context.branch, hc]) hw
          (fun q hq => hfree _ (hq.cons (i := 0) rfl)) hm.outcome?_eq_none
      · intro hro hoo
        refine ⟨by simp [hro, hoo], ?_⟩
        exact hr.now_le hm.outcome?_eq_none
  | optional hm ih =>
    cases h with
    | priority hr hdone => exact .priority hr fun hro _ => hdone hro hm.outcome?_eq_none
  | timeout hm ih =>
    cases h with
    | timeout hn hnow hover =>
      have hn' := ih hn (by simp [Context.scope, Context.branch, hc]) hw
        (fun q hq => hfree _ (hq.cons (i := 0) rfl)) hm.outcome?_eq_none
      have hdue := hnow hm.outcome?_eq_none
      rw [hc]
      exact .timeout hn' (fun _ => hdue) fun ho => Nat.le_trans (hn'.report ho).2 hdue
    | expired hlate hdue hnow =>
      rw [hc]
      exact .expired hlate hdue fun _ => hnow hm.outcome?_eq_none
  | limit hm ih => cases h
  | filter hm ih =>
    cases h with
    | filter hn =>
      refine .filter (ih hn ?_ ?_ (fun q hq => hfree _ (hq.cons (i := 0) rfl)) hm.outcome?_eq_none)
      · simp [Context.through, Context.branch, hc]
      · simp [Context.through, Context.branch, hw]

end Node

end SearchPlan
