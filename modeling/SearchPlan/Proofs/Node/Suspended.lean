import SearchPlan.Proofs.Node.Gathering
import SearchPlan.Proofs.Node.Next

/-! A running tree of which nothing is left but scripts that sleep and what waits for them. If its
token fires now, it gives up at once. -/

namespace SearchPlan

variable {c : Context} {m : Move} {p : Path} {f : Flow} {now : Nat} {pl : Plan}

theorem Phase.Moves.batch_of_fired {s : Script} {ph ph' : Phase} {pr pr' : Probe}
    (h : Phase.Moves c s m ph pr ph' pr' f) (hc : c.fired = true) : f.batch = [] := by
  cases h with
  | queue hlive => simp [hc] at hlive
  | emit hlive => simp [hc] at hlive
  | _ => rfl

namespace Node

/-- The node sleeps beyond `now`, or has been stopped in its sleep by its token. What it has come to
before decides nothing. -/
inductive Suspended (now : Nat) : Node → Prop
  | asleep : now < wakeAt → Suspended now (.leaf s (.sleeping wakeAt rest) pr)
  | stopped : Suspended now (.leaf s (.returned (.finished .partialSuccess) true) pr)
  | group : g.decision = none → b ∈ ns → Suspended now b →
      (∀ b ∈ ns, b.outcome? = none → Suspended now b) → Suspended now (.group mode ns g)
  | priority : Suspended now r → Suspended now (.priority r o dropped)
  | timeout : now < d.millis → Suspended now n → Suspended now (.timeout d n false fired)
  | limit : (n.outcome?.isSome → fired = true) → Suspended now n →
      Suspended now (.limit q n stopped fired)
  | filter : Suspended now n → Suspended now (.filter allows n)

variable {n n' b r o : Node}

/-- No script hands anything over once its token has fired. -/
theorem Moves.batch_of_fired (h : Moves m p c n n' f) (hc : c.fired = true) : f.batch = [] := by
  induction p generalizing c n n' f with
  | nil =>
    cases h with
    | leaf h => exact h.batch_of_fired hc
    | _ => rfl
  | cons i p ih =>
    obtain ⟨b, b', f', -, hm, -, -, hfirst, -⟩ := h.branch
    have hnil := ih hm (by rw [under_fired, hc, Bool.true_or])
    rwa [hnil, List.filter_nil, List.prefix_nil] at hfirst

theorem Moves.dropped (h : Moves m p c n n' f)
    (hn : ∀ r o dropped, n = .priority r o dropped → r.outcome?.isSome → o.outcome? = none →
      dropped = true)
    {dropped : Bool} (he : n' = .priority r o dropped) (hr : r.outcome?.isSome)
    (ho : o.outcome? = none) : dropped = true := by
  cases h with
  | required hm =>
    cases he
    simp [hr, ho]
  | optional hm =>
    cases he
    exact hn _ _ _ rfl hr hm.outcome?_eq_none
  | _ => cases he

/-- A preference whose required branch has ended first has told the other to stop. -/
theorem Reached.dropped {dropped : Bool} (h : Reached pl (.priority r o dropped))
    (hr : r.outcome?.isSome) (ho : o.outcome? = none) : dropped = true := by
  refine h.induction (motive := fun n => ∀ r o dropped, n = .priority r o dropped →
    r.outcome?.isSome → o.outcome? = none → dropped = true) ?_
    (fun _ ih hm _ _ _ he hr ho => hm.dropped ih he hr ho) _ _ _ rfl hr ho
  intro r o dropped he hr
  cases pl with
  | priority =>
    cases he
    rw [outcome?_ofPlan] at hr
    cases hr
  | _ => cases he

/-- Where nothing can move and all alarms are later, a node that has not ended is suspended. -/
theorem Pauses.suspended {time : Nat} (h : n.Pauses now c) (hr : Reached pl n)
    (ho : n.outcome? = none) (ha : ∀ a ∈ n.alarms, time < a) : Suspended time n := by
  induction n generalizing c pl with
  | leaf s ph pr =>
    have hx := h.still.next
    cases ph with
    | sleeping wakeAt rest => exact .asleep (ha wakeAt (List.mem_singleton_self _))
    | sending size rest => exact absurd ⟨s, size, rest, pr, rfl⟩ (h.still.free [])
    | returned => cases ho
    | skipped => cases ho
    | _ => cases hx
  | noop seen =>
    have hx := h.still.next
    cases seen with
    | true => cases ho
    | false => cases hx
  | group mode ns g ih =>
    have hg : g.decision = none := by
      cases hg : g.decision with
      | none => rfl
      | some st => exact absurd ho (h.still.group_ended hg)
    have hall : ∀ b ∈ ns, b.outcome? = none → Suspended time b := by
      intro b hb hopen
      obtain ⟨i, hi⟩ := List.mem_iff_getElem?.1 hb
      obtain ⟨p', -, hp'⟩ := hr.branch hi
      exact ih b hb (h.branch hi (by rw [stops, hg]; rfl)) hp' hopen
        fun a hab => ha a (alarms_branch hi hab)
    obtain ⟨b, hb, hopen⟩ := exists_open_of_group ho
    exact .group hg hb (hall b hb hopen) hall
  | priority r o dropped ihr iho =>
    obtain ⟨p', -, hp'⟩ := hr.branch (i := 0) rfl
    refine .priority (ihr (h.branch (i := 0) rfl rfl) hp' ?_
      fun a har => ha a (alarms_branch (i := 0) rfl har))
    by_contra hro
    have hro := Option.ne_none_iff_isSome.1 hro
    -- the other branch was told to stop then, and has ended
    cases hoo : o.outcome? with
    | none =>
      have hdropped := hr.dropped hro hoo
      exact absurd hoo (h.still.ended_of_stops (i := 1) rfl (by rw [stops, hdropped]; rfl))
    | some oo =>
      obtain ⟨ro, hro⟩ := Option.isSome_iff_exists.1 hro
      simp [outcome?, hro, hoo] at ho
  | timeout d k expired fired ih =>
    have hopen := Option.map_eq_none_iff.1 ho
    cases expired with
    | true => exact absurd hopen (h.still.ended_of_stops (i := 0) rfl rfl)
    | false =>
      obtain ⟨p', -, hp'⟩ := hr.branch (i := 0) rfl
      refine .timeout (ha _ (by simp [alarms, hopen])) (ih (h.branch (i := 0) rfl rfl) hp' hopen ?_)
      exact fun a hak => ha a (alarms_branch (i := 0) rfl hak)
  | limit quota k stopped fired ih =>
    have hopen := Option.map_eq_none_iff.1 ho
    cases stopped with
    | true => exact absurd hopen (h.still.ended_of_stops (i := 0) rfl rfl)
    | false =>
      obtain ⟨p', -, hp'⟩ := hr.branch (i := 0) rfl
      exact .limit (by simp [hopen]) (ih (h.branch (i := 0) rfl rfl) hp' hopen ha)
  | filter allows k ih =>
    obtain ⟨p', -, hp'⟩ := hr.branch (i := 0) rfl
    exact .filter (ih (h.branch (i := 0) rfl rfl) hp' ho ha)

theorem Suspended.gaveUp (h : Suspended now n) (hr : Reached pl n) (ho : n.outcome?.isSome) :
    n.GaveUp := by
  induction h generalizing pl with
  | asleep => cases ho
  | stopped => exact ⟨[], rfl⟩
  | @group ns b mode g hg hb _ _ ih =>
    obtain ⟨i, hi⟩ := List.mem_iff_getElem?.1 hb
    obtain ⟨p', -, hp'⟩ := hr.branch hi
    simp only [outcome?] at ho
    split at ho
    case isTrue hended =>
      have hbg := ih hp' (ended_eq_true.1 hended b hb)
      have hinterrupted := (hr.heard.knows.interrupted hg).2 ⟨b, hb, hbg⟩
      exact ⟨g.alerts, by simp [outcome?, hended, Gathered.outcome, hg, hinterrupted]⟩
    case isFalse => cases ho
  | @priority r o dropped _ ih =>
    obtain ⟨p', -, hp'⟩ := hr.branch (i := 0) rfl
    simp only [outcome?] at ho
    split at ho
    case h_1 ro oo hro hoo =>
      obtain ⟨as, has⟩ := ih hp' (by rw [hro]; rfl)
      exact ⟨_, by simp only [outcome?, has, hoo]; rfl⟩
    case h_2 => cases ho
  | timeout _ _ ih =>
    obtain ⟨p', -, hp'⟩ := hr.branch (i := 0) rfl
    rw [outcome?, Option.isSome_map] at ho
    obtain ⟨as, has⟩ := ih hp' ho
    exact ⟨as, by rw [outcome?, has]; rfl⟩
  | limit hfired _ ih =>
    obtain ⟨p', -, hp'⟩ := hr.branch (i := 0) rfl
    rw [outcome?, Option.isSome_map] at ho
    obtain ⟨as, has⟩ := ih hp' ho
    exact ⟨as, by rw [outcome?, has, hfired ho]; simp [capped]⟩
  | filter _ ih =>
    obtain ⟨p', -, hp'⟩ := hr.branch (i := 0) rfl
    exact ih hp' ho

theorem decision_hear {mode : Mode} {g : Gathered} (hg : g.decision = none)
    (h : n.outcome?.isSome → n.GaveUp) : (g.hear mode n.outcome?).decision = none := by
  cases ho : n.outcome? with
  | none => exact hg
  | some o =>
    obtain ⟨as, has⟩ := h (by rw [ho]; rfl)
    obtain rfl : o = .cancelled as := Option.some.inj (ho.symm.trans has)
    rw [Gathered.hear, Gathered.add_cancelled hg]
    exact hg

/-- Once the token has fired, a suspended node stays so until it ends. -/
theorem Suspended.move (h : Suspended c.now n) (hm : Moves m p c n n' f) (hr : Reached pl n')
    (hc : c.fired = true) : Suspended c.now n' := by
  induction hm generalizing pl with
  | leaf hm =>
    cases h with
    | asleep hnow =>
      cases hm with
      | wake hdue => omega
      | halt => exact .stopped
    | stopped => cases hm
  | noop => cases h
  | expire _ _ hdue =>
    cases h with
    | timeout hnow => omega
  | @group p k k' f c mode ms us g hm ih =>
    cases h with
    | group hg hb hbs hall =>
      have hk' : (ms ++ k' :: us)[ms.length]? = some k' := by simp
      obtain ⟨p', -, hp'⟩ := hr.branch hk'
      have hsk : Suspended c.now k' :=
        ih (hall k (by simp) hm.outcome?_eq_none) hp' (by simp [Context.scope, Context.branch, hc])
      refine .group (decision_hear hg (hsk.gaveUp hp')) (b := k') (by simp) hsk ?_
      intro b hb hopen
      rcases List.mem_append.1 hb with hb | hb
      · exact hall b (by simp [hb]) hopen
      · rcases List.mem_cons.1 hb with rfl | hb
        · exact hsk
        · exact hall b (by simp [hb]) hopen
  | required hm ih =>
    cases h with
    | priority hs =>
      obtain ⟨p', -, hp'⟩ := hr.branch (i := 0) rfl
      exact .priority (ih hs hp' (by simp [Context.branch, hc]))
  | optional hm ih =>
    cases h with
    | priority hs => exact .priority hs
  | timeout hm ih =>
    cases h with
    | timeout hnow hs =>
      obtain ⟨p', -, hp'⟩ := hr.branch (i := 0) rfl
      exact .timeout hnow (ih hs hp' (by simp [Context.scope, Context.branch, hc]))
  | limit hm ih =>
    cases h with
    | limit _ hs =>
      obtain ⟨p', -, hp'⟩ := hr.branch (i := 0) rfl
      exact .limit (fun _ => hc)
        (ih hs hp' (by simp [Context.scope, Context.through, Context.branch, hc]))
  | filter hm ih =>
    cases h with
    | filter hs =>
      obtain ⟨p', -, hp'⟩ := hr.branch (i := 0) rfl
      exact .filter (ih hs hp' (by simp [Context.through, Context.branch, hc]))

end Node

end SearchPlan
