import SearchPlan.Run.Move

/-! What one move can do, as relations with one rule for each case. The rules say everything about
`Phase.step` and `Node.step`, so that nothing further on unfolds them. -/

namespace SearchPlan

inductive Phase.Moves (c : Context) (s : Script) :
    Move → Phase → Probe → Phase → Probe → Flow → Prop
  | skip : c.fired = true → Moves c s .act .idle pr .skipped pr .quiet
  | start : c.fired = false → Moves c s .act .idle pr (.running s.steps) pr.start .quiet
  | finish : Moves c s .act (.running []) pr (.returned s.ending c.fired) pr .quiet
  | stop : c.fired = true → Moves c s .act (.running (st :: rest)) pr
      (.returned (.finished .partialSuccess) true) pr.stop .quiet
  | pass : c.fired = false → d.millis = 0 →
      Moves c s .act (.running (.sleep d :: rest)) pr (.running rest) pr .quiet
  | sleep : c.fired = false → d.millis ≠ 0 →
      Moves c s .act (.running (.sleep d :: rest)) pr (.sleeping (c.now + d.millis) rest) pr .quiet
  | queue : c.fired = false → c.waits b = true →
      Moves c s .act (.running (.emit b :: rest)) pr (.sending b.length rest) pr (.handed b true)
  | emit : c.fired = false → c.waits b = false →
      Moves c s .act (.running (.emit b :: rest)) pr (.running rest) (pr.emit b.length)
        (.handed b false)
  | wake : wakeAt ≤ c.now →
      Moves c s .act (.sleeping wakeAt rest) pr (.running rest) pr .quiet
  | resume : c.granted [] = true →
      Moves c s .act (.sending size rest) pr (.running rest) (pr.emit size) .resumed
  | halt : c.fired = true → Moves c s .halt (.sleeping wakeAt rest) pr
      (.returned (.finished .partialSuccess) true) pr.stop .quiet

def Gathered.hear (mode : Mode) (g : Gathered) : Option Outcome → Gathered
  | some o => g.add mode o
  | none => g

/-- The moves of a running tree. -/
inductive Node.Moves (m : Move) : Path → Context → Node → Node → Flow → Prop
  | leaf : Phase.Moves c s m ph pr ph' pr' f → Moves m [] c (.leaf s ph pr) (.leaf s ph' pr') f
  | noop : m = .act → Moves m [] c (.noop false) (.noop true) .quiet
  | expire : m = .expire → n.outcome? = none → d.millis ≤ c.now →
      n.next? ((c.scope false).branch 0) = none →
      Moves m [] c (.timeout d n false fired) (.timeout d n true fired) .quiet
  | group : Moves m p ((c.scope g.decision.isSome).branch ms.length) n n' f →
      Moves m (ms.length :: p) c (.group mode (ms ++ n :: ns) g)
        (.group mode (ms ++ n' :: ns) (g.hear mode n'.outcome?)) f
  | required : Moves m p (c.branch 0) r r' f →
      Moves m (0 :: p) c (.priority r o dropped)
        (.priority r' o (dropped || r'.outcome?.isSome && o.outcome?.isNone)) f
  | optional : Moves m p ((c.scope dropped).branch 1) o o' f →
      Moves m (1 :: p) c (.priority r o dropped) (.priority r o' dropped) f
  | timeout : Moves m p ((c.scope expired).branch 0) n n' f →
      Moves m (0 :: p) c (.timeout d n expired fired) (.timeout d n' expired c.fired) f
  | limit : Moves m p (((c.scope stopped).through q.fit).branch 0) n n' f →
      Moves m (0 :: p) c (.limit q n stopped fired)
        (.limit (q.pass f).1 n' (stopped || (q.pass f).2.2) c.fired) (q.pass f).2.1
  | filter : Moves m p ((c.through (·.filter allows)).branch 0) n n' f →
      Moves m (0 :: p) c (.filter allows n) (.filter allows n') (f.filter allows)

variable {c : Context} {m : Move} {p : Path} {f : Flow}

theorem Phase.moves_of_act {s : Script} {pr pr' : Probe} {ph ph' : Phase}
    (h : ph.act c s pr = some (ph', pr', f)) : Phase.Moves c s .act ph pr ph' pr' f := by
  cases ph with
  | idle =>
    simp only [act] at h
    split at h
    case isTrue hc => cases h; exact .skip hc
    case isFalse hc => cases h; exact .start (Bool.eq_false_iff.2 hc)
  | running steps =>
    cases steps with
    | nil => cases h; exact .finish
    | cons st rest =>
      simp only [act] at h
      split at h
      case isTrue hc => cases h; exact .stop hc
      case isFalse hc =>
        have hc := Bool.eq_false_iff.2 hc
        cases st with
        | sleep d =>
          simp only at h
          split at h
          case isTrue hd => cases h; exact .pass hc hd
          case isFalse hd => cases h; exact .sleep hc hd
        | emit b =>
          simp only at h
          split at h
          case isTrue hb => cases h; exact .queue hc hb
          case isFalse hb => cases h; exact .emit hc (Bool.eq_false_iff.2 hb)
  | sleeping wakeAt rest =>
    simp only [act] at h
    split at h
    case isTrue hw => cases h; exact .wake hw
    case isFalse => cases h
  | sending size rest =>
    simp only [act] at h
    split at h
    case isTrue hg => cases h; exact .resume hg
    case isFalse => cases h
  | returned => cases h
  | skipped => cases h

theorem Phase.moves_of_step {s : Script} {pr pr' : Probe} {ph ph' : Phase}
    (h : ph.step c s pr m = some (ph', pr', f)) : Phase.Moves c s m ph pr ph' pr' f := by
  cases m with
  | act => exact moves_of_act h
  | halt =>
    cases ph with
    | sleeping wakeAt rest =>
      simp only [step, Phase.halt] at h
      split at h <;> cases h
      exact .halt ‹_›
    | _ => cases h
  | expire => cases h

theorem Phase.step_of_moves {s : Script} {pr pr' : Probe} {ph ph' : Phase}
    (h : Phase.Moves c s m ph pr ph' pr' f) : ph.step c s pr m = some (ph', pr', f) := by
  cases h <;> simp_all [step, act, Phase.halt]

theorem Phase.Moves.outcome?_eq_none {s : Script} {pr pr' : Probe} {ph ph' : Phase}
    (h : Phase.Moves c s m ph pr ph' pr' f) (name : String) : ph.outcome? name = none := by
  cases h <;> rfl

namespace Node

theorem stepAt_eq_some {i : Nat} {ns ns' : List Node} {o : Option Outcome}
    (h : stepAt m i p c ns = some (ns', f, o)) :
    ∃ ms n us n', ns = ms ++ n :: us ∧ i = ms.length ∧ n.step m p c = some (n', f) ∧
      ns' = ms ++ n' :: us ∧ o = n'.outcome? := by
  induction ns generalizing i ns' with
  | nil => cases i <;> simp [stepAt] at h
  | cons n ns ih =>
    cases i with
    | zero =>
      simp only [stepAt, Option.map_eq_some_iff, Prod.mk.injEq] at h
      obtain ⟨⟨n', f'⟩, hn, rfl, rfl, rfl⟩ := h
      exact ⟨[], n, ns, n', rfl, rfl, hn, rfl, rfl⟩
    | succ i =>
      simp only [stepAt, Option.map_eq_some_iff, Prod.mk.injEq] at h
      obtain ⟨⟨us', f', o'⟩, hs, rfl, rfl, rfl⟩ := h
      obtain ⟨ms, k, us, k', rfl, rfl, hk, rfl, rfl⟩ := ih hs
      exact ⟨n :: ms, k, us, k', rfl, rfl, hk, rfl, rfl⟩

theorem moves_of_step {n n' : Node} (h : n.step m p c = some (n', f)) : Moves m p c n n' f := by
  induction p generalizing c n n' f with
  | nil =>
    cases n with
    | leaf s ph pr =>
      simp only [step, Option.map_eq_some_iff, Prod.mk.injEq] at h
      obtain ⟨⟨ph', pr', f'⟩, hs, rfl, rfl⟩ := h
      exact .leaf (Phase.moves_of_step hs)
    | noop seen =>
      simp only [step] at h
      split at h <;> cases h
      cases seen <;> simp_all
      exact .noop rfl
    | timeout d n expired fired =>
      simp only [step] at h
      split at h <;> cases h
      cases expired <;> simp_all
      exact .expire rfl (by simp_all) (by simp_all) (by simp_all)
    | _ => simp [step] at h
  | cons i p ih =>
    cases n with
    | leaf => simp [step] at h
    | noop => simp [step] at h
    | group mode ns g =>
      simp only [step, Option.map_eq_some_iff, Prod.mk.injEq] at h
      obtain ⟨⟨ns', f', o⟩, hs, rfl, rfl⟩ := h
      obtain ⟨ms, k, us, k', rfl, rfl, hk, rfl, rfl⟩ := stepAt_eq_some hs
      exact .group (ih hk)
    | priority r o dropped =>
      match i, h with
      | 0, h =>
        simp only [step, Option.map_eq_some_iff, Prod.mk.injEq] at h
        obtain ⟨⟨r', f'⟩, hr, rfl, rfl⟩ := h
        exact .required (ih hr)
      | 1, h =>
        simp only [step, Option.map_eq_some_iff, Prod.mk.injEq] at h
        obtain ⟨⟨o', f'⟩, ho, rfl, rfl⟩ := h
        exact .optional (ih ho)
      | i + 2, h => simp [step] at h
    | timeout d k expired fired =>
      match i, h with
      | 0, h =>
        simp only [step, Option.map_eq_some_iff, Prod.mk.injEq] at h
        obtain ⟨⟨k', f'⟩, hk, rfl, rfl⟩ := h
        exact .timeout (ih hk)
      | i + 1, h => simp [step] at h
    | limit q k stopped fired =>
      match i, h with
      | 0, h =>
        simp only [step, Option.map_eq_some_iff, Prod.mk.injEq] at h
        obtain ⟨⟨k', f'⟩, hk, rfl, rfl⟩ := h
        exact .limit (ih hk)
      | i + 1, h => simp [step] at h
    | filter allows k =>
      match i, h with
      | 0, h =>
        simp only [step, Option.map_eq_some_iff, Prod.mk.injEq] at h
        obtain ⟨⟨k', f'⟩, hk, rfl, rfl⟩ := h
        exact .filter (ih hk)
      | i + 1, h => simp [step] at h

theorem stepAt_append (m : Move) (p : Path) (c : Context) (ms : List Node) (n : Node)
    (ns : List Node) : stepAt m ms.length p c (ms ++ n :: ns) =
      (n.step m p c).map fun (n', f) => (ms ++ n' :: ns, f, n'.outcome?) := by
  induction ms with
  | nil => rfl
  | cons k ms ih =>
    simp only [List.cons_append, List.length_cons, stepAt, ih, Option.map_map]
    rfl

theorem step_of_moves {n n' : Node} (h : Moves m p c n n' f) : n.step m p c = some (n', f) := by
  induction h with
  | leaf h => simp [step, Phase.step_of_moves h]
  | noop h => simp [step, h]
  | expire hm hn hd hx => simp [step, hm, hn, hd, hx]
  | group h ih => simp only [step, stepAt_append, ih]; rfl
  | required h ih => simp [step, ih]
  | optional h ih => simp [step, ih]
  | timeout h ih => simp [step, ih]
  | limit h ih => simp [step, ih]
  | filter h ih => simp [step, ih]

theorem step_eq_some {n n' : Node} : n.step m p c = some (n', f) ↔ Moves m p c n n' f :=
  ⟨moves_of_step, step_of_moves⟩

theorem Moves.flow_unique {n k k' : Node} {f' : Flow} (h : Moves m p c n k f)
    (h' : Moves m p c n k' f') : f = f' := by
  have hsame := (step_of_moves h).symm.trans (step_of_moves h')
  exact (Prod.mk.inj (Option.some.inj hsame)).2

theorem ended_eq_true {ns : List Node} : ended ns = true ↔ ∀ n ∈ ns, n.outcome?.isSome := by
  induction ns with
  | nil => simp [ended]
  | cons n ns ih => simp [ended, ih]

theorem Moves.outcome?_eq_none {n n' : Node} (h : Moves m p c n n' f) : n.outcome? = none := by
  induction h with
  | leaf h => exact h.outcome?_eq_none _
  | noop => rfl
  | expire _ hn => simp [outcome?, hn]
  | group _ ih =>
    simp only [outcome?, ended_eq_true, List.forall_mem_append, List.forall_mem_cons, ih]
    simp
  | required _ ih => simp [outcome?, ih]
  | optional _ ih => simp [outcome?, ih]
  | timeout _ ih => simp [outcome?, ih]
  | limit _ ih => simp [outcome?, ih]
  | filter _ ih => simp [outcome?, ih]

@[elab_as_elim, induction_eliminator]
theorem induct {motive : Node → Prop}
    (leaf : ∀ s ph pr, motive (.leaf s ph pr))
    (noop : ∀ seen, motive (.noop seen))
    (group : ∀ mode ns g, (∀ n ∈ ns, motive n) → motive (.group mode ns g))
    (priority : ∀ r o dropped, motive r → motive o → motive (.priority r o dropped))
    (timeout : ∀ d n expired fired, motive n → motive (.timeout d n expired fired))
    (limit : ∀ q n stopped fired, motive n → motive (.limit q n stopped fired))
    (filter : ∀ allows n, motive n → motive (.filter allows n)) (n : Node) : motive n :=
  @Node.rec motive (fun ns => ∀ n ∈ ns, motive n) leaf noop group priority timeout limit filter
    (fun _ h => nomatch h) (fun _ _ hn hns => List.forall_mem_cons.2 ⟨hn, hns⟩) n

end Node

end SearchPlan
