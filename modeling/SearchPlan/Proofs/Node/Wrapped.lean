import SearchPlan.Proofs.Node.Next
import SearchPlan.Proofs.Node.Retold

/-! A tree with a group put over one of its nodes. A group of one branch comes to what its branch
comes to, so the two trees do the same, but for the name that alerts use for what stands there. -/

namespace Option.Rel

variable {α β γ δ : Type} {R : α → β → Prop} {S : γ → δ → Prop} {x : Option α} {y : Option β}

theorem isSome_eq (h : Rel R x y) : x.isSome = y.isSome := by
  cases h <;> rfl

theorem map {f : α → γ} {g : β → δ} (h : Rel R x y) (hfg : ∀ a b, R a b → S (f a) (g b)) :
    Rel S (x.map f) (y.map g) := by
  cases h with
  | some hab => exact .some (hfg _ _ hab)
  | none => exact .none

theorem bind {f : α → Option γ} {g : β → Option δ} (h : Rel R x y)
    (hfg : ∀ a b, R a b → Rel S (f a) (g b)) : Rel S (x.bind f) (y.bind g) := by
  cases h with
  | some hab => exact hfg _ _ hab
  | none => exact .none

end Option.Rel

namespace SearchPlan

/-- Where a node is found after a group has been put over the one at `q`. -/
def Path.deepen : Path → Path → Path
  | [], p => 0 :: p
  | _ :: _, [] => []
  | i :: q, j :: p => if j = i then j :: deepen q p else j :: p

/-- What is seen by a tree that has no group at `q` yet. -/
def Context.deepen (q : Path) (c : Context) : Context :=
  { c with granted := fun p => c.granted (Path.deepen q p) }

/-- The first tree is the second one, with a group put over the node at a path. The group has one
branch and has heard of it if it has ended. -/
inductive Node.Wraps (mode : Mode) (is : String) : Path → Node → Node → Prop
  | here : k.name = is → Wraps mode is [] (.group mode [k] (.hear mode {} k.outcome?)) k
  | group : ns[i]? = some b → Wraps mode is q b b' → g.Retold mode.keyword is g' →
      Wraps mode is (i :: q) (.group mode' ns g) (.group mode' (ns.set i b') g')
  | required : Wraps mode is q r r' →
      Wraps mode is (0 :: q) (.priority r o dropped) (.priority r' o dropped)
  | optional : Wraps mode is q o o' →
      Wraps mode is (1 :: q) (.priority r o dropped) (.priority r o' dropped)
  | timeout : Wraps mode is q n n' →
      Wraps mode is (0 :: q) (.timeout d n expired fired) (.timeout d n' expired fired)
  | limit : Wraps mode is q n n' →
      Wraps mode is (0 :: q) (.limit quota n stopped fired) (.limit quota n' stopped fired)
  | filter : Wraps mode is q n n' → Wraps mode is (0 :: q) (.filter allows n) (.filter allows n')

variable {is : String} {mode mode' : Mode} {i j : Nat} {q p p' : Path}

namespace Path

theorem deepen_nil (p : Path) : deepen [] p = 0 :: p := rfl

theorem deepen_self (i : Nat) (q p : Path) : deepen (i :: q) (i :: p) = i :: deepen q p := by
  rw [deepen, if_pos rfl]

theorem deepen_other (h : j ≠ i) (q p : Path) : deepen (i :: q) (j :: p) = j :: p := by
  rw [deepen, if_neg h]

theorem exists_deepen_cons (i : Nat) (q : Path) (j : Nat) (p : Path) :
    ∃ r, deepen (i :: q) (j :: p) = j :: r := by
  rw [deepen]
  split <;> exact ⟨_, rfl⟩

theorem deepen_injective (q : Path) : Function.Injective (deepen q) := by
  intro p p' h
  induction q generalizing p p' with
  | nil => exact (List.cons.inj h).2
  | cons i q ih =>
    cases p with
    | nil =>
      cases p' with
      | nil => rfl
      | cons j' p' =>
        obtain ⟨r, hr⟩ := exists_deepen_cons i q j' p'
        cases h.trans hr
    | cons j p =>
      obtain ⟨r, hr⟩ := exists_deepen_cons i q j p
      cases p' with
      | nil => cases h.symm.trans hr
      | cons j' p' =>
        obtain ⟨r', hr'⟩ := exists_deepen_cons i q j' p'
        obtain ⟨rfl, -⟩ := List.cons.inj (hr.symm.trans (h.trans hr'))
        by_cases hj : j = i
        · subst hj
          rw [deepen_self, deepen_self] at h
          rw [ih (List.cons.inj h).2]
        · rwa [deepen_other hj, deepen_other hj] at h

end Path

namespace Context

theorem scope_false (c : Context) : c.scope false = c := by
  rw [scope, Bool.or_false]

theorem deepen_nil (c : Context) : c.deepen [] = c.branch 0 := rfl

theorem now_deepen (c : Context) (q : Path) : (c.deepen q).now = c.now := rfl

theorem scope_deepen (c : Context) (q : Path) (fired : Bool) :
    (c.deepen q).scope fired = (c.scope fired).deepen q := rfl

theorem through_deepen (c : Context) (q : Path) (f : Batch → Batch) :
    (c.deepen q).through f = (c.through f).deepen q := rfl

theorem branch_deepen_self (c : Context) (i : Nat) (q : Path) :
    (c.deepen (i :: q)).branch i = (c.branch i).deepen q := by
  simp only [branch, deepen, Path.deepen_self]

theorem branch_deepen_other (h : j ≠ i) (c : Context) (q : Path) :
    (c.deepen (i :: q)).branch j = c.branch j := by
  simp only [branch, deepen, Path.deepen_other h]

end Context

namespace Node

variable {n n' b b' k : Node} {ns : List Node} {c : Context} {m : Move} {f : Flow}

/-- A group of one branch comes to what its branch comes to. -/
theorem outcome?_single (mode : Mode) (k : Node) :
    (group mode [k] (Gathered.hear mode {} k.outcome?)).outcome? = k.outcome? := by
  rw [outcome?, ended, ended, Bool.and_true]
  cases k.outcome? with
  | none => rfl
  | some o =>
    cases o with
    | cancelled as => rfl
    | done e =>
      obtain ⟨st, as⟩ := e
      cases mode <;> cases st <;> rfl

theorem map_set {α : Type} {f : Node → α} (hb : ns[i]? = some b) (h : f b = f b') :
    (ns.set i b').map f = ns.map f := by
  obtain ⟨hi, rfl⟩ := List.getElem?_eq_some_iff.1 hb
  rw [List.map_set, ← h, ← List.map_set, List.set_getElem_self]

theorem ended_eq_all (ns : List Node) : ended ns = (ns.map (·.outcome?.isSome)).all id := by
  induction ns with
  | nil => rfl
  | cons n ns ih => rw [ended, ih, List.map_cons, List.all_cons, id]

theorem alarmsAll_eq_flatten (ns : List Node) : alarmsAll ns = (ns.map alarms).flatten := by
  induction ns with
  | nil => rfl
  | cons n ns ih => rw [alarmsAll, ih, List.map_cons, List.flatten_cons]

theorem probesAll_eq_flatten (ns : List Node) : probesAll ns = (ns.map probes).flatten := by
  induction ns with
  | nil => rfl
  | cons n ns ih => rw [probesAll, ih, List.map_cons, List.flatten_cons]

theorem Wraps.name (h : Wraps mode is q n n') : Named mode.keyword is n.name n'.name := by
  cases h with
  | here hname => exact .inr ⟨rfl, hname⟩
  | _ => exact .inl rfl

theorem Wraps.outcome (h : Wraps mode is q n n') :
    Option.Rel (Outcome.Retold mode.keyword is) n.outcome? n'.outcome? := by
  induction h with
  | here =>
    rw [outcome?_single]
    exact Outcome.rel_retold_refl _
  | @group ns i b q b' mode' g g' hb h hg ih =>
    have hended : ended (ns.set i b') = ended ns := by
      rw [ended_eq_all, ended_eq_all, map_set hb ih.isSome_eq]
    rw [outcome?, outcome?, hended]
    split
    · exact .some (hg.outcome _)
    · exact .none
  | @required q r r' o dropped h ih =>
    rw [outcome?, outcome?]
    generalize r.outcome? = x, r'.outcome? = y at ih
    cases ih with
    | none => exact .none
    | some hr =>
      cases o.outcome? with
      | none => exact .none
      | some o => exact .some (hr.preferred o.retold_refl (.inl rfl) dropped)
  | @optional q o o' r dropped h ih =>
    rw [outcome?, outcome?]
    cases r.outcome? with
    | none => exact .none
    | some r =>
      generalize o.outcome? = x, o'.outcome? = y at ih
      cases ih with
      | none => exact .none
      | some ho => exact .some (r.retold_refl.preferred ho h.name dropped)
  | timeout h ih => exact ih.map fun o o' ho => ho.timed h.name _ _ _
  | limit h ih => exact ih.map fun o o' ho => ho.capped h.name _ _
  | filter h ih => exact ih

theorem Wraps.alarms (h : Wraps mode is q n n') : n.alarms = n'.alarms := by
  induction h with
  | here => exact List.append_nil _
  | group hb h hg ih =>
    rw [Node.alarms, Node.alarms, alarmsAll_eq_flatten, alarmsAll_eq_flatten, map_set hb ih]
  | required h ih => rw [Node.alarms, Node.alarms, ih]
  | optional h ih => rw [Node.alarms, Node.alarms, ih]
  | timeout h ih => rw [Node.alarms, Node.alarms, ih, h.outcome.isSome_eq]
  | limit h ih => exact ih
  | filter h ih => exact ih

theorem Wraps.probes (h : Wraps mode is q n n') : n.probes = n'.probes := by
  induction h with
  | here => exact List.append_nil _
  | group hb h hg ih =>
    rw [Node.probes, Node.probes, probesAll_eq_flatten, probesAll_eq_flatten, map_set hb ih]
  | required h ih => rw [Node.probes, Node.probes, ih]
  | optional h ih => rw [Node.probes, Node.probes, ih]
  | timeout h ih => exact ih
  | limit h ih => exact ih
  | filter h ih => exact ih

theorem next?_of_ended (h : n.outcome?.isSome) (c : Context) : n.next? c = none := by
  cases hx : n.next? c with
  | none => rfl
  | some x =>
    obtain ⟨n', f, hm⟩ := exists_moves_of_next? hx
    rw [hm.outcome?_eq_none] at h
    cases h

theorem step_of_ended (h : n.outcome?.isSome) (m : Move) (p : Path) (c : Context) :
    n.step m p c = none := by
  cases hx : n.step m p c with
  | none => rfl
  | some x =>
    rw [(moves_of_step hx).outcome?_eq_none] at h
    cases h

/-- A branch that its group has told to stop has ended. -/
theorem decision_single (mode : Mode) (k : Node) :
    (Gathered.hear mode {} k.outcome?).decision.isSome = true → k.outcome?.isSome := by
  cases k.outcome? with
  | none => exact nofun
  | some o => exact fun _ => rfl

theorem nextAt?_map {c' : Context} {g : Path → Path} {us us' : List Node} {j : Nat}
    (hlen : us.length = us'.length)
    (h : ∀ (i : Nat) (u u' : Node), us[i]? = some u → us'[i]? = some u' →
      (u.next? (c.branch (j + i))).map (fun (p, m) => ((j + i) :: p, m)) =
        (u'.next? (c'.branch (j + i))).map fun (p, m) => (g ((j + i) :: p), m)) :
    nextAt? c j us = (nextAt? c' j us').map fun (p, m) => (g p, m) := by
  induction us generalizing us' j with
  | nil =>
    obtain rfl := List.length_eq_zero_iff.1 hlen.symm
    rfl
  | cons u us ih =>
    cases us' with
    | nil => cases hlen
    | cons u' us' =>
      have hhead := h 0 u u' rfl rfl
      have htail := ih (Nat.succ.inj hlen) (j := j + 1) fun i v v' hv hv' => by
        rw [Nat.succ_add_eq_add_succ]
        exact h (i + 1) v v' hv hv'
      rw [Nat.add_zero] at hhead
      rw [nextAt?, nextAt?]
      cases hu : u.next? (c.branch j) with
      | none =>
        rw [hu, Option.map_none, eq_comm, Option.map_eq_none_iff] at hhead
        rw [hhead]
        exact htail
      | some x =>
        rw [hu, Option.map_some, eq_comm, Option.map_eq_some_iff] at hhead
        obtain ⟨y, hy, hxy⟩ := hhead
        rw [hy]
        exact congrArg some hxy.symm

/-- The next move is the same one, at the place where its node is found under the group. -/
theorem Wraps.next? (h : Wraps mode is q n n') (c : Context) :
    n.next? c = (n'.next? (c.deepen q)).map fun (p, m) => (Path.deepen q p, m) := by
  induction h generalizing c with
  | @here k =>
    rw [Node.next?, nextAt?, nextAt?]
    cases hd : (Gathered.hear mode {} k.outcome?).decision.isSome with
    | true =>
      have hended := decision_single mode k hd
      rw [next?_of_ended hended, next?_of_ended hended]
      rfl
    | false =>
      rw [Context.scope_false, ← Context.deepen_nil]
      cases k.next? (c.deepen []) <;> rfl
  | @group ns i b q b' mode' g g' hb h hg ih =>
    rw [Node.next?, Node.next?, hg.decision]
    refine nextAt?_map (List.length_set ..).symm fun j u u' hu hu' => ?_
    rw [Nat.zero_add, Context.scope_deepen]
    by_cases hj : j = i
    · subst hj
      obtain rfl := Option.some.inj (hb.symm.trans hu)
      rw [List.getElem?_set_self (List.getElem?_eq_some_iff.1 hb).1] at hu'
      cases hu'
      rw [ih, Context.branch_deepen_self, Option.map_map]
      simp only [Path.deepen_self]
      rfl
    · rw [List.getElem?_set_ne (Ne.symm hj), hu] at hu'
      cases hu'
      simp only [Context.branch_deepen_other hj, Path.deepen_other hj]
  | @required q r r' o dropped h ih =>
    rw [Node.next?, Node.next?, ih, Context.branch_deepen_self, Context.scope_deepen,
      Context.branch_deepen_other Nat.one_ne_zero]
    cases r'.next? ((c.branch 0).deepen q) with
    | none => cases o.next? ((c.scope dropped).branch 1) <;> rfl
    | some x => rfl
  | @optional q o o' r dropped h ih =>
    rw [Node.next?, Node.next?, ih, Context.branch_deepen_other Nat.zero_ne_one,
      Context.scope_deepen, Context.branch_deepen_self]
    cases r.next? (c.branch 0) with
    | none => cases o'.next? (((c.scope dropped).branch 1).deepen q) <;> rfl
    | some x => rfl
  | @timeout q n n' d expired fired h ih =>
    rw [Node.next?, Node.next?, ih, Context.scope_deepen, Context.branch_deepen_self,
      ← Option.not_isSome, ← Option.not_isSome, h.outcome.isSome_eq]
    cases n'.next? (((c.scope expired).branch 0).deepen q) with
    | none =>
      simp only [apply_ite (Option.map _), Option.map_none]
      rfl
    | some x => rfl
  | @limit q n n' quota stopped fired h ih =>
    rw [Node.next?, Node.next?, ih, Context.scope_deepen, Context.through_deepen,
      Context.branch_deepen_self, Option.map_map, Option.map_map]
    rfl
  | @filter q n n' allows h ih =>
    rw [Node.next?, Node.next?, ih, Context.through_deepen, Context.branch_deepen_self,
      Option.map_map, Option.map_map]
    rfl

theorem stepAt_eq (m : Move) (i : Nat) (p : Path) (c : Context) (ns : List Node) :
    stepAt m i p c ns = ns[i]?.bind fun b =>
      (b.step m p c).map fun (b', f) => (ns.set i b', f, b'.outcome?) := by
  induction ns generalizing i with
  | nil => cases i <;> rfl
  | cons n ns ih =>
    cases i with
    | zero => rfl
    | succ i =>
      rw [stepAt, ih, Option.map_bind]
      exact Option.bind_congr fun b _ => Option.map_map ..

theorem step_group (m : Move) (i : Nat) (p : Path) (c : Context) (mode : Mode) (ns : List Node)
    (g : Gathered) : (group mode ns g).step m (i :: p) c = ns[i]?.bind fun b =>
      (b.step m p ((c.scope g.decision.isSome).branch i)).map fun (b', f) =>
        (group mode (ns.set i b') (g.hear mode b'.outcome?), f) := by
  rw [step, stepAt_eq, Option.map_bind]
  exact Option.bind_congr fun b _ => Option.map_map ..

/-- The moves of the two trees go together: they lead to such trees again, and do the same to the
sink above. -/
def Alike (mode : Mode) (is : String) (q : Path) (x y : Option (Node × Flow)) : Prop :=
  Option.Rel (fun x y => x.1.Wraps mode is q y.1 ∧ x.2 = y.2) x y

/-- A root above the group makes its own moves all the same. -/
theorem Wraps.step_root (h : Wraps mode is (i :: q) n n') (m : Move) (c : Context) :
    Alike mode is (i :: q) (n.step m [] c) (n'.step m [] (c.deepen (i :: q))) := by
  cases h with
  | @timeout _ n n' d expired fired h =>
    have hnext : (n.next? ((c.scope expired).branch 0)).isNone =
        (n'.next? (((c.deepen (0 :: q)).scope expired).branch 0)).isNone := by
      rw [h.next?, Option.isNone_map, Context.scope_deepen, Context.branch_deepen_self]
    rw [Node.step, Node.step, hnext, Context.now_deepen, ← Option.not_isSome,
      h.outcome.isSome_eq, Option.not_isSome]
    split
    · exact .some ⟨.timeout h, rfl⟩
    · exact .none
  | _ =>
    simp only [Node.step]
    exact .none

/-- So do the other branches of a root above the group. -/
theorem Wraps.step_beside (h : Wraps mode is (i :: q) n n') (hj : j ≠ i) (m : Move) (p : Path)
    (c : Context) :
    Alike mode is (i :: q) (n.step m (j :: p) c) (n'.step m (j :: p) (c.deepen (i :: q))) := by
  cases h with
  | @group ns i b q b' mode' g g' hb h hg =>
    rw [step_group, step_group, ← hg.decision, Context.scope_deepen,
      Context.branch_deepen_other hj, List.getElem?_set_ne (Ne.symm hj)]
    cases ns[j]? with
    | none => exact .none
    | some u =>
      rw [Option.bind_some, Option.bind_some]
      cases u.step m p ((c.scope g.decision.isSome).branch j) with
      | none => exact .none
      | some x =>
        refine .some ⟨?_, rfl⟩
        dsimp only
        rw [List.set_comm _ _ (Ne.symm hj)]
        refine .group ?_ h (hg.hear (Outcome.rel_retold_refl _) mode')
        rw [List.getElem?_set_ne hj, hb]
  | @required _ r r' o dropped h =>
    obtain ⟨j, rfl⟩ := Nat.exists_eq_succ_of_ne_zero hj
    cases j with
    | zero =>
      rw [Node.step, Node.step, Context.scope_deepen, Context.branch_deepen_other hj]
      cases o.step m p ((c.scope dropped).branch 1) with
      | none => exact .none
      | some x => exact .some ⟨.required h, rfl⟩
    | succ j =>
      simp only [Node.step]
      exact .none
  | @optional _ o o' r dropped h =>
    cases j with
    | zero =>
      rw [Node.step, Node.step, Context.branch_deepen_other hj]
      cases r.step m p (c.branch 0) with
      | none => exact .none
      | some x =>
        refine .some ⟨?_, rfl⟩
        dsimp only
        rw [← Option.not_isSome, h.outcome.isSome_eq, Option.not_isSome]
        exact .optional h
    | succ j =>
      obtain ⟨j, rfl⟩ := Nat.exists_eq_succ_of_ne_zero fun hzero => hj (congrArg (· + 1) hzero)
      simp only [Node.step]
      exact .none
  | _ =>
    obtain ⟨j, rfl⟩ := Nat.exists_eq_succ_of_ne_zero hj
    simp only [Node.step]
    exact .none

/-- It is left to show that the moves below the root that lead to the group go together. -/
theorem Wraps.step_cons (h : Wraps mode is (i :: q) n n') {m : Move} {c : Context}
    (hbelow : ∀ p, Alike mode is (i :: q) (n.step m (i :: Path.deepen q p) c)
      (n'.step m (i :: p) (c.deepen (i :: q)))) (p : Path) :
    Alike mode is (i :: q) (n.step m (Path.deepen (i :: q) p) c)
      (n'.step m p (c.deepen (i :: q))) := by
  cases p with
  | nil => exact h.step_root m c
  | cons j p =>
    by_cases hj : j = i
    · subst hj
      rw [Path.deepen_self]
      exact hbelow p
    · rw [Path.deepen_other hj]
      exact h.step_beside hj m p c

/-- Both trees can make the same moves, and do the same to the sink above them. -/
theorem Wraps.step (h : Wraps mode is q n n') (m : Move) (p : Path) (c : Context) :
    Alike mode is q (n.step m (Path.deepen q p) c) (n'.step m p (c.deepen q)) := by
  induction h generalizing p c with
  | @here k hname =>
    rw [Path.deepen_nil, step_group, List.getElem?_cons_zero, Option.bind_some]
    cases hd : (Gathered.hear mode {} k.outcome?).decision.isSome with
    | true =>
      have hended := decision_single mode k hd
      rw [step_of_ended hended, step_of_ended hended]
      exact .none
    | false =>
      rw [Context.scope_false, ← Context.deepen_nil]
      cases hs : k.step m p (c.deepen []) with
      | none => exact .none
      | some x =>
        have hm := moves_of_step hs
        rw [hm.outcome?_eq_none]
        exact .some ⟨.here (hm.name.trans hname), rfl⟩
  | @group ns i b q b' mode' g g' hb h hg ih =>
    have hi := (List.getElem?_eq_some_iff.1 hb).1
    refine Wraps.step_cons (.group hb h hg) (fun p => ?_) p
    rw [step_group, step_group, ← hg.decision, Context.scope_deepen, Context.branch_deepen_self,
      hb, List.getElem?_set_self hi]
    refine (ih p _).map fun x y hxy => ⟨?_, hxy.2⟩
    have hset : (ns.set i b').set i y.1 = (ns.set i x.1).set i y.1 := by
      rw [List.set_set, List.set_set]
    dsimp only
    rw [hset]
    exact .group (List.getElem?_set_self hi) hxy.1 (hg.hear hxy.1.outcome mode')
  | @required q r r' o dropped h ih =>
    refine Wraps.step_cons (.required h) (fun p => ?_) p
    rw [Node.step, Node.step, Context.branch_deepen_self]
    refine (ih p _).map fun x y hxy => ⟨?_, hxy.2⟩
    dsimp only
    rw [hxy.1.outcome.isSome_eq]
    exact .required hxy.1
  | @optional q o o' r dropped h ih =>
    refine Wraps.step_cons (.optional h) (fun p => ?_) p
    rw [Node.step, Node.step, Context.scope_deepen, Context.branch_deepen_self]
    exact (ih p _).map fun x y hxy => ⟨.optional hxy.1, hxy.2⟩
  | @timeout q n n' d expired fired h ih =>
    refine Wraps.step_cons (.timeout h) (fun p => ?_) p
    rw [Node.step, Node.step, Context.scope_deepen, Context.branch_deepen_self]
    exact (ih p _).map fun x y hxy => ⟨.timeout hxy.1, hxy.2⟩
  | @limit q n n' quota stopped fired h ih =>
    refine Wraps.step_cons (.limit h) (fun p => ?_) p
    rw [Node.step, Node.step, Context.scope_deepen, Context.through_deepen,
      Context.branch_deepen_self]
    refine (ih p _).map fun x y hxy => ?_
    dsimp only
    rw [hxy.2]
    exact ⟨.limit hxy.1, rfl⟩
  | @filter q n n' allows h ih =>
    refine Wraps.step_cons (.filter h) (fun p => ?_) p
    rw [Node.step, Node.step, Context.through_deepen, Context.branch_deepen_self]
    exact (ih p _).map fun x y hxy => ⟨.filter hxy.1, congrArg (Flow.filter allows) hxy.2⟩

theorem Wraps.at? (h : Wraps mode is q n n') :
    ∃ k, n.at? q = some (.group mode [k] (.hear mode {} k.outcome?)) := by
  induction h with
  | here => exact ⟨_, rfl⟩
  | group hb h hg ih => exact ih.imp fun k hk => at?_cons_eq_some.2 ⟨_, hb, hk⟩
  | _ => exact Exists.imp (fun k hk => at?_cons_eq_some.2 ⟨_, rfl, hk⟩) ‹_›

end Node

end SearchPlan
