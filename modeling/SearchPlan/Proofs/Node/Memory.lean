import SearchPlan.Proofs.Node.Ready

/-! A tree whose scripts have been run before. What has been seen of them earlier makes no
difference to what the tree does, and nothing that it does makes a difference to that. -/

namespace SearchPlan

namespace Probe

variable {old pr : Probe}

/-- What has been seen of a script if `pr` has been seen after `old`. -/
def plus (old pr : Probe) : Probe where
  runs := old.runs + pr.runs
  emitted := old.emitted + pr.emitted
  stopped := old.stopped || pr.stopped

/-- What has been seen of a script if `pr` has been seen `k` times. -/
def times (k : Nat) (pr : Probe) : Probe where
  runs := k * pr.runs
  emitted := k * pr.emitted
  stopped := decide (0 < k) && pr.stopped

theorem start_plus (old pr : Probe) : (old.plus pr).start = old.plus pr.start := by
  simp only [plus, start, Nat.add_assoc]

theorem emit_plus (old pr : Probe) (count : Nat) :
    (old.plus pr).emit count = old.plus (pr.emit count) := by
  simp only [plus, emit, Nat.add_assoc]

theorem stop_plus (old pr : Probe) : (old.plus pr).stop = old.plus pr.stop := by
  simp only [plus, stop, Bool.or_true]

@[simp] theorem plus_empty (old : Probe) : old.plus {} = old := by
  simp only [plus, Nat.add_zero, Bool.or_false]

theorem plus_assoc (a b c : Probe) : (a.plus b).plus c = a.plus (b.plus c) := by
  simp only [plus, Nat.add_assoc, Bool.or_assoc]

theorem times_zero (pr : Probe) : pr.times 0 = {} := by
  simp [times]

theorem plus_times (k : Nat) (pr : Probe) : (pr.times k).plus pr = pr.times (k + 1) := by
  simp only [plus, times, Nat.add_one_mul, mk.injEq, true_and]
  cases pr.stopped <;> simp

end Probe

variable {c : Context} {m : Move} {f : Flow} {q : Path}

/-- What has been seen of a script does not matter to its steps. -/
theorem Phase.step_plus (c : Context) (s : Script) (old pr : Probe) (ph : Phase) (m : Move) :
    ph.step c s (old.plus pr) m =
      (ph.step c s pr m).map fun (ph, pr, f) => (ph, old.plus pr, f) := by
  cases m with
  | act =>
    cases ph with
    | idle =>
      simp only [step, act]
      split <;> simp [Probe.start_plus]
    | running steps =>
      cases steps with
      | nil => rfl
      | cons st rest =>
        simp only [step, act]
        split
        · simp [Probe.stop_plus]
        · cases st with
          | sleep d =>
            simp only
            split <;> rfl
          | emit b =>
            simp only
            split <;> simp [Probe.emit_plus]
    | sleeping wakeAt rest =>
      simp only [step, act]
      split <;> rfl
    | sending size rest =>
      simp only [step, act]
      split <;> simp [Probe.emit_plus]
    | returned => rfl
    | skipped => rfl
  | halt =>
    cases ph with
    | sleeping wakeAt rest =>
      simp only [step, halt]
      split <;> simp [Probe.stop_plus]
    | _ => rfl
  | expire => rfl

namespace Node

variable {n b : Node} {i : Nat}

mutual

/-- The tree of which `old` has been seen before, for the script at each path. -/
def remember (old : Path → Probe) : Node → Node
  | .leaf s ph pr => .leaf s ph ((old []).plus pr)
  | .noop seen => .noop seen
  | .group mode ns g => .group mode (remembers old 0 ns) g
  | .priority required optional dropped =>
    .priority (required.remember fun q => old (0 :: q)) (optional.remember fun q => old (1 :: q))
      dropped
  | .timeout d n expired fired => .timeout d (n.remember fun q => old (0 :: q)) expired fired
  | .limit quota n stopped fired => .limit quota (n.remember fun q => old (0 :: q)) stopped fired
  | .filter allows n => .filter allows (n.remember fun q => old (0 :: q))

def remembers (old : Path → Probe) (i : Nat) : List Node → List Node
  | [] => []
  | n :: ns => n.remember (fun q => old (i :: q)) :: remembers old (i + 1) ns

end

theorem getElem?_remembers (old : Path → Probe) (i j : Nat) (ns : List Node) :
    (remembers old i ns)[j]? = ns[j]?.map (remember fun q => old ((i + j) :: q)) := by
  induction ns generalizing i j with
  | nil => rfl
  | cons n ns ih =>
    cases j with
    | zero => rfl
    | succ j =>
      simp only [remembers, List.getElem?_cons_succ, ih, Nat.add_assoc, Nat.add_comm 1]

@[simp] theorem name_remember (old : Path → Probe) (n : Node) : (n.remember old).name = n.name := by
  cases n <;> rfl

theorem ended_remembers {ns : List Node}
    (h : ∀ n ∈ ns, ∀ old, (n.remember old).outcome? = n.outcome?) (old : Path → Probe) (i : Nat) :
    ended (remembers old i ns) = ended ns := by
  induction ns generalizing i with
  | nil => rfl
  | cons n ns ih =>
    rw [List.forall_mem_cons] at h
    simp only [remembers, ended, h.1, ih h.2]

@[simp] theorem outcome?_remember (old : Path → Probe) (n : Node) :
    (n.remember old).outcome? = n.outcome? := by
  induction n generalizing old with
  | group mode ns g ih => simp only [remember, outcome?, ended_remembers ih]
  | _ => simp_all [remember, outcome?]

theorem nextAt?_remembers {ns : List Node}
    (h : ∀ n ∈ ns, ∀ old c, (n.remember old).next? c = n.next? c) (old : Path → Probe) (i : Nat)
    (c : Context) (j : Nat) : nextAt? c j (remembers old i ns) = nextAt? c j ns := by
  induction ns generalizing i j with
  | nil => rfl
  | cons n ns ih =>
    rw [List.forall_mem_cons] at h
    simp only [remembers, nextAt?, h.1, ih h.2]

@[simp] theorem next?_remember (old : Path → Probe) (c : Context) (n : Node) :
    (n.remember old).next? c = n.next? c := by
  induction n generalizing old c with
  | group mode ns g ih => exact nextAt?_remembers (fun n hn old c => ih n hn old c) old 0 _ 0
  | _ => simp_all [remember, next?]

theorem alarmsAll_remembers {ns : List Node}
    (h : ∀ n ∈ ns, ∀ old, (n.remember old).alarms = n.alarms) (old : Path → Probe) (i : Nat) :
    alarmsAll (remembers old i ns) = alarmsAll ns := by
  induction ns generalizing i with
  | nil => rfl
  | cons n ns ih =>
    rw [List.forall_mem_cons] at h
    simp only [remembers, alarmsAll, h.1, ih h.2]

@[simp] theorem alarms_remember (old : Path → Probe) (n : Node) :
    (n.remember old).alarms = n.alarms := by
  induction n generalizing old with
  | leaf s ph pr => cases ph <;> rfl
  | group mode ns g ih => exact alarmsAll_remembers ih old 0
  | _ => simp_all [remember, alarms]

theorem stepAt_remembers {ns : List Node} (h : ∀ n ∈ ns, ∀ old c,
      (n.remember old).step m q c = (n.step m q c).map fun (k, f) => (k.remember old, f))
    (old : Path → Probe) (i j : Nat) (c : Context) : stepAt m j q c (remembers old i ns) =
      (stepAt m j q c ns).map fun (ks, f, o) => (remembers old i ks, f, o) := by
  induction ns generalizing i j with
  | nil => cases j <;> rfl
  | cons n ns ih =>
    rw [List.forall_mem_cons] at h
    cases j with
    | zero =>
      simp only [remembers, stepAt, h.1, Option.map_map]
      congr 1
      funext x
      simp [remembers]
    | succ j =>
      simp only [remembers, stepAt, ih h.2, Option.map_map]
      congr 1

/-- A move of the tree is the same whatever has been seen of its scripts before. -/
theorem step_remember (old : Path → Probe) (m : Move) (q : Path) (c : Context) (n : Node) :
    (n.remember old).step m q c = (n.step m q c).map fun (k, f) => (k.remember old, f) := by
  induction n generalizing old q c with
  | leaf s ph pr =>
    cases q with
    | nil => simp [remember, step, Phase.step_plus, Function.comp_def]
    | cons i q => rfl
  | noop seen =>
    cases q with
    | nil =>
      simp only [remember, step]
      split <;> rfl
    | cons i q => rfl
  | group mode ns g ih =>
    cases q with
    | nil => rfl
    | cons i q =>
      simp only [remember, step, stepAt_remembers (fun n hn old c => ih n hn old q c),
        Option.map_map]
      congr 1
  | priority r o dropped ihr iho =>
    rcases q with _ | ⟨_ | _ | i, q⟩
    · rfl
    · simp only [remember, step, ihr, Option.map_map]
      congr 1
      funext x
      simp [remember]
    · simp only [Nat.zero_add, remember, step, iho, Option.map_map]
      congr 1
    · rfl
  | timeout d n expired fired ih =>
    rcases q with _ | ⟨_ | i, q⟩
    · simp only [remember, step, outcome?_remember, next?_remember]
      split <;> rfl
    · simp only [remember, step, ih, Option.map_map]
      congr 1
    · rfl
  | limit quota n stopped fired ih =>
    rcases q with _ | ⟨_ | i, q⟩
    · rfl
    · simp only [remember, step, ih, Option.map_map]
      congr 1
    · rfl
  | filter allows n ih =>
    rcases q with _ | ⟨_ | i, q⟩
    · rfl
    · simp only [remember, step, ih, Option.map_map]
      congr 1
    · rfl

theorem branches_remember (old : Path → Probe) (n : Node) :
    (n.remember old).branches = remembers old 0 n.branches := by
  cases n <;> rfl

theorem at?_remember (old : Path → Probe) (q : Path) (n : Node) :
    (n.remember old).at? q = (n.at? q).map (remember fun r => old (q ++ r)) := by
  induction q generalizing n old with
  | nil => rfl
  | cons i q ih =>
    rw [at?_cons, at?_cons, branches_remember, getElem?_remembers, Nat.zero_add, Option.bind_map,
      Option.map_bind]
    exact Option.bind_congr fun b _ => ih _ b

theorem remembers_remembers {ns : List Node} {a b : Path → Probe}
    (h : ∀ n ∈ ns, ∀ a b, (n.remember a).remember b = n.remember fun q => (b q).plus (a q))
    (i : Nat) : remembers b i (remembers a i ns) = remembers (fun q => (b q).plus (a q)) i ns := by
  induction ns generalizing i with
  | nil => rfl
  | cons n ns ih =>
    rw [List.forall_mem_cons] at h
    simp only [remembers, h.1, ih h.2]

theorem remember_remember (a b : Path → Probe) (n : Node) :
    (n.remember a).remember b = n.remember fun q => (b q).plus (a q) := by
  induction n generalizing a b with
  | leaf s ph pr => simp only [remember, Probe.plus_assoc]
  | group mode ns g ih => simp only [remember, remembers_remembers ih]
  | _ => simp_all [remember]

theorem rearms_remembers {ns : List Node}
    (h : ∀ n ∈ ns, ∀ old, (n.remember old).rearm = n.rearm.remember old) (old : Path → Probe)
    (i : Nat) : rearms (remembers old i ns) = remembers old i (rearms ns) := by
  induction ns generalizing i with
  | nil => rfl
  | cons n ns ih =>
    rw [List.forall_mem_cons] at h
    simp only [remembers, rearms, h.1, ih h.2]

theorem rearm_remember (old : Path → Probe) (n : Node) :
    (n.remember old).rearm = n.rearm.remember old := by
  induction n generalizing old with
  | group mode ns g ih => simp only [remember, rearm, rearms_remembers ih]
  | _ => simp_all [remember, rearm]

/-- What has been seen of the script at a path. -/
def probeAt (n : Node) (q : Path) : Probe :=
  match n.at? q with
  | some (.leaf _ _ pr) => pr
  | _ => {}

theorem probeAt_cons (hb : n.branches[i]? = some b) (q : Path) :
    n.probeAt (i :: q) = b.probeAt q := by
  simp only [probeAt, at?_cons, hb, Option.bind_some]

theorem probeAt_eq {s : Script} {ph : Phase} {pr : Probe}
    (h : n.at? q = some (.leaf s ph pr)) : n.probeAt q = pr := by
  simp only [probeAt, h]

theorem Does.rearm_eq_remember {p : Plan} (h : Does p n)
    (hlength : n.branches.length = p.children.length)
    (hbranch : ∀ {i b p'}, n.branches[i]? = some b → p.children[i]? = some p' →
      b.rearm = (ofPlan p').remember fun q => n.probeAt (i :: q)) :
    n.rearm = (ofPlan p).remember n.probeAt := by
  cases n with
  | leaf s ph pr =>
    cases p <;> cases h
    simp only [Node.rearm, ofPlan, remember, Probe.plus_empty]
    rfl
  | noop seen =>
    cases p <;> cases h
    rfl
  | group mode ns g =>
    cases p <;> cases h
    case group first rest =>
    simp only [Node.rearm, ofPlan, remember, group.injEq, true_and, and_true, rearms_eq_map]
    apply List.ext_getElem?
    intro i
    change (ns.map Node.rearm)[i]? = (remembers _ 0 (ofPlans (first :: rest)))[i]?
    rw [getElem?_remembers, ofPlans_eq_map, List.getElem?_map, List.getElem?_map, Option.map_map,
      Nat.zero_add]
    by_cases hi : i < ns.length
    · have hi' : i < (first :: rest).length := hlength ▸ hi
      rw [List.getElem?_eq_getElem hi, List.getElem?_eq_getElem hi']
      exact congrArg some (hbranch (List.getElem?_eq_getElem hi) (List.getElem?_eq_getElem hi'))
    · have hi' : (first :: rest).length ≤ i := hlength ▸ Nat.le_of_not_lt hi
      rw [List.getElem?_eq_none (Nat.le_of_not_lt hi), List.getElem?_eq_none hi']
      rfl
  | priority r o dropped =>
    cases p <;> cases h
    simp only [Node.rearm, ofPlan, remember, priority.injEq, and_true]
    exact ⟨hbranch (i := 0) rfl rfl, hbranch (i := 1) rfl rfl⟩
  | timeout d b expired fired =>
    cases p <;> cases h
    simp only [Node.rearm, ofPlan, remember, timeout.injEq, true_and, and_true]
    exact hbranch (i := 0) rfl rfl
  | limit quota b stopped fired =>
    cases p <;> cases h
    simp only [Node.rearm, ofPlan, remember, limit.injEq, true_and, and_true]
    exact hbranch (i := 0) rfl rfl
  | filter allows b =>
    cases p <;> cases h
    simp only [Node.rearm, ofPlan, remember, filter.injEq, true_and]
    exact hbranch (i := 0) rfl rfl

/-- Before another run, a tree is a new one of which its earlier runs have been seen. -/
theorem Reached.rearm_eq_remember {p : Plan} (h : Reached p n) :
    n.rearm = (ofPlan p).remember n.probeAt := by
  induction p using Plan.child_induction generalizing n with
  | step p ih =>
    refine h.does.rearm_eq_remember h.length_branches fun {i b p'} hb hp => ?_
    obtain ⟨p₁, hp₁, hreach⟩ := h.branch hb
    obtain rfl : p' = p₁ := Option.some.inj (hp.symm.trans hp₁)
    rw [ih p' (List.mem_of_getElem? hp) hreach]
    congr 1
    funext q
    exact (probeAt_cons hb q).symm

end Node

end SearchPlan
