import Mathlib.Data.Multiset.AddSub
import SearchPlan.Proofs.Failure
import SearchPlan.Proofs.Run.Happens
import SearchPlan.Run.Start

/-! Where the alerts of a run come from. A script raises at most one, and so do a deadline and a cap,
and on the way up no alert is invented and none is counted twice. -/

namespace SearchPlan

/-- No script words its alert as a preference does that speaks for its optional branch. -/
theorem Script.complaint_ne (s : Script) (job : String) :
    s.complaint ≠ some (.branchFailed job "optional branch failed") := by
  intro h
  rw [complaint] at h
  cases hs : s.ending with
  | finished status =>
    rw [hs] at h
    cases status with
    | failure =>
      have hmessage := congrArg Alert.message (Option.some.inj h)
      have hlast := congrArg (·.toList.getLast?) hmessage
      simp [Alert.branchFailed, toString] at hlast
    | _ => cases h
  | failed e =>
    rw [hs] at h
    have hmessage := congrArg Alert.message (Option.some.inj h)
    have hfirst := congrArg (·.toList.head?) hmessage
    cases e <;> simp [Alert.branchFailed, JobError.message, toString] at hfirst

theorem Phase.Upto.raised {s : Script} {ph : Phase} {pr pr' : Probe} {taken : List Step}
    (h : Upto s ph pr taken) : (Node.leaf s ph pr').raised.Sublist
      (if ph.started then s.complaint.toList else []) := by
  cases h with
  | finished => exact s.sublist_complaint _
  | _ => exact List.nil_sublist _

namespace Plan

mutual

/-- The alerts that the jobs of a plan may raise, each at most once. -/
def potential : Plan → List Alert
  | .leaf s => s.complaint.toList
  | .noop => []
  | .group _ first rest => first.potential ++ potentials rest
  | .priority required optional => required.potential ++ optional.potential
  | .timeout d p => p.potential ++ [.timeout p.name d]
  | .limit count _ p => p.potential ++ [.limitHit p.name count]
  | .filter _ p => p.potential

def potentials : List Plan → List Alert
  | [] => []
  | p :: ps => p.potential ++ potentials ps

end

theorem potentials_eq_flatMap (ps : List Plan) : potentials ps = ps.flatMap potential := by
  induction ps with
  | nil => rfl
  | cons p ps ih => rw [potentials, ih, List.flatMap_cons]

end Plan

namespace Node

mutual

/-- The same for a running tree, in which a script may complain only if it has been started. -/
def potential : Node → List Alert
  | .leaf s ph _ => if ph.started then s.complaint.toList else []
  | .noop _ => []
  | .group _ ns _ => potentials ns
  | .priority required optional _ => required.potential ++ optional.potential
  | .timeout d n _ _ => n.potential ++ [.timeout n.name d]
  | .limit q n _ _ => n.potential ++ [.limitHit n.name q.limit]
  | .filter _ n => n.potential

def potentials : List Node → List Alert
  | [] => []
  | n :: ns => n.potential ++ potentials ns

end

variable {p : Plan} {n : Node} {o : Outcome} {a : Alert}

theorem potentials_eq_flatMap (ns : List Node) : potentials ns = ns.flatMap potential := by
  induction ns with
  | nil => rfl
  | cons n ns ih => rw [potentials, ih, List.flatMap_cons]

/-- A run of a plan raises nothing that the plan does not account for. -/
theorem Reached.potential_sublist (h : Reached p n) : n.potential.Sublist p.potential := by
  have hdoes := h.does
  induction n generalizing p with
  | leaf s ph pr =>
    cases p with
    | leaf s' =>
      obtain rfl : s = s' := hdoes
      rw [potential]
      split
      · exact .refl _
      · exact List.nil_sublist _
    | _ => cases hdoes
  | noop => exact List.nil_sublist _
  | group mode ns g ih =>
    cases p with
    | group mode' first rest =>
      rw [potential, potentials_eq_flatMap, Plan.potential, Plan.potentials_eq_flatMap,
        ← List.flatMap_cons]
      refine rel_flatMap .slnil (fun h h' => h.append h') h.length_branches fun i b p' hb hp' => ?_
      obtain ⟨p₁, hp₁, hr⟩ := h.branch hb
      obtain rfl : p₁ = p' := Option.some.inj (hp₁.symm.trans hp')
      exact ih b (List.mem_of_getElem? hb) hr hr.does
    | _ => cases hdoes
  | priority r k dropped ihr ihk =>
    cases p with
    | priority =>
      obtain ⟨p₀, hp₀, hr⟩ := h.branch (i := 0) rfl
      obtain ⟨p₁, hp₁, hk⟩ := h.branch (i := 1) rfl
      cases hp₀
      cases hp₁
      exact (ihr hr hr.does).append (ihk hk hk.does)
    | _ => cases hdoes
  | timeout d k expired fired ih =>
    cases p with
    | timeout =>
      obtain ⟨p₀, hp₀, hk⟩ := h.branch (i := 0) rfl
      cases hp₀
      obtain rfl : d = _ := hdoes
      rw [potential, Plan.potential, hk.name]
      exact (ih hk hk.does).append (.refl _)
    | _ => cases hdoes
  | limit quota k stopped fired ih =>
    cases p with
    | limit =>
      obtain ⟨p₀, hp₀, hk⟩ := h.branch (i := 0) rfl
      cases hp₀
      obtain rfl : quota.limit = _ := hdoes
      rw [potential, Plan.potential, hk.name]
      exact (ih hk hk.does).append (.refl _)
    | _ => cases hdoes
  | filter allows k ih =>
    cases p with
    | filter =>
      obtain ⟨p₀, hp₀, hk⟩ := h.branch (i := 0) rfl
      cases hp₀
      rw [potential, Plan.potential]
      exact ih hk hk.does
    | _ => cases hdoes

theorem timed_sublist (child : String) (d : Duration) (expired fired : Bool) (o : Outcome) :
    (timed child d expired fired o).alerts.Sublist (o.alerts ++ [.timeout child d]) := by
  simp only [timed]
  split
  · exact List.sublist_append_left _ _
  · split
    · exact List.sublist_append_left _ _
    · exact .refl _

theorem capped_sublist (child : String) (quota : Quota) (fired : Bool) (o : Outcome) :
    (capped child quota fired o).alerts.Sublist (o.alerts ++ [.limitHit child quota.limit]) := by
  simp only [capped]
  split
  · exact List.sublist_append_left _ _
  · exact .refl _

/-- A preference speaks for its optional branch only if that has failed without a word. -/
theorem preferred_sublist {ro bo : Outcome} (hbo : bo ≠ .done ⟨.failure, []⟩) (name : String)
    (dropped : Bool) :
    (preferred name dropped ro bo).alerts.Sublist (ro.alerts ++ bo.alerts) := by
  cases ro with
  | cancelled as => exact .refl _
  | done e =>
    simp only [preferred]
    split
    · exact .refl _
    · split
      · exact List.sublist_append_left _ _
      · exact absurd rfl hbo
      · exact .refl _

/-- What fails gives a reason. -/
theorem Reached.not_silent (h : Reached p n) : n.outcome? ≠ some (.done ⟨.failure, []⟩) := by
  intro ho
  obtain ⟨q, s, pr, message, -, -, -, hmem⟩ := h.blames ho
  cases hmem

theorem Reached.raised_leaf {s : Script} {ph : Phase} {pr : Probe} (h : Reached p (.leaf s ph pr)) :
    (leaf s ph pr).raised.Sublist (leaf s ph pr).potential := by
  have hdoes := h.does
  cases p with
  | leaf s' =>
    obtain rfl : s = s' := hdoes
    obtain ⟨ts, h⟩ := h
    obtain ⟨ph', pr', hn, hupto, -⟩ := upto_of_follow h
    cases hn
    exact hupto.raised
  | _ => cases hdoes

theorem raised_subperm {as : List Alert}
    (h : ∀ o, n.outcome? = some o → o.alerts.Subperm as) : n.raised.Subperm as := by
  cases ho : n.outcome? with
  | none =>
    rw [raised_eq_nil ho]
    exact List.nil_subperm
  | some o =>
    rw [raised_eq ho]
    exact h o ho

/-- Whatever happens to a running tree, what a node raises is accounted for by the jobs below it and
its own. -/
theorem Reached.subperm_potential (h : Reached p n) : n.raised.Subperm n.potential := by
  induction n generalizing p with
  | leaf s ph pr => exact h.raised_leaf.subperm
  | noop seen => cases seen <;> exact .refl _
  | group mode ns g ih =>
    refine raised_subperm fun o ho => (alerts_of_group h ho).subperm.trans ?_
    rw [potential, potentials_eq_flatMap]
    refine rel_flatMap (.refl []) (fun h h' => h.append h') rfl fun i b b' hb hb' => ?_
    obtain rfl : b = b' := Option.some.inj (hb.symm.trans hb')
    obtain ⟨p', -, hr⟩ := h.branch hb
    exact ih b (List.mem_of_getElem? hb) hr
  | priority r k dropped ihr ihk =>
    obtain ⟨p₀, -, hr⟩ := h.branch (i := 0) rfl
    obtain ⟨p₁, -, hk⟩ := h.branch (i := 1) rfl
    have hboth := (ihr hr).append (ihk hk)
    refine raised_subperm fun o ho => ?_
    simp only [outcome?] at ho
    split at ho
    case h_1 ro ko hro hko =>
      cases ho
      rw [raised_eq hro, raised_eq hko] at hboth
      have hspoken : ko ≠ .done ⟨.failure, []⟩ := fun heq => hk.not_silent (heq ▸ hko)
      exact (preferred_sublist hspoken k.name dropped).subperm.trans hboth
    case h_2 => cases ho
  | timeout d k expired fired ih =>
    obtain ⟨p₀, -, hk⟩ := h.branch (i := 0) rfl
    refine raised_subperm fun o ho => ?_
    obtain ⟨ko, hko, rfl⟩ := Option.map_eq_some_iff.1 ho
    have hbelow := ih hk
    rw [raised_eq hko] at hbelow
    exact (timed_sublist k.name d expired fired ko).subperm.trans (hbelow.append (.refl _))
  | limit quota k stopped fired ih =>
    obtain ⟨p₀, -, hk⟩ := h.branch (i := 0) rfl
    refine raised_subperm fun o ho => ?_
    obtain ⟨ko, hko, rfl⟩ := Option.map_eq_some_iff.1 ho
    have hbelow := ih hk
    rw [raised_eq hko] at hbelow
    exact (capped_sublist k.name quota fired ko).subperm.trans (hbelow.append (.refl _))
  | filter allows k ih =>
    obtain ⟨p₀, -, hk⟩ := h.branch (i := 0) rfl
    exact ih hk

/-- A script in the tree has been started and complains with this alert. -/
def Complains (a : Alert) (n : Node) : Prop :=
  ∃ q s ph pr, n.at? q = some (.leaf s ph pr) ∧ ph.started = true ∧ s.complaint = some a

theorem Complains.of_branch {i : Nat} {b : Node} (hb : n.branches[i]? = some b)
    (h : b.Complains a) : n.Complains a := by
  obtain ⟨q, s, ph, pr, hs, hstarted, ha⟩ := h
  exact ⟨i :: q, s, ph, pr, at?_cons_eq_some.2 ⟨b, hb, hs⟩, hstarted, ha⟩

/-- Nothing but a script complains. -/
theorem complains_of_potential (ha : a ∈ n.potential) (hkind : a.kind = .branchFailed) :
    n.Complains a := by
  induction n with
  | leaf s ph pr =>
    rw [potential] at ha
    split at ha
    case isTrue hstarted => exact ⟨[], s, ph, pr, rfl, hstarted, by simpa using ha⟩
    case isFalse => cases ha
  | noop => cases ha
  | group mode ns g ih =>
    rw [potential, potentials_eq_flatMap] at ha
    obtain ⟨b, hb, ha⟩ := List.mem_flatMap.1 ha
    obtain ⟨i, hi⟩ := List.mem_iff_getElem?.1 hb
    exact (ih b hb ha).of_branch hi
  | priority r k dropped ihr ihk =>
    rcases List.mem_append.1 ha with ha | ha
    · exact (ihr ha).of_branch (i := 0) rfl
    · exact (ihk ha).of_branch (i := 1) rfl
  | timeout d k expired fired ih =>
    rcases List.mem_append.1 ha with ha | ha
    · exact (ih ha).of_branch (i := 0) rfl
    · obtain rfl := List.mem_singleton.1 ha
      cases hkind
  | limit quota k stopped fired ih =>
    rcases List.mem_append.1 ha with ha | ha
    · exact (ih ha).of_branch (i := 0) rfl
    · obtain rfl := List.mem_singleton.1 ha
      cases hkind
  | filter allows k ih => exact (ih ha).of_branch (i := 0) rfl

theorem not_complains (job : String) :
    ¬n.Complains (.branchFailed job "optional branch failed") := by
  rintro ⟨q, s, ph, pr, -, -, hcomplaint⟩
  exact s.complaint_ne job hcomplaint

/-- The alerts of an execution are, but for one at the end that says that it was cancelled, among
those that its plan accounts for, each as often at most. A script is blamed only if it was started,
and a preference never has to speak for its optional branch. -/
theorem Reached.alerts_accounted (h : Reached p n) (ho : n.outcome? = some o) :
    (∃ as, ((o.execution n.name).alerts = as ∨
        (o.execution n.name).alerts = as ++ [.cancelled p.name]) ∧
      (as : Multiset Alert) ≤ (n.potential : Multiset Alert) ∧
      (n.potential : Multiset Alert) ≤ (p.potential : Multiset Alert)) ∧
    (∀ a ∈ (o.execution n.name).alerts, a.kind = .branchFailed → n.Complains a) ∧
    ∀ job, .branchFailed job "optional branch failed" ∉ (o.execution n.name).alerts := by
  have hsubperm := h.subperm_potential
  rw [raised_eq ho] at hsubperm
  have haccounted : ∃ as, ((o.execution n.name).alerts = as ∨
      (o.execution n.name).alerts = as ++ [.cancelled p.name]) ∧ as.Subperm n.potential := by
    refine ⟨o.alerts, ?_, hsubperm⟩
    cases o with
    | done e => exact .inl rfl
    | cancelled as =>
      right
      rw [← h.name]
      rfl
  have hblamed : ∀ a ∈ (o.execution n.name).alerts, a.kind = .branchFailed → n.Complains a := by
    intro a ha hkind
    apply complains_of_potential _ hkind
    obtain ⟨as, heq | heq, hsub⟩ := haccounted
    · exact hsub.subset (heq ▸ ha)
    · rw [heq] at ha
      rcases List.mem_append.1 ha with ha | ha
      · exact hsub.subset ha
      · obtain rfl := List.mem_singleton.1 ha
        cases hkind
  obtain ⟨as, heq, hsub⟩ := haccounted
  refine ⟨⟨as, heq, Multiset.coe_le.2 hsub, Multiset.coe_le.2 h.potential_sublist.subperm⟩,
    hblamed, fun job hmem => ?_⟩
  exact not_complains job (hblamed _ hmem rfl)

end Node

/-! A cap, a deadline and a script each raise the alert that is theirs. -/

namespace Accounted

def wide : Script where
  name := "wide"
  steps := [.sleep (.ofMillis 9), .emit [.ofRepo "a", .ofRepo "b"]]

def bad : Script := { name := "bad", failure := some (.unavailable "bad") }

def slow : Script := { name := "slow", steps := [.sleep (.ofMillis 20)] }

def plan : Plan :=
  .priority (.limit 1 Nat.one_pos (.leaf wide))
    (.group .or (.leaf bad) [.timeout (.ofMillis 5) (.leaf slow)])

def alerts : List Alert :=
  [.limitHit "wide" 1, .branchFailed "bad" "Job bad backend unavailable",
    .timeout "slow" (.ofMillis 5)]

theorem each_once : Node.Reached plan (plan.run {}).tree ∧
    (plan.run {}).outcome? = some (.done ⟨.partialSuccess, alerts⟩) ∧
    (alerts : Multiset Alert) ≤ (plan.potential : Multiset Alert) ∧ plan.potential = alerts ∧
    (plan.run {}).tree.Complains (.branchFailed "bad" "Job bad backend unavailable") := by
  obtain ⟨es, hes⟩ := Run.exists_follow_eq_advance _ .caller (.direct (.ofPlan plan) {})
  have hreached : Node.Reached plan (plan.run {}).tree := Run.reached rfl hes
  have ho : (plan.run {}).outcome? = some (.done ⟨.partialSuccess, alerts⟩) := by decide +kernel
  obtain ⟨⟨as, heq, hle, hle'⟩, hblamed, -⟩ := hreached.alerts_accounted ho
  have hsame : alerts = as := by
    rcases heq with heq | heq
    · exact heq
    · have hlast := congrArg List.getLast? heq
      rw [List.getLast?_concat] at hlast
      cases hlast
  rw [← hsame] at hle
  exact ⟨hreached, ho, hle.trans hle', rfl, hblamed _ (List.mem_cons_of_mem _ List.mem_cons_self) rfl⟩

end Accounted

end SearchPlan
