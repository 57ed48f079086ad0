import SearchPlan.Proofs.Node.Gathering

/-! What the outcome of a node says of its branches: they have all ended, and their alerts are
among those of the node, with at most one that the node adds. -/

namespace SearchPlan

theorem Ending.kind_of_mem {e : Ending} {name : String} {fired : Bool} {a : Alert}
    (h : a ∈ (e.outcome name fired).alerts) : a.kind = .branchFailed := by
  cases e with
  | finished status =>
    cases status <;> cases fired <;> simp_all [outcome, Outcome.alerts, Alert.branchFailed]
  | failed e => cases fired <;> simp_all [outcome, Outcome.alerts, Alert.branchFailed]

/-- What holds of two empty lists and is kept by appending holds of what is gathered from the same
places of two lists. -/
theorem rel_flatMap {α β γ : Type} {R : List γ → List γ → Prop} (nil : R [] [])
    (append : ∀ {as bs cs ds}, R as bs → R cs ds → R (as ++ cs) (bs ++ ds)) {f : α → List γ}
    {g : β → List γ} {xs : List α} {ys : List β} (hlen : xs.length = ys.length)
    (h : ∀ (i : Nat) x y, xs[i]? = some x → ys[i]? = some y → R (f x) (g y)) :
    R (xs.flatMap f) (ys.flatMap g) := by
  induction xs generalizing ys with
  | nil =>
    obtain rfl := List.length_eq_zero_iff.1 hlen.symm
    exact nil
  | cons x xs ih =>
    cases ys with
    | nil => cases hlen
    | cons y ys =>
      rw [List.flatMap_cons, List.flatMap_cons]
      exact append (h 0 x y rfl rfl) (ih (Nat.succ.inj hlen) fun i => h (i + 1))

namespace Gathered

@[simp] theorem alerts_outcome (mode : Mode) (g : Gathered) :
    (g.outcome mode).alerts = g.alerts := by
  simp only [outcome]
  split
  · rfl
  · split <;> rfl

end Gathered

namespace Node

variable {p : Plan} {n b k : Node} {q : Path} {o : Outcome} {i : Nat} {a : Alert}

theorem sublist_timed (child : String) (d : Duration) (expired fired : Bool) (o : Outcome) :
    o.alerts.Sublist (timed child d expired fired o).alerts := by
  simp only [timed]
  split
  · exact .refl _
  · split
    · exact .refl _
    · exact List.sublist_append_left _ _

theorem sublist_capped (child : String) (q : Quota) (fired : Bool) (o : Outcome) :
    o.alerts.Sublist (capped child q fired o).alerts := by
  simp only [capped]
  split
  · exact .refl _
  · exact List.sublist_append_left _ _

theorem alerts_of_group {mode : Mode} {ns : List Node} {g : Gathered}
    (h : Reached p (.group mode ns g)) (ho : (Node.group mode ns g).outcome? = some o) :
    o.alerts.Perm (ns.flatMap raised) := by
  simp only [outcome?] at ho
  split at ho
  · cases ho
    rw [Gathered.alerts_outcome]
    exact h.heard.alerts
  · cases ho

/-- A preference is done only with its required branch, and has the status of that branch. -/
theorem of_preferred_done {name : String} {dropped : Bool} {ro bo : Outcome} {e : Execution}
    (h : preferred name dropped ro bo = .done e) :
    ∃ e', ro = .done e' ∧ e'.status = e.status ∧ e'.alerts ⊆ e.alerts := by
  cases ro with
  | cancelled as => cases h
  | done e' =>
    refine ⟨e', rfl, ?_⟩
    simp only [preferred] at h
    split at h
    · cases h
      exact ⟨rfl, List.subset_append_left _ _⟩
    · split at h
      · cases h
        exact ⟨rfl, List.Subset.refl _⟩
      · cases h
        exact ⟨rfl, List.subset_append_left _ _⟩
      · cases h
        exact ⟨rfl, List.subset_append_left _ _⟩

theorem mem_preferred {name : String} {dropped : Bool} {ro bo : Outcome}
    (h : a ∈ (preferred name dropped ro bo).alerts) :
    a ∈ ro.alerts ∨ a ∈ bo.alerts ∨ a = .branchFailed name "optional branch failed" := by
  cases ro with
  | cancelled as => exact (List.mem_append.1 h).imp_right .inl
  | done e =>
    simp only [preferred] at h
    split at h
    · exact (List.mem_append.1 h).imp_right .inl
    · split at h
      · exact .inl h
      · exact (List.mem_append.1 h).imp_right fun h => .inr (List.mem_singleton.1 h)
      · exact (List.mem_append.1 h).imp_right .inl

theorem mem_timed {child : String} {d : Duration} {expired fired : Bool}
    (h : a ∈ (timed child d expired fired o).alerts) : a ∈ o.alerts ∨ a = .timeout child d := by
  simp only [timed] at h
  split at h
  · exact .inl h
  · split at h
    · exact .inl h
    · exact (List.mem_append.1 h).imp_right List.mem_singleton.1

theorem mem_capped {child : String} {quota : Quota} {fired : Bool}
    (h : a ∈ (capped child quota fired o).alerts) :
    a ∈ o.alerts ∨ a = .limitHit child quota.limit := by
  simp only [capped] at h
  split at h
  · exact .inl h
  · exact (List.mem_append.1 h).imp_right List.mem_singleton.1

/-- An alert of a node is one of a branch or one that the node has added, which never says that the
search was cancelled. -/
theorem Reached.mem_alerts (h : Reached p n) (ho : n.outcome? = some o) (ha : a ∈ o.alerts) :
    (∃ b ∈ n.branches, a ∈ b.raised) ∨ a.kind ≠ .cancelled := by
  cases n with
  | leaf s ph pr =>
    right
    cases ph with
    | returned e fired =>
      cases ho
      rw [Ending.kind_of_mem ha]
      nofun
    | skipped =>
      cases ho
      cases ha
    | _ => cases ho
  | noop seen =>
    cases seen <;> cases ho
    cases ha
  | group mode ns g =>
    left
    exact List.mem_flatMap.1 ((alerts_of_group h ho).subset ha)
  | priority r k dropped =>
    simp only [outcome?] at ho
    split at ho
    case h_1 ro ko hr hk =>
      cases ho
      rcases mem_preferred ha with ha | ha | rfl
      · exact .inl ⟨r, List.mem_cons_self, by rwa [raised_eq hr]⟩
      · exact .inl ⟨k, List.mem_cons_of_mem _ (List.mem_singleton_self k), by rwa [raised_eq hk]⟩
      · right
        rintro ⟨⟩
    case h_2 => cases ho
  | timeout d k expired fired =>
    obtain ⟨ko, hk, rfl⟩ := Option.map_eq_some_iff.1 ho
    rcases mem_timed ha with ha | rfl
    · exact .inl ⟨k, List.mem_singleton_self k, by rwa [raised_eq hk]⟩
    · right
      rintro ⟨⟩
  | limit quota k stopped fired =>
    obtain ⟨ko, hk, rfl⟩ := Option.map_eq_some_iff.1 ho
    rcases mem_capped ha with ha | rfl
    · exact .inl ⟨k, List.mem_singleton_self k, by rwa [raised_eq hk]⟩
    · right
      rintro ⟨⟩
  | filter allows k =>
    exact .inl ⟨k, List.mem_singleton_self k, by rwa [raised_eq (n := k) ho]⟩

/-- Only the caller of the whole plan speaks of a cancelled search. -/
theorem Reached.kind_ne_cancelled (h : Reached p n) (ha : a ∈ n.raised) : a.kind ≠ .cancelled := by
  induction n using branch_induction generalizing p with
  | step n ih =>
    cases ho : n.outcome? with
    | none =>
      rw [raised_eq_nil ho] at ha
      cases ha
    | some o =>
      rw [raised_eq ho] at ha
      rcases h.mem_alerts ho ha with ⟨b, hb, ha⟩ | ha
      · obtain ⟨i, hi⟩ := List.mem_iff_getElem?.1 hb
        obtain ⟨p', -, hp'⟩ := h.branch hi
        exact ih b hb hp' ha
      · exact ha

theorem ended_branch (ho : n.outcome?.isSome) (hb : n.branches[i]? = some b) :
    b.outcome?.isSome := by
  have hmem := List.mem_of_getElem? hb
  cases n with
  | leaf => cases hmem
  | noop => cases hmem
  | group mode ns g =>
    simp only [outcome?] at ho
    split at ho
    case isTrue hended => exact ended_eq_true.1 hended b hmem
    case isFalse => cases ho
  | priority r k dropped =>
    simp only [outcome?] at ho
    split at ho
    case h_1 ro ko hr hk =>
      rcases List.mem_cons.1 hmem with rfl | hmem
      · rw [hr]
        rfl
      · rw [List.mem_singleton.1 hmem, hk]
        rfl
    case h_2 => cases ho
  | timeout d k expired fired =>
    rw [List.mem_singleton.1 hmem]
    rwa [outcome?, Option.isSome_map] at ho
  | limit quota k stopped fired =>
    rw [List.mem_singleton.1 hmem]
    rwa [outcome?, Option.isSome_map] at ho
  | filter allows k =>
    rw [List.mem_singleton.1 hmem]
    exact ho

theorem open_of_branch (hb : n.branches[i]? = some b) (ho : b.outcome? = none) :
    n.outcome? = none := by
  by_contra hn
  have hended := ended_branch (Option.ne_none_iff_isSome.1 hn) hb
  rw [ho] at hended
  cases hended

/-- When a node has ended, everything below it has. -/
theorem ended_at? (ho : n.outcome?.isSome) (hk : n.at? q = some k) : k.outcome?.isSome := by
  induction q generalizing n with
  | nil =>
    cases hk
    exact ho
  | cons i q ih =>
    obtain ⟨b, hb, hk⟩ := at?_cons_eq_some.1 hk
    exact ih (ended_branch ho hb) hk

end Node

end SearchPlan
