import SearchPlan.Proofs.Node.Script
import SearchPlan.Proofs.Node.Waiting
import SearchPlan.Proofs.Run.Received

/-! Nothing below a node goes on after the node has ended: its scripts have come back or were never
started, none of them waits for room, and nothing that happens later touches them. -/

namespace SearchPlan

variable {c : Context} {m : Move} {f : Flow} {s : Script}

/-- A script is started at most once in a run before which its probe was `pr`, and nothing but being
started moves the probe. -/
structure Phase.Once (pr : Probe) (ph' : Phase) (pr' : Probe) : Prop where
  runs : pr'.runs = pr.runs + ph'.started.toNat
  unstarted : ph'.started = false → pr' = pr

theorem Phase.Moves.once {ph ph' : Phase} {pr₀ pr pr' : Probe} (h : Moves c s m ph pr ph' pr' f)
    (hpr : Once pr₀ ph pr) : Once pr₀ ph' pr' := by
  obtain ⟨hruns, hunstarted⟩ := hpr
  cases h with
  | skip => exact ⟨hruns, hunstarted⟩
  | start =>
    obtain rfl := hunstarted rfl
    exact ⟨rfl, nofun⟩
  | _ => exact ⟨hruns, nofun⟩

theorem Phase.returned_or_skipped {ph : Phase} {name : String} (h : (ph.outcome? name).isSome) :
    (∃ e fired, ph = .returned e fired) ∨ ph = .skipped := by
  cases ph with
  | returned e fired => exact .inl ⟨e, fired, rfl⟩
  | skipped => exact .inr rfl
  | _ => cases h

namespace Node

variable {n n' k : Node} {p q r : Path} {ts us : List Moment} {pl : Plan}

/-- What has ended stays as it is, and nothing below it moves. -/
theorem Moves.at?_of_ended (h : Moves m p c n n' f) (hk : n.at? q = some k)
    (ho : k.outcome?.isSome) : n'.at? q = some k ∧ ¬q <+: p := by
  have hp : ¬q <+: p := by
    rintro ⟨r, rfl⟩
    obtain ⟨k₀, k', f', hk₀, -, hm⟩ := h.of_append
    obtain rfl : k₀ = k := Option.some.inj (hk₀.symm.trans hk)
    rw [hm.outcome?_eq_none] at ho
    cases ho
  refine ⟨?_, hp⟩
  obtain ⟨k', hk'⟩ := h.exists_at? hk
  obtain ⟨k₀, hk₀, hmove⟩ := h.at? hk'
  obtain rfl : k₀ = k := Option.some.inj (hk₀.symm.trans hk)
  rcases hmove with rfl | ⟨r, f', rfl, -⟩
  · exact hk'
  · exact absurd (List.prefix_append q r) hp

theorem at?_of_ended (h : n.follow us = some n') (hk : n.at? q = some k) (ho : k.outcome?.isSome) :
    n'.at? q = some k ∧ ∀ u ∈ us, ¬q <+: u.path := by
  induction us generalizing n with
  | nil =>
    cases h
    exact ⟨hk, nofun⟩
  | cons u us ih =>
    obtain ⟨n₁, f, hu, h⟩ := follow_cons_eq_some.1 h
    obtain ⟨hk₁, hu⟩ := (meet_eq_some.1 hu).at?_of_ended hk ho
    obtain ⟨hk', hus⟩ := ih h hk₁
    exact ⟨hk', List.forall_mem_cons.2 ⟨hu, hus⟩⟩

theorem Ready.once (hn : Ready pl n) (h : n.follow ts = some n')
    (hp : pl.at? q = some (.leaf s)) : ∃ pr ph' pr', n.at? q = some (.leaf s .idle pr) ∧
      n'.at? q = some (.leaf s ph' pr') ∧ ph'.Once pr pr' := by
  obtain ⟨k, hk, hready⟩ := hn.at? hp
  obtain ⟨pr, rfl⟩ := hready.leaf
  obtain ⟨ph', pr', hk', honce⟩ := script_induction (motive := fun ph' pr' => ph'.Once pr pr') h hk
    ⟨rfl, fun _ => rfl⟩ fun honce hm => hm.once honce
  exact ⟨pr, ph', pr', hk, hk', honce⟩

end Node

/-- No branch outlives its node, whatever the world does. -/
theorem Node.Ready.contained {n n' : Node} {pl : Plan} {ts : List Moment} (hn : Ready pl n)
    (hts : n.follow ts = some n') :
    (∀ q k, n'.at? q = some k → k.outcome?.isSome →
      -- every script below a node that has ended has come back or was never started
      (∀ r s, pl.at? (q ++ r) = some (.leaf s) → ∃ pr ph' pr',
        n.at? (q ++ r) = some (.leaf s .idle pr) ∧ n'.at? (q ++ r) = some (.leaf s ph' pr') ∧
        ((∃ e fired, ph' = .returned e fired) ∧ pr'.runs = pr.runs + 1 ∨
          ph' = .skipped ∧ pr' = pr)) ∧
      -- no send from below it waits, neither there nor at the sink
      (∀ r, ¬n'.Waits (q ++ r)) ∧ (∀ y ∈ (n.transit ts {}).waiting, ¬q <+: y.1) ∧
      -- nothing moves below it from then on
      ∀ us n'', n'.follow us = some n'' → n''.at? q = some k ∧ ∀ u ∈ us, ¬q <+: u.path) ∧
    -- no script is started twice
    (∀ q s, pl.at? q = some (.leaf s) → ∃ pr ph' pr', n.at? q = some (.leaf s .idle pr) ∧
      n'.at? q = some (.leaf s ph' pr') ∧ ph'.Once pr pr') ∧
    -- when the whole tree has ended, nothing reaches the sink and no probe changes
    (n'.outcome?.isSome → ∀ (r r' : Run) es, r.tree = n' → r.follow es = some r' →
      r'.tree.probes = n'.probes ∧ r'.received <+: r.received) := by
  refine ⟨?_, fun q s => hn.once hts, ?_⟩
  · intro q k hk ho
    have hfree (r : Path) : ¬n'.Waits (q ++ r) := by
      intro hw
      exact not_waits_of_ended ho r (hw.of_append hk)
    refine ⟨?_, hfree, ?_, fun us n'' hus => at?_of_ended hus hk ho⟩
    · intro r s hp
      obtain ⟨pr, ph', pr', hs, hs', honce⟩ := hn.once hts hp
      obtain ⟨k', hk', hbelow⟩ := at?_append_eq_some.1 hs'
      obtain rfl : k' = k := Option.some.inj (hk'.symm.trans hk)
      refine ⟨pr, ph', pr', hs, hs', ?_⟩
      rcases Phase.returned_or_skipped (ended_at? ho hbelow) with ⟨e, fired, rfl⟩ | rfl
      · exact .inl ⟨⟨e, fired, rfl⟩, honce.runs⟩
      · exact .inr ⟨rfl, honce.unstarted rfl⟩
    · rintro y hy ⟨r, hr⟩
      apply hfree r
      rw [hr]
      exact waits_of_transit hts (x := {}) nofun y hy
  · rintro ho r r' es rfl hes
    obtain ⟨htree, hreceived⟩ := Run.received_of_follow hes ho
    exact ⟨by rw [htree], hreceived⟩

/-! A choice that is over before its second branch has been started. -/

namespace Spared

def quick : Script := { name := "quick", steps := [.emit [.ofRepo "a"]] }

def late : Script := { name := "late", steps := [.emit [.ofRepo "b"]] }

def plan : Plan := .group .parallel (.group .or (.leaf quick) [.leaf late]) [.leaf late]

def moments : List Moment :=
  [⟨.calm, [0, 0], .act⟩, ⟨.calm, [0, 0], .act⟩, ⟨.calm, [0, 0], .act⟩, ⟨.calm, [0, 1], .act⟩]

def choice : Node := .group .or
  [.leaf quick (.returned (.finished .success) false) { runs := 1, emitted := 1 },
    .leaf late .skipped {}]
  { decision := some .success }

def tree : Node := .group .parallel [choice, .leaf late .idle {}] { statuses := [.success] }

theorem late_spared : (Node.ofPlan plan).follow moments = some tree ∧
    choice.outcome? = some (.done ⟨.success, []⟩) ∧
    tree.at? [0, 1] = some (.leaf late .skipped {}) ∧
    ∀ us n, tree.follow us = some n → n.at? [0] = some choice := by
  have hfollow : (Node.ofPlan plan).follow moments = some tree := rfl
  obtain ⟨hcontained, -⟩ := Node.Ready.contained .first hfollow
  obtain ⟨hscripts, -, -, hlater⟩ := hcontained [0] choice rfl rfl
  refine ⟨hfollow, rfl, ?_, fun us n hus => (hlater us n hus).1⟩
  obtain ⟨pr, ph', pr', hpr, hat, hcame | ⟨rfl, rfl⟩⟩ := hscripts [1] late rfl
  · cases hat
    simp at hcame
  · cases hpr
    exact hat

end Spared

end SearchPlan
