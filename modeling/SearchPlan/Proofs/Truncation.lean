import SearchPlan.Proofs.Node.Gathering
import SearchPlan.Proofs.Node.Passage

/-! A cap that has dropped matches. It does not count as a full success, unless it was told to stop
by what is above it, while its branch still came to its end. -/

namespace SearchPlan

theorem Quota.reached_of_truncated {q : Quota} (h : q.truncated = true) : q.reached = true := by
  simp only [truncated, reached, decide_eq_true_eq] at h ⊢
  omega

namespace Node

variable {p p' : Plan} {n n' k k' b : Node} {c : Context} {m : Move} {q r : Path} {f : Flow}
  {t : Moment} {ts : List Moment} {o : Outcome} {quota : Quota} {stopped fired : Bool}

theorem capped_success_iff (child : String) (h : quota.truncated = true) :
    (∃ as, capped child quota fired o = .done ⟨.success, as⟩) ↔
      fired = true ∧ ∃ as, o = .done ⟨.success, as⟩ := by
  cases fired with
  | true => simp [capped]
  | false =>
    simp only [capped, h, Quota.reached_of_truncated h]
    cases o with
    | cancelled as => simp
    | done e => by_cases he : e.status = .success <;> simp [he]

theorem Moves.reports_success_iff (hm : Moves m r c k (.limit quota b stopped fired) f)
    (h : quota.truncated = true) :
    (Node.limit quota b stopped fired).Reports .success ↔ c.fired = true ∧ b.Reports .success := by
  cases hm with
  | limit hm =>
    simp only [Reports, outcome?, Option.map_eq_some_iff]
    constructor
    · rintro ⟨as, o, ho, hs⟩
      obtain ⟨hc, as, rfl⟩ := (capped_success_iff _ h).1 ⟨as, hs⟩
      exact ⟨hc, as, ho⟩
    · rintro ⟨hc, as, ho⟩
      obtain ⟨as, hs⟩ := (capped_success_iff b.name h).2 ⟨hc, as, rfl⟩
      exact ⟨as, _, ho, hs⟩

theorem truncated_of_hands {count : Nat} {hc : 0 < count} (h : (ofPlan p).follow ts = some n)
    (hp : p.at? q = some (.limit count hc p')) (hk : n.at? q = some k)
    (hlost : ((ofPlan p).hands q ts).length < ((ofPlan p).hands (q ++ [0]) ts).length) :
    ∃ quota b stopped fired, k = .limit quota b stopped fired ∧ quota.truncated = true := by
  obtain ⟨k₀, us, hk₀, hus, hhands⟩ := exists_follow_at? h hk
  obtain rfl : ofPlan (.limit count hc p') = k₀ := Option.some.inj ((ofPlan_at? hp).symm.trans hk₀)
  have hdoes := Reached.does ⟨us, hus⟩
  cases k with
  | limit quota b stopped fired =>
    obtain ⟨hlimit, hreceived, hforwarded⟩ := limit_follow_ofPlan hus
    have hq := hhands []
    rw [List.append_nil] at hq
    rw [hq, hhands, hforwarded, List.length_take] at hlost
    refine ⟨quota, b, stopped, fired, rfl, ?_⟩
    simp only [Quota.truncated, hlimit, hreceived, decide_eq_true_eq]
    omega
  | _ => cases hdoes

/-- A cap below which matches were lost is a full success only if its token had fired by the time it
ended, and then exactly if its branch is one. -/
theorem limit_reports_success_iff {count : Nat} {hc : 0 < count}
    (h : (ofPlan p).follow ts = some n) (ht : n.meet t = some (n', f))
    (hp : p.at? q = some (.limit count hc p'))
    (hk : n.at? q = some k) (hopen : k.outcome? = none)
    (hk' : n'.at? q = some k') (hend : k'.outcome?.isSome)
    (hlost : ((ofPlan p).hands q (ts ++ [t])).length <
      ((ofPlan p).hands (q ++ [0]) (ts ++ [t])).length) :
    k'.Reports .success ↔
      (n.sees q t.context).fired = true ∧ ∃ b, k'.branches = [b] ∧ b.Reports .success := by
  have hfollow : (ofPlan p).follow (ts ++ [t]) = some n' := by
    rw [follow_append, h]
    exact follow_cons_eq_some.2 ⟨n', f, ht, rfl⟩
  obtain ⟨quota, b, stopped, fired, rfl, htruncated⟩ := truncated_of_hands hfollow hp hk' hlost
  obtain ⟨k₀, hk₀, hmoves⟩ := (meet_eq_some.1 ht).at? hk'
  obtain rfl : k₀ = k := Option.some.inj (hk₀.symm.trans hk)
  rcases hmoves with rfl | ⟨r, f', -, hm⟩
  · rw [hopen] at hend
    cases hend
  · rw [hm.reports_success_iff htruncated]
    simp [branches]

end Node

/-! A cap below a cap of the same size, which tells it to stop when the matches have come that fill
them both. -/

namespace Nested

def text : Script := { name := "text", steps := [.emit [.ofRepo "a", .ofRepo "b"]] }

def plan : Plan := .limit 1 (by decide) (.limit 1 (by decide) (.leaf text))

def moments : List Moment := [⟨.calm, [0, 0], .act⟩, ⟨.calm, [0, 0], .act⟩]

def last : Moment := ⟨.calm, [0, 0], .act⟩

def before : Node := .limit ⟨1, 1⟩
  (.limit ⟨1, 2⟩ (.leaf text (.running []) { runs := 1, emitted := 2 }) true false) true false

def inner : Node :=
  .limit ⟨1, 2⟩
    (.leaf text (.returned (.finished .success) true) { runs := 1, emitted := 2 }) true true

theorem inner_success : (Node.ofPlan plan).follow moments = some before ∧
    before.meet last = some (.limit ⟨1, 1⟩ inner true false, .quiet) ∧
    (Node.ofPlan plan).hands [0] (moments ++ [last]) = [.ofRepo "a"] ∧
    (Node.ofPlan plan).hands [0, 0] (moments ++ [last]) = [.ofRepo "a", .ofRepo "b"] ∧
    inner.Reports .success := by
  have hfollow : (Node.ofPlan plan).follow moments = some before := rfl
  have hlast : before.meet last = some (.limit ⟨1, 1⟩ inner true false, .quiet) := rfl
  have hplan : plan.at? [0] = some (.limit 1 (by decide) (.leaf text)) := rfl
  have hpassed : (Node.ofPlan plan).hands [0] (moments ++ [last]) = [.ofRepo "a"] := by decide
  have hcame :
      (Node.ofPlan plan).hands [0, 0] (moments ++ [last]) = [.ofRepo "a", .ofRepo "b"] := by decide
  have hlost : ((Node.ofPlan plan).hands [0] (moments ++ [last])).length <
      ((Node.ofPlan plan).hands ([0] ++ [0]) (moments ++ [last])).length := by decide
  refine ⟨hfollow, hlast, hpassed, hcame, ?_⟩
  exact (Node.limit_reports_success_iff hfollow hlast hplan rfl rfl rfl rfl hlost).2
    ⟨rfl, _, rfl, [], rfl⟩

end Nested

end SearchPlan
