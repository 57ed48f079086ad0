import SearchPlan.Proofs.Node.Branch

/-! The next move of a running tree: there is one that can happen as long as a script is left that
neither sleeps nor waits for room. Where there is none, alarms tell when there will be one. -/

namespace SearchPlan

variable {c : Context} {m : Move} {p q : Path} {f : Flow} {n n' b : Node} {i j : Nat}

theorem Phase.exists_moves_of_next? {ph : Phase} (s : Script) (pr : Probe)
    (h : ph.next? c = some m) : ∃ ph' pr' f, Phase.Moves c s m ph pr ph' pr' f := by
  cases ph with
  | idle =>
    cases h
    cases hc : c.fired with
    | true => exact ⟨_, _, _, .skip hc⟩
    | false => exact ⟨_, _, _, .start hc⟩
  | running steps =>
    cases h
    cases steps with
    | nil => exact ⟨_, _, _, .finish⟩
    | cons st rest =>
      cases hc : c.fired with
      | true => exact ⟨_, _, _, .stop hc⟩
      | false =>
        cases st with
        | sleep d =>
          by_cases hd : d.millis = 0
          · exact ⟨_, _, _, .pass hc hd⟩
          · exact ⟨_, _, _, .sleep hc hd⟩
        | emit b =>
          cases hb : c.waits b with
          | true => exact ⟨_, _, _, .queue hc hb⟩
          | false => exact ⟨_, _, _, .emit hc hb⟩
  | sleeping wakeAt rest =>
    simp only [next?] at h
    split at h
    · cases h
      exact ⟨_, _, _, .wake ‹_›⟩
    · split at h
      · cases h
        exact ⟨_, _, _, .halt ‹_›⟩
      · cases h
  | sending size rest =>
    simp only [next?] at h
    split at h
    · cases h
      exact ⟨_, _, _, .resume ‹_›⟩
    · cases h
  | returned => cases h
  | skipped => cases h

theorem Phase.Moves.next?_ne_none {s : Script} {ph ph' : Phase} {pr pr' : Probe}
    (h : Phase.Moves c s m ph pr ph' pr' f) : ph.next? c ≠ none := by
  cases h with
  | wake hdue => simp [next?, hdue]
  | resume hg => simp [next?, hg]
  | halt hfired =>
    simp only [next?, hfired]
    split <;> simp
  | _ => simp [next?]

/-- A script that could not move can later move only if it was asleep and its time has come. -/
theorem Phase.Moves.elapses {now : Nat} {s : Script} {ph ph' : Phase} {pr pr' : Probe}
    (h : Phase.Moves { c with now } s m ph pr ph' pr' f) (hx : ph.next? c = none) :
    m = .act ∧ ∃ wakeAt rest, ph = .sleeping wakeAt rest ∧ wakeAt ≤ now := by
  cases h with
  | wake hdue => exact ⟨rfl, _, _, rfl, hdue⟩
  | resume hg =>
    have hg : c.granted [] = true := hg
    simp [next?, hg] at hx
  | halt hfired =>
    have hfired : c.fired = true := hfired
    simp only [next?, hfired] at hx
    split at hx <;> cases hx
  | _ => cases hx

namespace Node

theorem nextAt?_eq_some {ns : List Node} (h : nextAt? c j ns = some (q, m)) :
    ∃ ms b us p, ns = ms ++ b :: us ∧ q = (j + ms.length) :: p ∧
      b.next? (c.branch (j + ms.length)) = some (p, m) := by
  induction ns generalizing j with
  | nil => cases h
  | cons n ns ih =>
    simp only [nextAt?] at h
    split at h
    case h_1 p m' hn =>
      cases h
      exact ⟨[], n, ns, p, rfl, rfl, hn⟩
    case h_2 =>
      obtain ⟨ms, b, us, p, rfl, rfl, hb⟩ := ih h
      have hj : j + (n :: ms).length = j + 1 + ms.length := by
        rw [List.length_cons]
        omega
      refine ⟨n :: ms, b, us, p, rfl, ?_, ?_⟩
      · rw [hj]
      · rw [hj, hb]

theorem nextAt?_eq_none {ns : List Node} (h : nextAt? c j ns = none) (hb : ns[i]? = some b) :
    b.next? (c.branch (j + i)) = none := by
  induction ns generalizing i j with
  | nil => simp at hb
  | cons n ns ih =>
    simp only [nextAt?] at h
    split at h
    case h_1 => cases h
    case h_2 hn =>
      cases i with
      | zero =>
        cases hb
        exact hn
      | succ i =>
        rw [← Nat.succ_add_eq_add_succ]
        exact ih h hb

theorem exists_moves_of_next? (h : n.next? c = some (q, m)) : ∃ n' f, Moves m q c n n' f := by
  induction n generalizing c q with
  | leaf s ph pr =>
    simp only [next?, Option.map_eq_some_iff, Prod.mk.injEq] at h
    obtain ⟨_, hm, rfl, rfl⟩ := h
    obtain ⟨ph', pr', f, hph⟩ := Phase.exists_moves_of_next? s pr hm
    exact ⟨_, _, .leaf hph⟩
  | noop seen =>
    cases seen with
    | true => cases h
    | false =>
      cases h
      exact ⟨_, _, .noop rfl⟩
  | group mode ns g ih =>
    obtain ⟨ms, b, us, p, rfl, rfl, hb⟩ := nextAt?_eq_some h
    rw [Nat.zero_add] at hb ⊢
    obtain ⟨b', f, hm⟩ := ih b (List.mem_append_right _ List.mem_cons_self) hb
    exact ⟨_, _, .group hm⟩
  | priority r o dropped ihr iho =>
    simp only [next?] at h
    split at h
    case h_1 p m' hr =>
      cases h
      obtain ⟨r', f, hm⟩ := ihr hr
      exact ⟨_, _, .required hm⟩
    case h_2 =>
      simp only [Option.map_eq_some_iff, Prod.mk.injEq] at h
      obtain ⟨⟨p, m'⟩, ho, rfl, rfl⟩ := h
      obtain ⟨o', f, hm⟩ := iho ho
      exact ⟨_, _, .optional hm⟩
  | timeout d k expired fired ih =>
    simp only [next?] at h
    split at h
    case h_1 p m' hk =>
      cases h
      obtain ⟨k', f, hm⟩ := ih hk
      exact ⟨_, _, .timeout hm⟩
    case h_2 hk =>
      split at h
      case isTrue hdue =>
        cases h
        simp only [Bool.and_eq_true, Bool.not_eq_true', Option.isNone_iff_eq_none,
          decide_eq_true_eq] at hdue
        obtain ⟨⟨rfl, hopen⟩, hdue⟩ := hdue
        exact ⟨_, _, .expire rfl hopen hdue hk⟩
      case isFalse => cases h
  | limit quota k stopped fired ih =>
    simp only [next?, Option.map_eq_some_iff, Prod.mk.injEq] at h
    obtain ⟨⟨p, m'⟩, hk, rfl, rfl⟩ := h
    obtain ⟨k', f, hm⟩ := ih hk
    exact ⟨_, _, .limit hm⟩
  | filter allows k ih =>
    simp only [next?, Option.map_eq_some_iff, Prod.mk.injEq] at h
    obtain ⟨⟨p, m'⟩, hk, rfl, rfl⟩ := h
    obtain ⟨k', f, hm⟩ := ih hk
    exact ⟨_, _, .filter hm⟩

theorem getElem?_single {α : Type} {a b : α} (h : [a][i]? = some b) : i = 0 ∧ b = a := by
  cases i with
  | zero =>
    cases h
    exact ⟨rfl, rfl⟩
  | succ i => cases h

/-- When a tree cannot move, none of its branches can. -/
theorem next?_branch (h : n.next? c = none) (hb : n.branches[i]? = some b) :
    b.next? (n.under c i) = none := by
  cases n with
  | leaf => cases hb
  | noop => cases hb
  | group mode ns g =>
    have := nextAt?_eq_none h hb
    rwa [Nat.zero_add] at this
  | priority r o dropped =>
    simp only [next?] at h
    split at h
    case h_1 => cases h
    case h_2 hr =>
      match i, hb with
      | 0, hb =>
        cases hb
        simpa [under, stops, Context.scope] using hr
      | 1, hb =>
        cases hb
        simpa [under, stops] using h
  | timeout d k expired fired =>
    obtain ⟨rfl, rfl⟩ := getElem?_single hb
    simp only [next?] at h
    split at h
    case h_1 => cases h
    case h_2 hk => exact hk
  | limit quota k stopped fired =>
    obtain ⟨rfl, rfl⟩ := getElem?_single hb
    exact Option.map_eq_none_iff.1 h
  | filter allows k =>
    obtain ⟨rfl, rfl⟩ := getElem?_single hb
    exact Option.map_eq_none_iff.1 h

theorem Moves.next?_ne_none (h : Moves m p c n n' f) : n.next? c ≠ none := by
  intro hx
  induction p generalizing c n n' f with
  | nil =>
    cases h with
    | leaf h => exact h.next?_ne_none (Option.map_eq_none_iff.1 hx)
    | noop => cases hx
    | expire _ ho hdue hk => simp [next?, hk, ho, hdue] at hx
  | cons i p ih =>
    obtain ⟨b, b', f', hb, hm, -, -⟩ := h.branch
    exact ih hm (next?_branch hx hb)

/-- A deadline that does not expire where nothing moves is yet to come. -/
theorem now_lt_of_next?_eq_none {d : Duration} {fired : Bool}
    (h : (timeout d n false fired).next? c = none) (ho : n.outcome? = none) : c.now < d.millis := by
  have hn : n.next? ((c.scope false).branch 0) = none := next?_branch (i := 0) h rfl
  apply Nat.lt_of_not_le
  intro hdue
  simp [next?, hn, ho, hdue] at h

theorem next?_timeout {d : Duration} {fired : Bool} (h : n.next? ((c.scope false).branch 0) = none)
    (hlt : c.now < d.millis) : (timeout d n false fired).next? c = none := by
  simp [next?, h, Nat.not_le.2 hlt]

/-- The script at the path waits for room for a batch. -/
def Waits (q : Path) (n : Node) : Prop :=
  ∃ s size rest pr, n.at? q = some (.leaf s (.sending size rest) pr)

theorem Waits.cons (hb : n.branches[i]? = some b) (h : b.Waits q) : n.Waits (i :: q) := by
  obtain ⟨s, size, rest, pr, hq⟩ := h
  exact ⟨s, size, rest, pr, at?_cons_eq_some.2 ⟨b, hb, hq⟩⟩

theorem Waits.of_cons (h : n.Waits (i :: q)) : ∃ b, n.branches[i]? = some b ∧ b.Waits q := by
  obtain ⟨s, size, rest, pr, hq⟩ := h
  obtain ⟨b, hb, hq⟩ := at?_cons_eq_some.1 hq
  exact ⟨b, hb, s, size, rest, pr, hq⟩

theorem Waits.at? (hk : n.at? q = some k) (h : k.Waits r) : n.Waits (q ++ r) := by
  induction q generalizing n with
  | nil =>
    cases hk
    exact h
  | cons i q ih =>
    obtain ⟨b, hb, hk⟩ := at?_cons_eq_some.1 hk
    exact (ih hk).cons hb

/-- A script starts to wait only where a sink makes it. -/
theorem Moves.waits (h : Moves m p c n n' f) (hw : n'.Waits q) :
    n.Waits q ∨ ∃ b, (n.sees q c).waits b = true := by
  obtain ⟨s, size, rest, pr, hq⟩ := hw
  obtain ⟨k, hk, rfl | ⟨r, f', -, hm⟩⟩ := h.at? hq
  · exact .inl ⟨s, size, rest, pr, hk⟩
  · cases hm with
    | leaf hm =>
      cases hm with
      | queue _ hb => exact .inr ⟨_, hb⟩

theorem sees_waits {b : Batch} (h : (n.sees q c).waits b = true) : ∃ b, c.waits b = true := by
  induction q generalizing c n with
  | nil => exact ⟨b, h⟩
  | cons i q ih =>
    simp only [sees] at h
    split at h
    · obtain ⟨b', hb'⟩ := ih h
      exact under_waits hb'
    · exact ⟨b, h⟩

/-- Nothing in the tree can move, and no script in it waits for room. -/
structure Still (c : Context) (n : Node) : Prop where
  next : n.next? c = none
  free : ∀ q, ¬n.Waits q

theorem Still.branch (h : n.Still c) (hb : n.branches[i]? = some b) : b.Still (n.under c i) where
  next := next?_branch h.next hb
  free q hq := h.free (i :: q) (hq.cons hb)

theorem Still.at? (h : n.Still c) (hk : n.at? q = some k) : k.Still (n.sees q c) := by
  induction q generalizing n c with
  | nil =>
    cases hk
    exact h
  | cons i q ih =>
    obtain ⟨b, hb, hk⟩ := at?_cons_eq_some.1 hk
    rw [sees_cons hb]
    exact ih (h.branch hb) hk

/-- Once its token has fired, a tree in which no script waits can move until it has ended. -/
theorem Still.ended (h : n.Still c) (hc : c.fired = true) : n.outcome?.isSome := by
  induction n generalizing c with
  | leaf s ph pr =>
    have hx := h.next
    cases ph with
    -- a script that waits for room does not look at its token
    | sending size rest => exact absurd ⟨s, size, rest, pr, rfl⟩ (h.free [])
    | sleeping wakeAt rest =>
      simp only [next?, Phase.next?, hc, if_true] at hx
      split at hx <;> cases hx
    | returned => rfl
    | skipped => rfl
    | _ => cases hx
  | noop seen =>
    cases seen with
    | true => rfl
    | false => cases h.next
  | group mode ns g ih =>
    have hended : ∀ b ∈ ns, b.outcome?.isSome := by
      intro b hb
      obtain ⟨i, hi⟩ := List.mem_iff_getElem?.1 hb
      exact ih b hb (h.branch hi) (by simp [hc])
    simp only [outcome?, ended_eq_true.2 hended, if_true]
    rfl
  | priority r o dropped ihr iho =>
    obtain ⟨_, hr⟩ := Option.isSome_iff_exists.1 (ihr (h.branch (i := 0) rfl) (by simp [hc]))
    obtain ⟨_, ho⟩ := Option.isSome_iff_exists.1 (iho (h.branch (i := 1) rfl) (by simp [hc]))
    simp only [outcome?, hr, ho]
    rfl
  | timeout d k expired fired ih =>
    rw [outcome?, Option.isSome_map]
    exact ih (h.branch (i := 0) rfl) (by simp [hc])
  | limit quota k stopped fired ih =>
    rw [outcome?, Option.isSome_map]
    exact ih (h.branch (i := 0) rfl) (by simp [hc])
  | filter allows k ih => exact ih (h.branch (i := 0) rfl) (by simp [hc])

theorem Still.ended_of_stops (h : n.Still c) (hb : n.branches[i]? = some b)
    (hs : n.stops i = true) : b.outcome? ≠ none :=
  Option.ne_none_iff_isSome.2 ((h.branch hb).ended (by rw [under_fired, hs, Bool.or_true]))

theorem exists_open_of_group {mode : Mode} {ns : List Node} {g : Gathered}
    (ho : (group mode ns g).outcome? = none) : ∃ n ∈ ns, n.outcome? = none := by
  simp only [outcome?] at ho
  split at ho
  case isTrue => cases ho
  case isFalse hended => simpa [ended_eq_true] using hended

theorem Still.group_ended {mode : Mode} {ns : List Node} {g : Gathered} {st : Status}
    (h : (group mode ns g).Still c) (hg : g.decision = some st) :
    (group mode ns g).outcome? ≠ none := by
  intro ho
  obtain ⟨n, hn, hopen⟩ := exists_open_of_group ho
  obtain ⟨i, hn⟩ := List.mem_iff_getElem?.1 hn
  exact h.ended_of_stops hn (by rw [stops, hg]; rfl) hopen

structure Pauses (now : Nat) (c : Context) (n : Node) : Prop where
  now_eq : c.now = now
  live : c.fired = false
  still : n.Still c

theorem Pauses.branch {b : Node} (h : n.Pauses now c) (hb : n.branches[i]? = some b)
    (hs : n.stops i = false) : b.Pauses now (n.under c i) where
  now_eq := by rw [under_now, h.now_eq]
  live := under_live h.live hs
  still := h.still.branch hb

theorem mem_alarmsAll {time : Nat} {ns : List Node} :
    time ∈ alarmsAll ns ↔ ∃ n ∈ ns, time ∈ n.alarms := by
  induction ns with
  | nil => simp [alarmsAll]
  | cons n ns ih => simp [alarmsAll, ih]

theorem alarms_branch {time : Nat} (hb : n.branches[i]? = some b) (h : time ∈ b.alarms) :
    time ∈ n.alarms := by
  have hmem := List.mem_of_getElem? hb
  cases n with
  | leaf => cases hmem
  | noop => cases hmem
  | group mode ns g => exact mem_alarmsAll.2 ⟨b, hmem, h⟩
  | priority r o dropped =>
    rcases List.mem_cons.1 hmem with rfl | hmem
    · exact List.mem_append_left _ h
    · rw [List.mem_singleton.1 hmem] at h
      exact List.mem_append_right _ h
  | timeout d k expired fired =>
    rw [List.mem_singleton.1 hmem] at h
    simp only [alarms]
    split
    · exact h
    · exact List.mem_cons_of_mem _ h
  | limit => exact List.mem_singleton.1 hmem ▸ h
  | filter => exact List.mem_singleton.1 hmem ▸ h

theorem alarms_at? {time : Nat} (hk : n.at? q = some k) (h : time ∈ k.alarms) :
    time ∈ n.alarms := by
  induction q generalizing n with
  | nil =>
    cases hk
    exact h
  | cons i q ih =>
    obtain ⟨b, hb, hk⟩ := at?_cons_eq_some.1 hk
    exact alarms_branch hb (ih hk)

/-- When nothing can move, all alarms are yet to come. -/
theorem now_lt_of_mem_alarms {time : Nat} (h : n.next? c = none) (ha : time ∈ n.alarms) :
    c.now < time := by
  induction n generalizing c with
  | leaf s ph pr =>
    cases ph with
    | sleeping wakeAt rest =>
      obtain rfl := List.mem_singleton.1 ha
      simp only [next?, Phase.next?, Option.map_eq_none_iff] at h
      split at h
      case isTrue => cases h
      case isFalse hdue => exact Nat.lt_of_not_le hdue
    | _ => cases ha
  | noop seen => cases ha
  | group mode ns g ih =>
    obtain ⟨b, hb, ha⟩ := mem_alarmsAll.1 ha
    obtain ⟨i, hi⟩ := List.mem_iff_getElem?.1 hb
    simpa using ih b hb (next?_branch h hi) ha
  | priority r o dropped ihr iho =>
    rcases List.mem_append.1 ha with ha | ha
    · simpa using ihr (next?_branch (i := 0) h rfl) ha
    · simpa using iho (next?_branch (i := 1) h rfl) ha
  | timeout d k expired fired ih =>
    have hk : time ∈ k.alarms → c.now < time := by
      simpa using ih (next?_branch (i := 0) h rfl)
    simp only [alarms] at ha
    split at ha
    case isTrue => exact hk ha
    case isFalse hopen =>
      simp only [Bool.or_eq_true, not_or, Bool.not_eq_true, Option.isSome_eq_false_iff,
        Option.isNone_iff_eq_none] at hopen
      obtain ⟨rfl, hopen⟩ := hopen
      rcases List.mem_cons.1 ha with rfl | ha
      · exact now_lt_of_next?_eq_none h hopen
      · exact hk ha
  | limit quota k stopped fired ih => simpa using ih (next?_branch (i := 0) h rfl) ha
  | filter allows k ih => simpa using ih (next?_branch (i := 0) h rfl) ha

/-- The move ends a sleep, or is the expiry of a deadline. -/
def Elapses (p : Path) (m : Move) (n : Node) : Prop :=
  m = .expire ∨ m = .act ∧ ∃ s wakeAt rest pr, n.at? p = some (.leaf s (.sleeping wakeAt rest) pr)

def asleep : Node → Bool
  | .leaf _ (.sleeping _ _) _ => true
  | _ => false

theorem asleep_eq_true : n.asleep = true ↔
    ∃ s wakeAt rest pr, n = .leaf s (.sleeping wakeAt rest) pr := by
  constructor
  · intro h
    cases n with
    | leaf s ph pr =>
      cases ph with
      | sleeping wakeAt rest => exact ⟨s, wakeAt, rest, pr, rfl⟩
      | _ => cases h
    | _ => cases h
  · rintro ⟨s, wakeAt, rest, pr, rfl⟩
    rfl

instance : Decidable (Elapses p m n) :=
  decidable_of_iff (m = .expire ∨ m = .act ∧ (n.at? p).any asleep = true) <| by
    apply or_congr_right
    apply and_congr_right
    intro _
    simp only [Option.any_eq_true, asleep_eq_true]
    constructor
    · rintro ⟨k, hk, s, wakeAt, rest, pr, rfl⟩
      exact ⟨s, wakeAt, rest, pr, hk⟩
    · rintro ⟨s, wakeAt, rest, pr, hk⟩
      exact ⟨_, hk, s, wakeAt, rest, pr, rfl⟩

theorem Elapses.cons {b : Node} (hb : n.branches[i]? = some b) (h : b.Elapses p m) :
    n.Elapses (i :: p) m := by
  refine h.imp_right fun ⟨hm, s, wakeAt, rest, pr, hp⟩ => ⟨hm, s, wakeAt, rest, pr, ?_⟩
  exact at?_cons_eq_some.2 ⟨b, hb, hp⟩

theorem under_at (c : Context) (now : Nat) (i : Nat) (n : Node) :
    n.under { c with now } i = { n.under c i with now } := by
  cases n <;> rfl

/-- What becomes possible only because time goes on is what an alarm was set for. -/
theorem Moves.elapses {now : Nat} (h : Moves m p { c with now } n n' f) (hx : n.next? c = none) :
    n.Elapses p m ∧ ∃ time ∈ n.alarms, time ≤ now := by
  induction p generalizing c n n' f with
  | nil =>
    cases h with
    | leaf h =>
      obtain ⟨rfl, wakeAt, rest, rfl, hdue⟩ := h.elapses (Option.map_eq_none_iff.1 hx)
      exact ⟨.inr ⟨rfl, _, _, _, _, rfl⟩, wakeAt, List.mem_singleton_self _, hdue⟩
    | noop => cases hx
    | @expire _ d n fired hm ho hdue =>
      exact ⟨.inl hm, d.millis, by simp [alarms, ho], hdue⟩
  | cons i p ih =>
    obtain ⟨b, b', f', hb, hm, -⟩ := h.branch
    rw [under_at] at hm
    obtain ⟨helapses, time, ha, hle⟩ := ih hm (next?_branch hx hb)
    exact ⟨helapses.cons hb, time, alarms_branch hb ha, hle⟩

end Node

end SearchPlan
