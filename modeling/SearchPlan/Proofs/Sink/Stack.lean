import SearchPlan.Sink.Stack

/-! Quotas and checkers stacked on a collector, as functions on lists. What the collector holds, and
what every quota reports, depends on the matches that were sent and not on how they were batched. -/

namespace SearchPlan

namespace Outlet

/-- Sends a batch if that does not wait. -/
def offer (b : Batch) (o : Outlet) : Outlet := if o.waits b then o else o.send [] b false

theorem waits_empty (o : Outlet) : o.waits [] = false := by
  cases o <;> rfl

theorem offer_empty (o : Outlet) : o.offer [] = o := by
  cases o <;> rfl

end Outlet

/-- What a layer of a stack does, whatever it has seen. -/
inductive Sieve
  | limit : (count : Nat) → Sieve
  | filter : Checker → Sieve

namespace Sieve

def apply (xs : List Match) : Sieve → List Match
  | .limit count => xs.take count
  | .filter allows => xs.filter allows

/-- What the layer lets through of a batch that comes after `xs`. -/
def admits (xs : List Match) (b : Batch) : Sieve → Batch
  | .limit count => b.take (count - xs.length)
  | .filter allows => b.filter allows

/-- The layer when `xs` has come to it. -/
def layer (xs : List Match) (fired : Bool) : Sieve → Layer
  | .limit count => .limit ⟨count, xs.length⟩ fired
  | .filter allows => .filter allows

/-- Whether the layer is a quota that is reached by `xs`. -/
def full (xs : List Match) : Sieve → Bool
  | .limit count => count ≤ xs.length
  | .filter _ => false

def isLimit : Sieve → Bool
  | .limit _ => true
  | .filter _ => false

theorem admits_limit (count : Nat) (xs : List Match) (b : Batch) :
    (limit count).admits xs b = Quota.fit ⟨count, xs.length⟩ b := rfl

theorem admits_filter (allows : Checker) (xs : List Match) (b : Batch) :
    (filter allows).admits xs b = b.filter allows := rfl

theorem apply_nil (s : Sieve) : s.apply [] = [] := by
  cases s with
  | limit count => exact List.take_nil
  | filter allows => rfl

theorem apply_append (xs : List Match) (b : Batch) (s : Sieve) :
    s.apply (xs ++ b) = s.apply xs ++ s.admits xs b := by
  cases s with
  | limit count => exact List.take_append
  | filter allows => exact List.filter_append xs b

theorem admits_nil (xs : List Match) (s : Sieve) : s.admits xs [] = [] := by
  cases s with
  | limit count => exact List.take_nil
  | filter allows => rfl

end Sieve

namespace Stack

/-- What is left of `xs` behind all the layers. -/
def strain (ss : List Sieve) (xs : List Match) : List Match := ss.foldl Sieve.apply xs

/-- What is let through by all the layers of a batch that comes after `xs`. -/
def admitted (xs : List Match) (b : Batch) : List Sieve → Batch
  | [] => b
  | s :: ss => admitted (s.apply xs) (s.admits xs b) ss

/-- The layers when `xs` has been sent and the tokens `fired` have fired. -/
def layersAt (xs : List Match) (fired : Nat → Bool) : List Sieve → List Layer
  | [] => []
  | s :: ss => s.layer xs (fired 0) :: layersAt (s.apply xs) (fun i => fired (i + 1)) ss

/-- New layers on an empty collector. -/
def ofSieves (ss : List Sieve) : Stack := ⟨ss.map (Sieve.layer [] false), .empty⟩

/-- What comes to the `i`-th layer of a batch that is sent. -/
def arriving (b : Batch) : Nat → List Layer → Option Batch
  | 0, _ => some b
  | _ + 1, [] => none
  | i + 1, .filter allows :: layers =>
    match b.filter allows with
    | [] => none
    | rest => arriving rest i layers
  | i + 1, .limit q _ :: layers =>
    match q.fit b with
    | [] => none
    | rest => arriving rest i layers

inductive Use
  | send : Batch → Use
  | cancel : Nat → Use
  | read
  | close
  deriving DecidableEq

def Use.batch? : Use → Option Batch
  | .send b => some b
  | _ => none

def use (s : Stack) : Use → Stack
  | .send b => (s.send b).1
  | .cancel i => s.cancel i
  | .read => s.read.1
  | .close => s.close

def follow (us : List Use) (s : Stack) : Stack := us.foldl use s

def sent (us : List Use) : List Batch := us.filterMap Use.batch?

/-- Whether anything, be it an empty batch, comes to the `i`-th layer. -/
def reaches (i : Nat) : List Use → Stack → Bool
  | [], _ => false
  | u :: us, s => u.batch?.any (fun b => (arriving b i s.layers).isSome) || reaches i us (s.use u)

/-- How many of the batches add to what is left behind all the layers. -/
def fruitful (ss : List Sieve) (bs : List Batch) : Nat :=
  (List.range bs.length).countP fun k =>
    (strain ss (bs.take k).flatten).length < (strain ss (bs.take (k + 1)).flatten).length

/-- How many quotas there are above the `i`-th layer. -/
def rank (ss : List Sieve) (i : Nat) : Nat := (ss.take i).countP Sieve.isLimit

variable {s : Sieve} {ss : List Sieve} {xs : List Match} {b : Batch} {fired : Bool}
  {ls : List Layer} {o : Outlet}

theorem strain_append (ss : List Sieve) (xs : List Match) (b : Batch) :
    strain ss (xs ++ b) = strain ss xs ++ admitted xs b ss := by
  induction ss generalizing xs b with
  | nil => rfl
  | cons s ss ih =>
    simp only [strain, List.foldl_cons, admitted, Sieve.apply_append]
    exact ih _ _

theorem strain_nil (ss : List Sieve) : strain ss [] = [] := by
  induction ss with
  | nil => rfl
  | cons s ss ih => rw [strain, List.foldl_cons, Sieve.apply_nil, ← strain, ih]

theorem admitted_nil (xs : List Match) (ss : List Sieve) : admitted xs [] ss = [] := by
  induction ss generalizing xs with
  | nil => rfl
  | cons s ss ih => rw [admitted, Sieve.admits_nil, ih]

theorem layersAt_nil (ss : List Sieve) :
    layersAt [] (fun _ => false) ss = ss.map (Sieve.layer [] false) := by
  induction ss with
  | nil => rfl
  | cons s ss ih =>
    rw [layersAt, Sieve.apply_nil, ih, List.map_cons]

theorem getElem?_layersAt (xs : List Match) (fired : Nat → Bool) (ss : List Sieve) (i : Nat) :
    (layersAt xs fired ss)[i]? = ss[i]?.map (Sieve.layer (strain (ss.take i) xs) (fired i)) := by
  induction ss generalizing xs fired i with
  | nil => rfl
  | cons s ss ih =>
    cases i with
    | zero => rfl
    | succ i => exact ih _ _ i

/-- A batch of which nothing is let through goes no further. -/
theorem sendThrough_dropped (h : s.admits xs b = []) :
    sendThrough b o (s.layer xs fired :: ls) =
      (s.layer (xs ++ b) (fired || s.full (xs ++ b)) :: ls, o, true) := by
  cases s with
  | limit count =>
    rw [Sieve.admits_limit] at h
    simp only [sendThrough, Sieve.layer, h, Quota.receive, Quota.reached, Sieve.full,
      List.length_append]
    rfl
  | filter allows =>
    rw [Sieve.admits_filter] at h
    simp only [sendThrough, Sieve.layer, h]

theorem sendThrough_admitted (h : s.admits xs b ≠ []) :
    sendThrough b o (s.layer xs fired :: ls) =
      let (ls', o', through) := sendThrough (s.admits xs b) o ls
      (s.layer (xs ++ b) (fired || (through && s.full (xs ++ b))) :: ls', o', through) := by
  cases s with
  | limit count =>
    obtain ⟨m, rest, hrest⟩ := List.exists_cons_of_ne_nil h
    rw [Sieve.admits_limit] at hrest
    simp only [sendThrough, Sieve.layer, Sieve.admits_limit, hrest, Quota.receive, Quota.reached,
      Sieve.full, List.length_append]
    rfl
  | filter allows =>
    obtain ⟨m, rest, hrest⟩ := List.exists_cons_of_ne_nil h
    rw [Sieve.admits_filter] at hrest
    simp only [sendThrough, Sieve.layer, Sieve.admits_filter, hrest]

theorem arriving_dropped (h : s.admits xs b = []) (i : Nat) :
    arriving b (i + 1) (s.layer xs fired :: ls) = none := by
  cases s with
  | limit count =>
    rw [Sieve.admits_limit] at h
    simp only [arriving, Sieve.layer, h]
  | filter allows =>
    rw [Sieve.admits_filter] at h
    simp only [arriving, Sieve.layer, h]

theorem arriving_admitted (h : s.admits xs b ≠ []) (i : Nat) :
    arriving b (i + 1) (s.layer xs fired :: ls) = arriving (s.admits xs b) i ls := by
  cases s with
  | limit count =>
    obtain ⟨m, rest, hrest⟩ := List.exists_cons_of_ne_nil h
    rw [Sieve.admits_limit] at hrest
    simp only [arriving, Sieve.layer, Sieve.admits_limit, hrest]
  | filter allows =>
    obtain ⟨m, rest, hrest⟩ := List.exists_cons_of_ne_nil h
    rw [Sieve.admits_filter] at hrest
    simp only [arriving, Sieve.layer, Sieve.admits_filter, hrest]

/-- What comes to a layer is what the layers above it let through. -/
theorem getD_arriving {i : Nat} (hi : i ≤ ss.length) (xs : List Match) (b : Batch)
    (fired : Nat → Bool) :
    (arriving b i (layersAt xs fired ss)).getD [] = admitted xs b (ss.take i) := by
  induction ss generalizing xs b fired i with
  | nil =>
    obtain rfl : i = 0 := Nat.le_zero.1 hi
    rfl
  | cons s ss ih =>
    cases i with
    | zero => rfl
    | succ i =>
      rw [layersAt, List.take_succ_cons, admitted]
      by_cases h : s.admits xs b = []
      · rw [arriving_dropped h, h, admitted_nil]
        rfl
      · rw [arriving_admitted h]
        exact ih (Nat.le_of_succ_le_succ hi) _ _ _

/-- The tokens that have fired after a send: a quota fires its own if something comes to it and it
is reached then. -/
def firedBy (xs : List Match) (b : Batch) (fired : Nat → Bool) (ss : List Sieve) (i : Nat) : Bool :=
  fired i || (arriving b i (layersAt xs fired ss)).isSome &&
    ss[i]?.any (Sieve.full (strain (ss.take i) (xs ++ b)))

/-- One send, through all the layers. It is given up if what they leave of it has to wait, and then
the quotas reckon with it, but fire no tokens. -/
theorem sendThrough_offer (ss : List Sieve) (xs : List Match) (b : Batch) (fired : Nat → Bool)
    (o : Outlet) :
    sendThrough b o (layersAt xs fired ss) =
      (layersAt (xs ++ b)
          (if o.waits (admitted xs b ss) then fired else firedBy xs b fired ss) ss,
        o.offer (admitted xs b ss), !o.waits (admitted xs b ss)) := by
  induction ss generalizing xs b fired with
  | nil =>
    rw [layersAt, sendThrough, admitted, Outlet.offer]
    cases o.waits b <;> rfl
  | cons s ss ih =>
    have hhead : firedBy xs b fired (s :: ss) 0 = (fired 0 || s.full (xs ++ b)) := by
      simp [firedBy, arriving, strain]
    by_cases h : s.admits xs b = []
    · have htail (i : Nat) : firedBy xs b fired (s :: ss) (i + 1) = fired (i + 1) := by
        simp only [firedBy, layersAt, arriving_dropped h, Option.isSome_none, Bool.false_and,
          Bool.or_false]
      simp only [layersAt, sendThrough_dropped h, hhead, htail, admitted, h, admitted_nil,
        Sieve.apply_append, List.append_nil, Outlet.waits_empty, Outlet.offer_empty,
        Bool.false_eq_true, if_false, Bool.not_false]
    · have htail (i : Nat) : firedBy xs b fired (s :: ss) (i + 1) =
          firedBy (s.apply xs) (s.admits xs b) (fun i => fired (i + 1)) ss i := by
        simp only [firedBy, layersAt, arriving_admitted h, List.getElem?_cons_succ,
          List.take_succ_cons, strain, List.foldl_cons, Sieve.apply_append]
      simp only [layersAt, sendThrough_admitted h, ih, admitted, Sieve.apply_append]
      by_cases hw : o.waits (admitted (s.apply xs) (s.admits xs b) ss) <;> simp [hw, hhead, htail]

/-- A collector makes nobody wait. -/
theorem sendThrough_layersAt (ss : List Sieve) (xs : List Match) (b : Batch) (fired : Nat → Bool)
    (held : List Batch) :
    sendThrough b (.collector held) (layersAt xs fired ss) =
      (layersAt (xs ++ b) (firedBy xs b fired ss) ss,
        .collector (if (admitted xs b ss).isEmpty then held else held ++ [admitted xs b ss]),
        true) :=
  sendThrough_offer ss xs b fired (.collector held)

@[simp] theorem rank_zero (ss : List Sieve) : rank ss 0 = 0 := rfl

@[simp] theorem rank_limit (count : Nat) (ss : List Sieve) (i : Nat) :
    rank (.limit count :: ss) (i + 1) = rank ss i + 1 := by
  rw [rank, List.take_succ_cons, List.countP_cons_of_pos rfl, rank]

@[simp] theorem rank_filter (allows : Checker) (ss : List Sieve) (i : Nat) :
    rank (.filter allows :: ss) (i + 1) = rank ss i := by
  rw [rank, List.take_succ_cons, List.countP_cons_of_neg Bool.false_ne_true, rank]

/-- The token of the `j`-th quota fires, wherever the quota stands among the layers. -/
theorem cancel_layersAt (j : Nat) (xs : List Match) (fired : Nat → Bool) (ss : List Sieve) :
    cancel.go j (layersAt xs fired ss) =
      layersAt xs (fun i => fired i || decide (rank ss i = j)) ss := by
  induction ss generalizing xs fired j with
  | nil => cases j <;> rfl
  | cons s ss ih =>
    cases s with
    | limit count => cases j <;> simp [layersAt, Sieve.layer, cancel.go, ih]
    | filter allows => cases j <;> simp [layersAt, Sieve.layer, cancel.go, ih]

theorem follow_append (us vs : List Use) (s : Stack) :
    s.follow (us ++ vs) = (s.follow us).follow vs :=
  List.foldl_append

theorem sent_append (us vs : List Use) : sent (us ++ vs) = sent us ++ sent vs :=
  List.filterMap_append

theorem reaches_append (i : Nat) (us vs : List Use) (s : Stack) :
    reaches i (us ++ vs) s = (reaches i us s || reaches i vs (s.follow us)) := by
  induction us generalizing s with
  | nil => rfl
  | cons u us ih =>
    simp only [List.cons_append, reaches, ih, Bool.or_assoc]
    rfl

theorem fruitful_concat (ss : List Sieve) (bs : List Batch) (b : Batch) :
    fruitful ss (bs ++ [b]) =
      fruitful ss bs + if (admitted bs.flatten b ss).isEmpty then 0 else 1 := by
  have hbefore : ∀ k ∈ List.range bs.length,
      (decide ((strain ss ((bs ++ [b]).take k).flatten).length <
          (strain ss ((bs ++ [b]).take (k + 1)).flatten).length) = true ↔
        decide ((strain ss (bs.take k).flatten).length <
          (strain ss (bs.take (k + 1)).flatten).length) = true) := by
    intro k hk
    have hk := List.mem_range.1 hk
    rw [List.take_append_of_le_length (Nat.le_of_lt hk), List.take_append_of_le_length hk]
  have hlast : (bs ++ [b]).take (bs.length + 1) = bs ++ [b] :=
    List.take_of_length_le (by simp)
  rw [fruitful, List.length_append, List.length_singleton, List.range_succ, List.countP_append,
    List.countP_congr hbefore, List.countP_singleton, hlast, List.take_left, List.flatten_concat,
    strain_append, fruitful]
  cases admitted bs.flatten b ss <;> simp

/-- What the uses of new layers on a collector have come to. -/
structure CameTo (ss : List Sieve) (us : List Use) (fired : Nat → Bool) (held : List Batch) :
    Prop where
  state : (ofSieves ss).follow us = ⟨layersAt (sent us).flatten fired ss, .collector held⟩
  collected : held.flatten = strain ss (sent us).flatten
  batches : held.length = fruitful ss (sent us)
  tokens : ∀ i count, ss[i]? = some (.limit count) → (fired i = true ↔
    .cancel (rank ss i) ∈ us ∨
    0 < count ∧ count ≤ (strain (ss.take i) (sent us).flatten).length ∨
    count = 0 ∧ reaches i us (ofSieves ss) = true)

variable {us : List Use} {fires : Nat → Bool} {bs : List Batch}

theorem cameTo_nil (ss : List Sieve) : CameTo ss [] (fun _ => false) [] where
  state := by
    rw [sent, List.filterMap_nil, List.flatten_nil, layersAt_nil]
    rfl
  collected := (strain_nil ss).symm
  batches := rfl
  tokens := by
    intro i count hi
    simp [sent, strain_nil, reaches]
    omega

theorem CameTo.send (h : CameTo ss us fires bs) (b : Batch) :
    CameTo ss (us ++ [.send b]) (firedBy (sent us).flatten b fires ss)
      (if (admitted (sent us).flatten b ss).isEmpty then bs
        else bs ++ [admitted (sent us).flatten b ss]) := by
  have hsent : sent (us ++ [.send b]) = sent us ++ [b] := sent_append us [.send b]
  constructor
  case state =>
    rw [follow_append, h.state, hsent, List.flatten_concat]
    simp only [follow, List.foldl_cons, List.foldl_nil, use, Stack.send, sendThrough_layersAt]
  case collected =>
    rw [hsent, List.flatten_concat, strain_append, ← h.collected]
    cases admitted (sent us).flatten b ss <;> simp
  case batches =>
    rw [hsent, fruitful_concat, ← h.batches]
    cases admitted (sent us).flatten b ss <;> simp
  case tokens =>
    intro i count hi
    have hlength : i ≤ ss.length := Nat.le_of_lt (List.getElem?_eq_some_iff.1 hi).1
    have harriving := getD_arriving hlength (sent us).flatten b fires
    rw [hsent, List.flatten_concat, reaches_append, h.state]
    have htokens := h.tokens i count hi
    simp only [firedBy, hi, strain_append, ← harriving, reaches, Use.batch?, Option.any_some,
      Bool.or_false]
    cases arriving b i (layersAt (sent us).flatten fires ss) with
    | none => simpa using htokens
    | some b' =>
      simp only [Option.isSome_some, Option.getD_some, Sieve.full, List.length_append, htokens,
        Bool.or_eq_true, Bool.true_and, decide_eq_true_eq, List.mem_append, List.mem_singleton]
      grind

/-- A use that sends nothing brings nothing to any layer. -/
theorem reaches_concat_quiet {u : Use} (hu : u.batch? = none) (i : Nat) (us : List Use) (s : Stack) :
    reaches i (us ++ [u]) s = reaches i us s := by
  simp [reaches_append, reaches, hu]

theorem sent_concat_quiet {u : Use} (hu : u.batch? = none) (us : List Use) :
    sent (us ++ [u]) = sent us := by
  simp [sent, hu]

theorem CameTo.cancel (h : CameTo ss us fires bs) (j : Nat) :
    CameTo ss (us ++ [.cancel j]) (fun i => fires i || decide (rank ss i = j)) bs := by
  have hsent : sent (us ++ [.cancel j]) = sent us := sent_concat_quiet rfl us
  constructor
  case state =>
    rw [follow_append, h.state, hsent]
    simp only [follow, List.foldl_cons, List.foldl_nil, use, Stack.cancel, cancel_layersAt]
  case collected => rw [hsent, h.collected]
  case batches => rw [hsent, h.batches]
  case tokens =>
    intro i count hi
    rw [Bool.or_eq_true, h.tokens i count hi, hsent, reaches_concat_quiet rfl, decide_eq_true_eq,
      or_right_comm]
    simp only [List.mem_append, List.mem_singleton, Use.cancel.injEq]

/-- A collector is never read from, and it stays open. -/
theorem CameTo.idle (h : CameTo ss us fires bs) {u : Use} (hu : u = .read ∨ u = .close) :
    CameTo ss (us ++ [u]) fires bs := by
  have hquiet : u.batch? = none := by rcases hu with rfl | rfl <;> rfl
  have hsent : sent (us ++ [u]) = sent us := sent_concat_quiet hquiet us
  constructor
  case state =>
    rw [follow_append, h.state, hsent]
    rcases hu with rfl | rfl <;> rfl
  case collected => rw [hsent, h.collected]
  case batches => rw [hsent, h.batches]
  case tokens =>
    intro i count hi
    rw [h.tokens i count hi, hsent, reaches_concat_quiet hquiet]
    rcases hu with rfl | rfl <;> simp

theorem CameTo.append (h : CameTo ss us fires bs) (vs : List Use) :
    ∃ fires bs, CameTo ss (us ++ vs) fires bs := by
  induction vs generalizing us fires bs with
  | nil => exact ⟨fires, bs, by rwa [List.append_nil]⟩
  | cons u vs ih =>
    rw [List.append_cons]
    cases u with
    | send b => exact ih (h.send b)
    | cancel j => exact ih (h.cancel j)
    | read => exact ih (h.idle (.inl rfl))
    | close => exact ih (h.idle (.inr rfl))

/-- A stack of quotas and checkers on a collector is a function on lists: each layer makes a list of
the list that the layers above it leave. -/
theorem collected_of_follow (ss : List Sieve) (us : List Use) :
    ∃ layers held, (ofSieves ss).follow us = ⟨layers, .collector held⟩ ∧
      held.flatten = strain ss (sent us).flatten ∧ held.length = fruitful ss (sent us) ∧
      ∀ i count, ss[i]? = some (.limit count) → ∃ q fired, layers[i]? = some (.limit q fired) ∧
        (q.reached = true ↔ count ≤ (strain (ss.take i) (sent us).flatten).length) ∧
        (q.truncated = true ↔ count < (strain (ss.take i) (sent us).flatten).length) ∧
        (fired = true ↔
          .cancel (rank ss i) ∈ us ∨
          0 < count ∧ count ≤ (strain (ss.take i) (sent us).flatten).length ∨
          count = 0 ∧ reaches i us (ofSieves ss) = true) := by
  obtain ⟨fires, held, h⟩ := (cameTo_nil ss).append us
  rw [List.nil_append] at h
  refine ⟨_, held, h.state, h.collected, h.batches, fun i count hi => ?_⟩
  refine ⟨⟨count, (strain (ss.take i) (sent us).flatten).length⟩, fires i, ?_, decide_eq_true_iff,
    decide_eq_true_iff, h.tokens i count hi⟩
  rw [getElem?_layersAt, hi]
  rfl

end Stack

/-! Two quotas with a checker between them. -/

namespace Sandwich

def sieves : List Sieve := [.limit 3, .filter (·.repo ≠ "a"), .limit 1]

def uses : List Stack.Use :=
  [.send [.ofRepo "a", .ofRepo "b"], .send [], .cancel 1, .send [.ofRepo "c", .ofRepo "d"]]

theorem one_collected : sieves[0]? = some (.limit 3) ∧ ∃ layers held,
    (Stack.ofSieves sieves).follow uses = ⟨layers, .collector held⟩ ∧
    held.flatten = [.ofRepo "b"] ∧ held.length = 1 ∧ ∃ q fired,
    layers[0]? = some (.limit q fired) ∧ q.reached = true ∧ q.truncated = true ∧ fired = true := by
  obtain ⟨layers, held, hstate, hheld, hbatches, hquotas⟩ :=
    Stack.collected_of_follow sieves uses
  obtain ⟨q, fired, hq, hreached, htruncated, hfired⟩ := hquotas 0 3 rfl
  have hfew : Stack.strain sieves (Stack.sent uses).flatten = [.ofRepo "b"] := by decide
  refine ⟨rfl, layers, held, hstate, hheld.trans hfew, hbatches.trans (by decide), q, fired, hq,
    hreached.2 (by decide), htruncated.2 (by decide), hfired.2 (.inr (.inl (by decide)))⟩

end Sandwich

end SearchPlan
