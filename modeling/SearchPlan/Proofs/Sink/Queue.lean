import SearchPlan.Proofs.Backpressure
import SearchPlan.Proofs.Sink.Stack

/-! Quotas and checkers stacked on a channel whose senders never wait: a send for which there is no
room is given up, and what the quotas reserved for it stays used. -/

namespace SearchPlan

namespace Channel

variable {ch : Channel} {posted : List (Path × Batch)} {seen : List Batch}

/-- Sends a batch if that does not wait. -/
def offer (ch : Channel) (b : Batch) : Channel := if ch.waits b then ch else ch.send [] b false

theorem capacity_offer (ch : Channel) (b : Batch) : (ch.offer b).capacity = ch.capacity := by
  rw [offer, apply_ite capacity, capacity_send, ite_self]

theorem line_offer (ch : Channel) (b : Batch) : (ch.offer b).line = ch.line := by
  rw [offer, apply_ite line, line_sent, ite_self]

theorem closed_offer (ch : Channel) (b : Batch) : (ch.offer b).closed = ch.closed := by
  rw [offer, apply_ite closed, closed_send, ite_self]

theorem Stores.offer (h : ch.Stores posted seen) (hclosed : ch.closed = false) (b : Batch) :
    (ch.offer b).Stores
      (posted ++ (if ch.waits b then [] else [([], b)]).filter (!·.2.isEmpty)) seen := by
  have hsend := h.send hclosed [] b
  rw [Channel.offer]
  cases hw : ch.waits b with
  | true => simpa using h
  | false =>
    rw [hw] at hsend
    exact hsend

end Channel

theorem Outlet.offer_channel (ch : Channel) (b : Batch) :
    (channel ch).offer b = .channel (ch.offer b) :=
  (apply_ite channel _ _ _).symm

namespace Stack

/-- What the layers, as they stand, leave of a batch. -/
def left (b : Batch) (s : Stack) : Batch := (arriving b s.layers.length s.layers).getD []

/-- New layers on an empty channel. -/
def streaming (capacity : Nat) (ss : List Sieve) : Stack :=
  ⟨ss.map (Sieve.layer [] false), .channel (.ofCapacity capacity)⟩

/-- What comes of all the uses, one after the other. -/
def record {α : Type} (f : Use → Stack → List α) : List Use → Stack → List α
  | [], _ => []
  | u :: us, s => f u s ++ record f us (s.use u)

def Use.received : Use → Stack → List Batch
  | .read, s => s.read.2.toList
  | _, _ => []

/-- What is left behind the layers of the batch of a send that completes. -/
def Use.completed : Use → Stack → List Batch
  | .send b, s => if (s.send b).2 then [s.left b] else []
  | _, _ => []

/-- What the `i`-th layer passes on, be it that the send is given up below. -/
def Use.passed (i : Nat) : Use → Stack → List Match
  | .send b, s => (arriving b (i + 1) s.layers).getD []
  | _, _ => []

variable {ss : List Sieve} {xs : List Match} {b : Batch} {us : List Use} {fires : Nat → Bool}
  {capacity : Nat} {ch : Channel}

theorem record_concat {α : Type} (f : Use → Stack → List α) (us : List Use) (u : Use) (s : Stack) :
    record f (us ++ [u]) s = record f us s ++ f u (s.follow us) := by
  induction us generalizing s with
  | nil => exact List.append_nil _
  | cons u' us ih =>
    rw [List.cons_append, record, ih, ← List.append_assoc]
    rfl

theorem length_layersAt (xs : List Match) (fired : Nat → Bool) (ss : List Sieve) :
    (layersAt xs fired ss).length = ss.length := by
  induction ss generalizing xs fired with
  | nil => rfl
  | cons s ss ih => rw [layersAt, List.length_cons, List.length_cons, ih]

theorem left_layersAt (b : Batch) (xs : List Match) (fired : Nat → Bool) (ss : List Sieve)
    (o : Outlet) : left b ⟨layersAt xs fired ss, o⟩ = admitted xs b ss := by
  rw [left, length_layersAt, getD_arriving (Nat.le_refl _), List.take_length]

theorem strain_take_succ {i count : Nat} (hi : ss[i]? = some (.limit count)) (xs : List Match) :
    strain (ss.take (i + 1)) xs = (strain (ss.take i) xs).take count := by
  rw [List.take_add_one, hi, strain, List.foldl_append]
  rfl

/-- What the uses of new layers on a channel have come to. -/
structure Queued (capacity : Nat) (ss : List Sieve) (us : List Use) (fires : Nat → Bool)
    (ch : Channel) : Prop where
  state : (streaming capacity ss).follow us = ⟨layersAt (sent us).flatten fires ss, .channel ch⟩
  capacity_eq : ch.capacity = max capacity 1
  line : ch.line = []
  closed : ch.closed = true ↔ .close ∈ us
  stores : .close ∉ us → ch.Stores
    (((record Use.completed us (streaming capacity ss)).map (([] : Path), ·)).filter
      (!·.2.isEmpty)) (record Use.received us (streaming capacity ss))
  passed : ∀ i < ss.length,
    record (Use.passed i) us (streaming capacity ss) = strain (ss.take (i + 1)) (sent us).flatten

theorem queued_nil (capacity : Nat) (ss : List Sieve) :
    Queued capacity ss [] (fun _ => false) (.ofCapacity capacity) where
  state := by
    rw [sent, List.filterMap_nil, List.flatten_nil, layersAt_nil]
    rfl
  capacity_eq := rfl
  line := rfl
  closed := by simp [Channel.ofCapacity]
  stores := fun _ => Channel.stores_new _
  passed := fun i _ => (strain_nil _).symm

theorem Queued.waits_iff (h : Queued capacity ss us fires ch) (b : Batch) :
    ch.waits b = false ↔ b = [] ∨ .close ∈ us ∨ ch.buffer.length < max capacity 1 := by
  rw [← h.closed, ← h.capacity_eq]
  cases b <;> simp [Channel.waits, Channel.full, h.line, ← Bool.not_eq_true, or_iff_not_imp_left]

theorem Queued.send (h : Queued capacity ss us fires ch) (b : Batch) :
    Queued capacity ss (us ++ [.send b])
      (if ch.waits (admitted (sent us).flatten b ss) then fires
        else firedBy (sent us).flatten b fires ss)
      (ch.offer (admitted (sent us).flatten b ss)) := by
  have hsend := sendThrough_offer ss (sent us).flatten b fires (.channel ch)
  rw [Outlet.offer_channel] at hsend
  have hsent : (sent (us ++ [.send b])).flatten = (sent us).flatten ++ b := by
    rw [sent_append]
    exact List.flatten_concat
  have hmem : (.close : Use) ∈ us ++ [.send b] ↔ .close ∈ us := by simp
  constructor
  case state =>
    rw [follow_append, h.state, hsent]
    simp only [follow, List.foldl_cons, List.foldl_nil, use, Stack.send, hsend]
    rfl
  case capacity_eq => rw [Channel.capacity_offer, h.capacity_eq]
  case line => rw [Channel.line_offer, h.line]
  case closed => rw [Channel.closed_offer, hmem, h.closed]
  case stores =>
    intro hopen
    rw [hmem] at hopen
    have hreceived (s : Stack) : (Use.send b).received s = [] := rfl
    have hcompleted : (Use.send b).completed ⟨layersAt (sent us).flatten fires ss, .channel ch⟩ =
        if ch.waits (admitted (sent us).flatten b ss) then []
          else [admitted (sent us).flatten b ss] := by
      rw [Use.completed, Stack.send, hsend, left_layersAt, Outlet.waits]
      cases ch.waits (admitted (sent us).flatten b ss) <;> rfl
    rw [record_concat, record_concat, hreceived, List.append_nil, h.state, hcompleted,
      List.map_append, List.filter_append, apply_ite (List.map _)]
    exact (h.stores hopen).offer (Bool.eq_false_iff.2 (mt h.closed.1 hopen)) _
  case passed =>
    intro i hi
    rw [record_concat, h.state, h.passed i hi, Use.passed, getD_arriving hi, hsent, strain_append]

/-- A use that sends nothing leaves the quotas as they are, but for their tokens. -/
theorem Queued.quiet {u : Use} {fires' : Nat → Bool} {ch' : Channel}
    (h : Queued capacity ss us fires ch) (hu : u.batch? = none)
    (hstate : use ⟨layersAt (sent us).flatten fires ss, .channel ch⟩ u =
      ⟨layersAt (sent us).flatten fires' ss, .channel ch'⟩)
    (hcapacity : ch'.capacity = ch.capacity) (hline : ch'.line = ch.line)
    (hclosed : ch'.closed = true ↔ ch.closed = true ∨ u = .close)
    (hstores : ∀ posted seen, u ≠ .close → ch.Stores posted seen → ch'.Stores posted
      (seen ++ u.received ⟨layersAt (sent us).flatten fires ss, .channel ch⟩)) :
    Queued capacity ss (us ++ [u]) fires' ch' := by
  have hsent : sent (us ++ [u]) = sent us := sent_concat_quiet hu us
  have hmem : (.close : Use) ∈ us ++ [u] ↔ .close ∈ us ∨ u = .close := by simp [eq_comm]
  have hcompleted (s : Stack) : u.completed s = [] := by
    cases u with
    | send b => cases hu
    | _ => rfl
  have hpassed (i : Nat) (s : Stack) : u.passed i s = [] := by
    cases u with
    | send b => cases hu
    | _ => rfl
  constructor
  case state =>
    rw [follow_append, h.state, hsent]
    exact hstate
  case capacity_eq => rw [hcapacity, h.capacity_eq]
  case line => rw [hline, h.line]
  case closed => rw [hclosed, hmem, h.closed]
  case stores =>
    intro hopen
    rw [hmem, not_or] at hopen
    rw [record_concat, record_concat, hcompleted, List.append_nil, h.state]
    exact hstores _ _ hopen.2 (h.stores hopen.1)
  case passed =>
    intro i hi
    rw [record_concat, hpassed, List.append_nil, hsent, h.passed i hi]

theorem Queued.cancel (h : Queued capacity ss us fires ch) (j : Nat) :
    Queued capacity ss (us ++ [.cancel j]) (fun i => fires i || decide (rank ss i = j)) ch := by
  refine h.quiet rfl ?_ rfl rfl (by simp) ?_
  · rw [use, Stack.cancel, cancel_layersAt]
  · intro posted seen _ hstores
    exact (List.append_nil seen).symm ▸ hstores

theorem Queued.close (h : Queued capacity ss us fires ch) :
    Queued capacity ss (us ++ [.close]) fires ch.close := by
  refine h.quiet rfl rfl rfl rfl (by simp [Channel.close]) ?_
  exact fun _ _ hopen => absurd rfl hopen

theorem Queued.read (h : Queued capacity ss us fires ch) :
    ∃ ch', Queued capacity ss (us ++ [.read]) fires ch' := by
  cases hread : ch.read? with
  | none =>
    have hstate (ls : List Layer) :
        (⟨ls, .channel ch⟩ : Stack).read = (⟨ls, .channel ch⟩, none) := by
      simp only [Stack.read, hread]
    refine ⟨ch, h.quiet rfl ?_ rfl rfl (by simp) ?_⟩
    · rw [use, hstate]
    · intro posted seen _ hstores
      rwa [Use.received, hstate, Option.toList_none, List.append_nil]
  | some x =>
    obtain ⟨b, ch'⟩ := x
    have hstate (ls : List Layer) :
        (⟨ls, .channel ch⟩ : Stack).read = (⟨ls, .channel ch'⟩, some b) := by
      simp only [Stack.read, hread]
    have hch' := Channel.eq_of_read hread
    refine ⟨ch', h.quiet rfl ?_ (by rw [hch']) (by rw [hch']) (by simp [hch']) ?_⟩
    · rw [use, hstate]
    · intro posted seen _ hstores
      rw [Use.received, hstate]
      exact hstores.read hread

theorem Queued.append (h : Queued capacity ss us fires ch) (vs : List Use) :
    ∃ fires ch, Queued capacity ss (us ++ vs) fires ch := by
  induction vs generalizing us fires ch with
  | nil => exact ⟨fires, ch, by rwa [List.append_nil]⟩
  | cons u vs ih =>
    rw [List.append_cons]
    cases u with
    | send b => exact ih (h.send b)
    | cancel j => exact ih (h.cancel j)
    | read =>
      obtain ⟨ch', h'⟩ := h.read
      exact ih h'
    | close => exact ih h.close

/-- A stack of quotas and checkers on a channel is a queue of what its completed sends have left: in
order, and with no more than there is room for. A quota counts what it has passed on for good, the
sends that were given up behind it among the rest. -/
theorem queue_of_follow (capacity : Nat) (ss : List Sieve) (us : List Use) :
    ∃ layers ch, (streaming capacity ss).follow us = ⟨layers, .channel ch⟩ ∧
      (∀ b, (send ⟨layers, .channel ch⟩ b).2 = true ↔
        left b ⟨layers, .channel ch⟩ = [] ∨ .close ∈ us ∨ ch.buffer.length < max capacity 1) ∧
      (.close ∉ us →
        record Use.received us (streaming capacity ss) ++ ch.buffer =
          (record Use.completed us (streaming capacity ss)).filter (!·.isEmpty) ∧
        ch.buffer.length ≤ max capacity 1) ∧
      ∀ i count, ss[i]? = some (.limit count) →
        (record (Use.passed i) us (streaming capacity ss)).length ≤ count ∧
        ∃ q fired, layers[i]? = some (.limit q fired) ∧ q.limit = count ∧
          min count q.received = (record (Use.passed i) us (streaming capacity ss)).length := by
  obtain ⟨fires, ch, h⟩ := (queued_nil capacity ss).append us
  rw [List.nil_append] at h
  refine ⟨_, ch, h.state, fun b => ?_, fun hopen => ?_, fun i count hi => ?_⟩
  · rw [left_layersAt, ← h.waits_iff, Stack.send, sendThrough_offer, Bool.not_eq_true']
    rfl
  · have hstores := h.stores hopen
    have horder := hstores.append_eq
    rw [h.line, List.map_nil, List.append_nil, List.filter_map, List.map_map] at horder
    refine ⟨horder.trans (List.map_id _), ?_⟩
    rw [← h.capacity_eq]
    exact hstores.room
  · obtain ⟨hi', -⟩ := List.getElem?_eq_some_iff.1 hi
    rw [h.passed i hi', strain_take_succ hi, List.length_take]
    refine ⟨Nat.min_le_left _ _,
      ⟨count, (strain (ss.take i) (sent us).flatten).length⟩, fires i, ?_, rfl, rfl⟩
    rw [getElem?_layersAt, hi]
    rfl

end Stack

/-! A quota behind a checker, and a channel with room for one batch. The second send is given up. -/

namespace Hoard

def sieves : List Sieve := [.filter (·.repo ≠ "a"), .limit 3]

def uses : List Stack.Use :=
  [.send [.ofRepo "a", .ofRepo "b"], .send [.ofRepo "c", .ofRepo "d"], .read]

theorem quota_used_up : .close ∉ uses ∧ sieves[1]? = some (.limit 3) ∧ ∃ layers ch,
    (Stack.streaming 0 sieves).follow uses = ⟨layers, .channel ch⟩ ∧
    (Stack.send ⟨layers, .channel ch⟩ [.ofRepo "e"]).2 = true ∧ [[.ofRepo "b"]] ++ ch.buffer =
      [[.ofRepo "b"]] ∧ ∃ q fired, layers[1]? = some (.limit q fired) ∧ min 3 q.received = 3 := by
  have hopen : .close ∉ uses := by decide
  obtain ⟨layers, ch, hstate, hsend, horder, hquota⟩ := Stack.queue_of_follow 0 sieves uses
  obtain ⟨hreceived, -⟩ := horder hopen
  obtain ⟨-, q, fired, hq, -, hused⟩ := hquota 1 3 rfl
  have hseen : Stack.record Stack.Use.received uses (Stack.streaming 0 sieves) =
    [[.ofRepo "b"]] := by decide
  have hcompleted : (Stack.record Stack.Use.completed uses (Stack.streaming 0 sieves)).filter
    (!·.isEmpty) = [[.ofRepo "b"]] := by decide
  rw [hseen, hcompleted] at hreceived
  have hbuffer : ch.buffer.length < max 0 1 := by
    rw [List.append_right_eq_self.1 hreceived]
    decide
  refine ⟨hopen, rfl, layers, ch, hstate, (hsend _).2 (.inr (.inr hbuffer)), hreceived, q, fired,
    hq, hused.trans (by decide)⟩

end Hoard

end SearchPlan
