import SearchPlan.Run.Work

/-! One settled order of events. `Run.complete` follows it to the end of the run. -/

namespace SearchPlan.Run

/-- Whose turn it is. A turn lasts until its holder can do nothing more. -/
inductive Turn
  | caller
  | tree
  deriving DecidableEq

/-- The next event and whose turn it then is. After a tick it is the caller's turn, who reads and
cancels. A caller who waits for a collector is busy with the tree itself, and cancels only when the
tree can do nothing. The clock goes on when nobody can. -/
def next? (r : Run) (turn : Turn) : Option (Event × Turn) :=
  if r.finished then none
  else
    let read := if r.read?.isSome then some (Event.read, Turn.caller) else none
    let move := r.nextMove?.map fun (p, m) => (Event.move p m, Turn.tree)
    let cancel := if r.cancel?.isSome then some (Event.cancel, Turn.caller) else none
    let tick := if r.tick?.isSome then some (Event.tick, Turn.caller) else none
    match turn, r.outlet with
    | .caller, .channel _ => read <|> cancel <|> move <|> tick
    | .tree, .channel _ => move <|> read <|> cancel <|> tick
    | _, .collector _ => move <|> cancel <|> tick

/-- At most `n` events. -/
def advance : Nat → Turn → Run → Run
  | 0, _, r => r
  | n + 1, turn, r =>
    match r.next? turn with
    | none => r
    | some (e, turn) =>
      match r.step e with
      | none => r
      | some r => advance n turn r

/-- The settled order is one of the orders in which the events can happen. -/
theorem exists_follow_eq_advance (n : Nat) (turn : Turn) (r : Run) :
    ∃ es, r.follow es = some (advance n turn r) := by
  induction n generalizing turn r with
  | zero => exact ⟨[], rfl⟩
  | succ n ih =>
    simp only [advance]
    cases r.next? turn with
    | none => exact ⟨[], rfl⟩
    | some p =>
      obtain ⟨e, turn⟩ := p
      cases h : r.step e with
      | none => exact ⟨[], by simp [follow, h]⟩
      | some r' =>
        obtain ⟨es, hes⟩ := ih turn r'
        exact ⟨e :: es, by simp [follow, h, hes]⟩

/-- The run at its end. -/
def complete (r : Run) : Run := advance r.work .caller r

end SearchPlan.Run
