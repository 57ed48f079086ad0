import SearchPlan.Proofs.Node.Wrapped
import SearchPlan.Proofs.Reruns

/-! A group of one branch put in place of the branch. No run of a plan can tell the difference,
except by the name under which alerts speak of what stands there. -/

namespace SearchPlan

namespace Plan

variable {p b new : Plan} {i : Nat} {q : Path} {mode : Mode}

/-- The plan with a change to its branch at a position. -/
def mapChild (f : Plan → Plan) : Nat → Plan → Plan
  | 0, .group mode first rest => .group mode (f first) rest
  | i + 1, .group mode first rest => .group mode first (rest.modify i f)
  | 0, .priority required optional => .priority (f required) optional
  | 1, .priority required optional => .priority required (f optional)
  | 0, .timeout d p => .timeout d (f p)
  | 0, .limit count h p => .limit count h (f p)
  | 0, .filter allows p => .filter allows (f p)
  | _, p => p

/-- The second plan with the first one in place of what stands at the path. -/
def putAt (new : Plan) : Path → Plan → Plan
  | [], _ => new
  | i :: q, p => p.mapChild (putAt new q) i

end Plan

namespace Channel

variable {ch : Channel} {f : Path → Path} {p : Path}

/-- The channel if its senders are elsewhere. -/
def relabel (f : Path → Path) (ch : Channel) : Channel :=
  { ch with line := ch.line.map fun (p, b) => (f p, b) }

theorem waits_relabel (f : Path → Path) (ch : Channel) (b : Batch) :
    (ch.relabel f).waits b = ch.waits b := by
  simp only [waits, relabel, full, List.isEmpty_map]
  rfl

theorem granted_relabel (hf : f.Injective) (ch : Channel) (p : Path) :
    (ch.relabel f).granted (f p) = ch.granted p := by
  simp only [granted, relabel, full, List.any_map, List.head?_map, Option.any_map,
    Function.comp_def, hf.eq_iff]
  rfl

theorem send_relabel (f : Path → Path) (ch : Channel) (p : Path) (b : Batch) (waits : Bool) :
    (ch.relabel f).send (f p) b waits = (ch.send p b waits).relabel f := by
  cases waits with
  | true => simp [send, relabel]
  | false =>
    simp only [send, Bool.false_eq_true, if_false, apply_ite (relabel f)]
    rfl

theorem resume_relabel (hf : f.Injective) (ch : Channel) (p : Path) :
    (ch.relabel f).resume (f p) = (ch.resume p).relabel f := by
  obtain ⟨capacity, buffer, line, closed⟩ := ch
  cases closed with
  | true => simp [resume, relabel, List.filter_map, Function.comp_def, hf.eq_iff]
  | false => cases line <;> rfl

theorem read?_relabel (f : Path → Path) (ch : Channel) :
    (ch.relabel f).read? = ch.read?.map fun (b, ch) => (b, ch.relabel f) := by
  obtain ⟨capacity, buffer, line, closed⟩ := ch
  cases buffer <;> rfl

end Channel

namespace Outlet

variable {f : Path → Path}

def relabel (f : Path → Path) : Outlet → Outlet
  | .collector held => .collector held
  | .channel ch => .channel (ch.relabel f)

theorem waits_relabel (f : Path → Path) (o : Outlet) : (o.relabel f).waits = o.waits := by
  cases o with
  | collector held => rfl
  | channel ch => exact funext (ch.waits_relabel f)

theorem granted_relabel (hf : f.Injective) (o : Outlet) (p : Path) :
    (o.relabel f).granted (f p) = o.granted p := by
  cases o with
  | collector held => rfl
  | channel ch => exact ch.granted_relabel hf p

theorem accept_relabel (hf : f.Injective) (o : Outlet) (p : Path) (fl : Flow) :
    (o.relabel f).accept (f p) fl = (o.accept p fl).relabel f := by
  cases o with
  | collector held => cases fl <;> rfl
  | channel ch =>
    cases fl with
    | quiet => rfl
    | handed b waits => exact congrArg channel (ch.send_relabel f p b waits)
    | resumed => exact congrArg channel (ch.resume_relabel hf p)

end Outlet

namespace Node

variable {p b : Plan} {q : Path} {i : Nat} {mode mode' : Mode} {is : String}

end Node

def Event.deepen (q : Path) : Event → Event
  | .move p m => .move (Path.deepen q p) m
  | .cancel => .cancel
  | .read => .read
  | .tick => .tick

namespace Run

variable {p b : Plan} {q : Path} {mode : Mode} {is : String} {n : Node} {r k : Run} {e : Event}
  {es : List Event}

/-- The run with another tree, in which a group stands over the node at `q`. -/
def wrapped (q : Path) (n : Node) (r : Run) : Run :=
  { r with tree := n, outlet := r.outlet.relabel (Path.deepen q) }

/-- The first run is the second one with a group over the node at `q` of its tree. -/
def Wraps (mode : Mode) (is : String) (q : Path) (k r : Run) : Prop :=
  ∃ n : Node, n.Wraps mode is q r.tree ∧ k = r.wrapped q n

theorem context_wrapped (q : Path) (n : Node) (r : Run) :
    (r.wrapped q n).context.deepen q = r.context := by
  have hgranted : (fun p => (r.outlet.relabel (Path.deepen q)).granted (Path.deepen q p)) =
      r.outlet.granted :=
    funext (r.outlet.granted_relabel (Path.deepen_injective q))
  have hwaits := r.outlet.waits_relabel (Path.deepen q)
  simp only [context, wrapped, hwaits]
  cases r.quota with
  | none => simp only [Context.deepen, hgranted]
  | some quota => simp only [Context.deepen, Context.through, hgranted]

theorem isSome_outcome?_wrapped (h : n.Wraps mode is q r.tree) :
    (r.wrapped q n).outcome?.isSome = r.outcome?.isSome :=
  h.outcome.isSome_eq

theorem finished_wrapped (h : n.Wraps mode is q r.tree) : (r.wrapped q n).finished = r.finished :=
  congrArg (· && r.reader.gone) (isSome_outcome?_wrapped h)

theorem move?_wrapped (h : n.Wraps mode is q r.tree) (p : Path) (m : Move) :
    Option.Rel (Wraps mode is q) ((r.wrapped q n).move? (Path.deepen q p) m) (r.move? p m) := by
  have hstep := h.step m p (r.wrapped q n).context
  rw [context_wrapped] at hstep
  refine hstep.map fun x y hxy => ⟨x.1, hxy.1, ?_⟩
  obtain ⟨x, f⟩ := x
  obtain ⟨y, f'⟩ := y
  obtain ⟨-, rfl : f = f'⟩ := hxy
  have haccept := r.outlet.accept_relabel (Path.deepen_injective q) p (r.pass f).2.1
  exact congrArg (fun outlet => { r with
    tree := x, quota := (r.pass f).1, outlet, fired := r.fired || (r.pass f).2.2 }) haccept

theorem cancel?_wrapped (q : Path) (n : Node) (r : Run) :
    (r.wrapped q n).cancel? = r.cancel?.map (wrapped q n) := by
  simp only [cancel?, apply_ite (Option.map (wrapped q n))]
  rfl

theorem read?_wrapped (h : n.Wraps mode is q r.tree) :
    (r.wrapped q n).read? = r.read?.map (wrapped q n) := by
  simp only [read?, isSome_outcome?_wrapped h, apply_ite (Option.map (wrapped q n))]
  refine if_congr .rfl rfl ?_
  have hout : (r.wrapped q n).outlet = r.outlet.relabel (Path.deepen q) := rfl
  rw [hout]
  cases r.outlet with
  | collector held => rfl
  | channel ch =>
    simp only [Outlet.relabel, Channel.read?_relabel]
    cases ch.read? with
    | none => cases r.outcome?.isSome <;> rfl
    | some x =>
      simp only [Option.map_some, wrapped, Outlet.relabel, apply_ite (Channel.relabel _)]
      rfl

theorem tick?_wrapped (h : n.Wraps mode is q r.tree) :
    (r.wrapped q n).tick? = r.tick?.map (wrapped q n) := by
  have hmove : (r.wrapped q n).nextMove?.isSome = r.nextMove?.isSome := by
    have hnext := h.next? (r.wrapped q n).context
    rw [context_wrapped] at hnext
    exact (congrArg Option.isSome hnext).trans (Option.isSome_map ..)
  have halarms : (r.wrapped q n).alarms = r.alarms := by
    rw [alarms, alarms, wrapped, h.alarms]
  simp only [tick?, hmove, halarms, cancel?_wrapped, read?_wrapped h, Option.isSome_map,
    apply_ite (Option.map (wrapped q n)), Option.map_map]
  rfl

theorem tree_of_step (h : r.step e = some k) (he : ∀ p m, e ≠ .move p m) : k.tree = r.tree := by
  cases (happens_of_step h).2 with
  | @move m p => exact absurd rfl (he p m)
  | _ => rfl

theorem step_wrapped_of_quiet (h : n.Wraps mode is q r.tree) (he : ∀ p m, e ≠ .move p m) :
    (r.wrapped q n).step (e.deepen q) = (r.step e).map (wrapped q n) := by
  simp only [step, finished_wrapped h]
  split
  · rfl
  · cases e with
    | move p m => exact absurd rfl (he p m)
    | cancel => exact cancel?_wrapped q n r
    | read => exact read?_wrapped h
    | tick => exact tick?_wrapped h

/-- Whatever happens in one of the runs happens in the other, in its place there. -/
theorem Wraps.step (h : k.Wraps mode is q r) (e : Event) :
    Option.Rel (Wraps mode is q) (k.step (e.deepen q)) (r.step e) := by
  obtain ⟨n, h, rfl⟩ := h
  by_cases he : ∃ p m, e = .move p m
  · obtain ⟨p, m, rfl⟩ := he
    simp only [Run.step, finished_wrapped h]
    split
    · exact .none
    · exact move?_wrapped h p m
  · simp only [not_exists] at he
    rw [step_wrapped_of_quiet h he]
    cases hk : r.step e with
    | none => exact .none
    | some k => exact .some ⟨n, by rwa [tree_of_step hk he], rfl⟩

theorem Wraps.follow (h : k.Wraps mode is q r) (es : List Event) :
    Option.Rel (Wraps mode is q) (k.follow (es.map (Event.deepen q))) (r.follow es) := by
  induction es generalizing k r with
  | nil => exact .some h
  | cons e es ih => exact (h.step e).bind fun k' r' h' => ih h'

end Run

/-! A search under a deadline, and one under a cap behind a channel, in groups of their own. -/

namespace Lone

def slow : Script := { name := "slow", steps := [.sleep (.ofMillis 10)] }

def late : Plan := .timeout (.ofMillis 5) (.group .and (.leaf slow) [])

def events : List Event :=
  [.move [0] .act, .move [0] .act, .tick, .move [] .expire, .move [0] .halt]

def alerts (p : Plan) (es : List Event) : Option (List Alert) :=
  ((Run.launch {} none (.ofPlan p)).follow es).bind fun r => r.execution?.map (·.alerts)

def wide : Script :=
  { name := "wide", steps := [.emit [.ofRepo "a"], .emit [.ofRepo "b"], .emit [.ofRepo "c"]] }

def capped : Plan := .limit 2 Nat.two_pos (.group .parallel (.leaf wide) [])

def sub : Subscription := { buffer := 1, pause := .ofMillis 2 }

def alone : Plan := (Plan.leaf wide).putAt [0] capped

end Lone

end SearchPlan
