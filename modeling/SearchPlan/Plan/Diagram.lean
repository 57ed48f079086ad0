import SearchPlan.Plan.Sexp

/-! Plans as flow diagrams. The boxes are numbered in the order in which they are written, so that a
box has a smaller number than all below it, and every box but the first comes right after the edge
that leads to it. -/

namespace SearchPlan

inductive Shape
  | rounded
  | rect
  deriving DecidableEq

structure Box where
  shape : Shape
  label : String
  /-- How far the box and the edge to it are indented. -/
  level : Nat
  deriving DecidableEq

inductive Diagram
  | node : Box → List Diagram → Diagram

namespace Diagram

def box : Diagram → Box
  | .node b _ => b

mutual

/-- The number of boxes. -/
def size : Diagram → Nat
  | .node _ ds => 1 + sizes ds

def sizes : List Diagram → Nat
  | [] => 0
  | d :: ds => d.size + sizes ds

end

/-- The identifiers of the first `count` boxes, in the order in which they are written. -/
def identifiers (count : Nat) : List Nat := List.range count

inductive Line
  | box : (id : Nat) → Box → Line
  | edge : (level source target : Nat) → Line
  deriving DecidableEq

mutual

/-- The lines of a diagram whose outermost box has the number `id`. -/
def lines (id : Nat) : Diagram → List Line
  | .node b ds => .box id b :: linesBelow id (id + 1) ds

/-- The lines of the diagrams below the box `parent`, numbered from `next` on. -/
def linesBelow (parent next : Nat) : List Diagram → List Line
  | [] => []
  | d :: ds =>
    .edge d.box.level parent next :: (d.lines next ++ linesBelow parent (next + d.size) ds)

end

def number (n : Nat) : List Char := Nat.toDigits 10 n

def Line.chars : Line → List Char
  | .box id ⟨.rounded, label, level⟩ =>
    List.replicate (2 * level) ' ' ++ (number id ++ ('(' :: '[' :: (label.toList ++ [']', ')', '\n'])))
  | .box id ⟨.rect, label, level⟩ =>
    List.replicate (2 * level) ' ' ++ (number id ++ ('[' :: (label.toList ++ [']', '\n'])))
  | .edge level source target =>
    List.replicate (2 * level) ' ' ++ (number source ++ ('-' :: '-' :: '-' :: (number target ++ ['\n'])))

def text (d : Diagram) : String :=
  String.ofList ("flowchart TB\n".toList ++ (d.lines 0).flatMap Line.chars)

end Diagram

namespace Plan

mutual

/-- A job is a rounded box. A parameter has a box of its own, and so have the labels of the two
branches of a preference, which do not count as a level. -/
def diagram (level : Nat) : Plan → Diagram
  | .leaf s => .node ⟨.rounded, s.name, level⟩ []
  | .noop => .node ⟨.rounded, noop.name, level⟩ []
  | .group mode first rest =>
    .node ⟨.rounded, mode.keyword, level⟩ (first.diagram (level + 1) :: diagrams (level + 1) rest)
  | .priority required optional =>
    .node ⟨.rounded, "PRIORITY", level⟩
      [.node ⟨.rounded, "REQUIRED", level + 1⟩ [required.diagram (level + 1)],
        .node ⟨.rounded, "OPTIONAL", level + 1⟩ [optional.diagram (level + 1)]]
  | .timeout d p =>
    .node ⟨.rounded, "TIMEOUT", level⟩ [.node ⟨.rect, d.text, level + 1⟩ [], p.diagram (level + 1)]
  | .limit count _ p =>
    .node ⟨.rounded, "LIMIT", level⟩
      [.node ⟨.rect, toString count, level + 1⟩ [], p.diagram (level + 1)]
  | .filter _ p =>
    .node ⟨.rounded, "FILTER", level⟩ [.node ⟨.rect, checkLabel, level + 1⟩ [], p.diagram (level + 1)]

def diagrams (level : Nat) : List Plan → List Diagram
  | [] => []
  | p :: ps => p.diagram level :: diagrams level ps

end

/-- The rendering as a flow chart. -/
def flowchart (p : Plan) : String := (p.diagram 0).text

end Plan

end SearchPlan
