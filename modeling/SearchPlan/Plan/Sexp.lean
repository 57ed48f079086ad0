import SearchPlan.Plan

/-! Plans as s-expressions. Terminals are their names, and a job is a group of its keyword, its
parameter if it has one, and its branches. The two branches of a preference are labelled. -/

namespace SearchPlan

inductive Sexp
  | atom : String → Sexp
  | group : (keyword : String) → List Sexp → Sexp

namespace Sexp

/-- A separator, and one indentation for each group that is open. -/
def separator (sep indent : List Char) (depth : Nat) : List Char :=
  sep ++ (List.replicate depth indent).flatten

mutual

/-- Every term of a group but its keyword comes after a separator. -/
def chars (sep indent : List Char) (depth : Nat) : Sexp → List Char
  | .atom s => s.toList
  | .group keyword terms =>
    '(' :: (keyword.toList ++ (charsAll sep indent (depth + 1) terms ++ [')']))

def charsAll (sep indent : List Char) (depth : Nat) : List Sexp → List Char
  | [] => []
  | e :: es => separator sep indent depth ++ (e.chars sep indent depth ++ charsAll sep indent depth es)

end

def format (sep indent : String) (e : Sexp) : String :=
  String.ofList (e.chars sep.toList indent.toList 0)

end Sexp

namespace Plan

/-- The label of the check in a filter. What it lets through is not shown. -/
def checkLabel : String := "SubRepoPermissions"

mutual

def sexp : Plan → Sexp
  | .leaf s => .atom s.name
  | .noop => .atom noop.name
  | .group mode first rest => .group mode.keyword (first.sexp :: sexps rest)
  | .priority required optional =>
    .group "PRIORITY" [.group "REQUIRED" [required.sexp], .group "OPTIONAL" [optional.sexp]]
  | .timeout d p => .group "TIMEOUT" [.atom d.text, p.sexp]
  | .limit count _ p => .group "LIMIT" [.atom (toString count), p.sexp]
  | .filter _ p => .group "FILTER" [.atom checkLabel, p.sexp]

def sexps : List Plan → List Sexp
  | [] => []
  | p :: ps => p.sexp :: sexps ps

end

/-- The rendering with `sep` between terms and `indent` after it for each level. -/
def format (sep indent : String) (p : Plan) : String := p.sexp.format sep indent

/-- On one line: `(AND a b)`. -/
def text (p : Plan) : String := p.format " " ""

/-- A line for each term, two spaces for each level. -/
def prettyText (p : Plan) : String := p.format "\n" "  "

end Plan

end SearchPlan
