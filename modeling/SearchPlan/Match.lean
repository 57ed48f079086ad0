/-! What a search finds. A batch is what a search hands over at once. -/

namespace SearchPlan

inductive MatchKind
  | content
  | symbol
  | path
  | repo
  | commit
  deriving DecidableEq

/-- A repository and, where the kind of match has them, a file, a line in it and its text. -/
structure Match where
  repo : String
  path : Option String := none
  line : Option UInt32 := none
  kind : MatchKind
  preview : Option String := none
  deriving DecidableEq

abbrev Batch := List Match

/-- Whether the viewer may see a match. -/
abbrev Checker := Match → Bool

def Checker.allowAll : Checker := fun _ => true

namespace Match

def ofRepo (repo : String) : Match :=
  { repo, kind := .repo }

def ofPath (repo path : String) : Match :=
  { repo, path := some path, kind := .path }

def ofContent (repo path : String) (line : UInt32) (preview : String) : Match :=
  { repo, path := some path, line := some line, kind := .content, preview := some preview }

def ofSymbol (repo path : String) (line : UInt32) (preview : String) : Match :=
  { repo, path := some path, line := some line, kind := .symbol, preview := some preview }

end Match

end SearchPlan
