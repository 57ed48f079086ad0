import SearchPlan.Error
import SearchPlan.Match

/-! Which files of a repository the viewer may not see. The rules are kept by repository, so that a
match is compared only with the patterns of its own. -/

namespace SearchPlan

/-- Whether a path is meant by a pattern. -/
abbrev PathTest := String → Bool

/-- The patterns for each repository that has any. -/
structure DenyRules where
  byRepo : List (String × List PathTest) := []

namespace DenyRules

/-- Adds a test to those of a repository. -/
def insert (repo : String) (test : PathTest) :
    List (String × List PathTest) → List (String × List PathTest)
  | [] => [(repo, [test])]
  | (r, tests) :: rest =>
    if r = repo then (r, tests ++ [test]) :: rest else (r, tests) :: insert repo test rest

def deny (rules : DenyRules) (repo : String) (test : PathTest) : DenyRules :=
  ⟨insert repo test rules.byRepo⟩

/-- The rules that deny, in each repository of the list, what the pattern beside it matches. The
first pattern that does not compile is reported, by its repository. -/
def build (compile : String → Option PathTest) (rules : DenyRules) :
    List (String × String) → Except ConfigError DenyRules
  | [] => .ok rules
  | (repo, pattern) :: rest =>
    match compile pattern with
    | some test => build compile (rules.deny repo test) rest
    | none => .error (.badPattern repo)

def tests (rules : DenyRules) (repo : String) : List PathTest :=
  (rules.byRepo.lookup repo).getD []

/-- Whether any rule is about the repository. -/
def restricts (rules : DenyRules) (repo : String) : Bool := !(rules.tests repo).isEmpty

/-- What is not in a file is never hidden. -/
def allows (rules : DenyRules) : Checker := fun m =>
  match m.path with
  | none => true
  | some path => !(rules.tests m.repo).any (· path)

end DenyRules

end SearchPlan
