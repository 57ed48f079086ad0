/-! The causes for which a search, a plan or a setting is refused, and their wording. -/

namespace SearchPlan

/-- Why a search gave up. Being cancelled is not among the causes: a cancelled search just stops. -/
inductive JobError
  | backend : (name reason : String) → JobError
  | unavailable : (name : String) → JobError
  deriving DecidableEq

inductive PlanError
  | noChildren : (keyword : String) → PlanError
  | zeroLimit : PlanError
  deriving DecidableEq

inductive ConfigError
  | invalidValue : (key message : String) → ConfigError
  /-- A rule for a repository whose pattern is not one. -/
  | badPattern : (repo : String) → ConfigError
  deriving DecidableEq

inductive Error
  | job : JobError → Error
  | plan : PlanError → Error
  | config : ConfigError → Error
  deriving DecidableEq

def JobError.message : JobError → String
  | .backend name reason => s!"Job {name} backend error: {reason}"
  | .unavailable name => s!"Job {name} backend unavailable"

def PlanError.message : PlanError → String
  | .noChildren keyword => s!"{keyword} requires at least one child"
  | .zeroLimit => "LIMIT requires a positive count"

/-- What the refused value was for. -/
def ConfigError.key : ConfigError → String
  | .invalidValue key _ => key
  | .badPattern repo => s!"sub-repo rule for {repo}"

def ConfigError.reason : ConfigError → String
  | .invalidValue _ message => message
  | .badPattern _ => "not a regular expression"

def ConfigError.message (e : ConfigError) : String :=
  s!"Invalid configuration value for {e.key}: {e.reason}"

def Error.message : Error → String
  | .job e => "Job error: " ++ e.message
  | .plan e => "Plan error: " ++ e.message
  | .config e => "Configuration error: " ++ e.message

end SearchPlan
