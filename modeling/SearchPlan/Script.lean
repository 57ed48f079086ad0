import SearchPlan.Error
import SearchPlan.Execution
import SearchPlan.Match

/-! A search that replays a fixed script: it waits, hands over batches, and ends as the script
says. -/

namespace SearchPlan

inductive Step
  | sleep : Duration → Step
  | emit : Batch → Step
  deriving DecidableEq

/-- What a script comes back with. -/
inductive Ending
  | finished : Status → Ending
  | failed : JobError → Ending
  deriving DecidableEq

structure Script where
  name : String
  steps : List Step := []
  failure : Option JobError := none
  status : Status := .success
  deriving DecidableEq

/-- What has been seen of a script over all its runs: how often it was started, how many matches
it has sent, and whether it was ever stopped before its end. -/
structure Probe where
  runs : Nat := 0
  emitted : Nat := 0
  stopped : Bool := false
  deriving DecidableEq

namespace Probe

def start (p : Probe) : Probe := { p with runs := p.runs + 1 }

def emit (p : Probe) (count : Nat) : Probe := { p with emitted := p.emitted + count }

def stop (p : Probe) : Probe := { p with stopped := true }

end Probe

namespace Script

/-- `count` batches, each with one file named after the script. -/
def pathSteps (name repo : String) (count : Nat) : List Step :=
  (List.range count).map fun i => .emit [.ofPath repo s!"{name}/{i}.rs"]

/-- How a script that was not stopped ends. An error wins over a status. -/
def ending (s : Script) : Ending :=
  match s.failure with
  | some e => .failed e
  | none => .finished s.status

/-- The batches of the script in order. -/
def batches (s : Script) : List Batch :=
  s.steps.filterMap fun
    | .emit b => some b
    | .sleep _ => none

end Script

/-- The outcome of a branch whose script `name` came back with this ending, where `fired` says
whether the branch's token had fired by then. If it had, only a full success still counts. -/
def Ending.outcome (name : String) (fired : Bool) : Ending → Outcome
  | .finished .success => .done ⟨.success, []⟩
  | .finished .partialSuccess => if fired then .cancelled [] else .done ⟨.partialSuccess, []⟩
  | .finished .failure =>
    if fired then .cancelled []
    else .done ⟨.failure, [.branchFailed name s!"{name} reported failure"]⟩
  | .failed e =>
    if fired then .cancelled [] else .done ⟨.failure, [.branchFailed name e.message]⟩

end SearchPlan
