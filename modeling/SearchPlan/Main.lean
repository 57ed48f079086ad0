import SearchPlan.Demo
import SearchPlan.Json.Codec
import SearchPlan.Json.Writer
import SearchPlan.Plan.Diagram
import SearchPlan.Settings

/-! The command: shows the demonstration plan, runs it behind a channel, and prints what it finds and
how it ends. -/

namespace SearchPlan

/-- What the command writes for a plan and its run: the explanation and the count to the one stream,
the matches and the summary to the other. -/
structure Transcript where
  explanation : String
  found : List String
  count : String
  summary : String

def Transcript.ofRun (p : Plan) (r : Run) : Transcript where
  explanation := s!"🔎 search-job v0.1.0\n   Plan: {p.text}\n\n{p.prettyText}\n\n{p.flowchart}"
  found := r.reader.seen.flatten.map fun m => m.toJson.compact
  count := s!"\n   {r.reader.seen.flatten.length} matches"
  summary := (r.execution?.map fun e => e.toJson.pretty 0).getD ""

end SearchPlan

open SearchPlan

def main : IO UInt32 := do
  let buffer ← IO.getEnv Settings.bufferKey
  let log ← IO.getEnv Settings.logKey
  let slow ← IO.getEnv Settings.slowKey
  let env (key : String) : Option String :=
    [(Settings.bufferKey, buffer), (Settings.logKey, log), (Settings.slowKey, slow)].lookup key |>.join
  let outcome : Except String Transcript := do
    let settings ← (Settings.ofEnv? env).mapError ConfigError.message
    let plan ← Demo.plan.mapError Error.message
    return .ofRun plan (plan.spawn {} { buffer := settings.resultBuffer })
  match outcome with
  | .error message =>
    IO.eprintln s!"Error: {message}"
    return 1
  | .ok t =>
    IO.eprintln t.explanation
    for found in t.found do
      IO.println found
    IO.eprintln t.count
    IO.println t.summary
    return 0
