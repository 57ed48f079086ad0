import SearchPlan.Execution
import SearchPlan.Json
import SearchPlan.Match

/-! The JSON forms of matches, events, statuses, alerts and executions. Writing has one form for
each value; reading also accepts a record as an array of its fields, fields that are not known, and
`null` for a field without a value. -/

namespace SearchPlan

namespace MatchKind

def all : List MatchKind := [.content, .symbol, .path, .repo, .commit]

def text : MatchKind → String
  | .content => "content"
  | .symbol => "symbol"
  | .path => "path"
  | .repo => "repo"
  | .commit => "commit"

def toJson (k : MatchKind) : Json := .string k.text

def ofJson? (j : Json) : Option MatchKind := do
  let s ← j.variant?
  all.find? (·.text = s)

end MatchKind

namespace Match

def lineOfJson? : Json → Option UInt32
  | .integer (.ofNat n) => if n < UInt32.size then some n.toUInt32 else none
  | _ => none

/-- Fields without a value are left out. -/
def toJson (m : Match) : Json :=
  let field (key : String) (v : Option Json) := v.toList.map fun v => (key, v)
  .object <|
    [("repo", .string m.repo)]
      ++ field "path" (m.path.map .string)
      ++ field "line" (m.line.map fun n => .ofNat n.toNat)
      ++ [("kind", m.kind.toJson)]
      ++ field "preview" (m.preview.map .string)

def ofJson? (j : Json) : Option Match :=
  match j.record? ["repo", "path", "line", "kind", "preview"] with
  | some [some repo, path, line, some kind, preview] => do
    let repo ← repo.string?
    let path ← Json.optional? Json.string? path
    let line ← Json.optional? lineOfJson? line
    let kind ← MatchKind.ofJson? kind
    let preview ← Json.optional? Json.string? preview
    return { repo, path, line, kind, preview }
  | _ => none

end Match

namespace Batch

/-- The event by which a batch is delivered. -/
def toJson (b : Batch) : Json := .object [("matches", .array (b.map Match.toJson))]

def ofJson? (j : Json) : Option Batch :=
  match j.record? ["matches"] with
  | some [some ms] => do (← ms.array?).mapM Match.ofJson?
  | _ => none

end Batch

namespace Status

def all : List Status := [.success, .partialSuccess, .failure]

def toJson (s : Status) : Json := .string s.text

def ofJson? (j : Json) : Option Status := do
  let t ← j.variant?
  all.find? (·.text = t)

end Status

namespace AlertKind

def all : List AlertKind := [.timeout, .limitHit, .branchFailed, .cancelled]

def toJson (k : AlertKind) : Json := .string k.text

def ofJson? (j : Json) : Option AlertKind := do
  let t ← j.variant?
  all.find? (·.text = t)

end AlertKind

namespace Alert

def toJson (a : Alert) : Json :=
  .object [("kind", a.kind.toJson), ("job", .string a.job), ("message", .string a.message)]

def ofJson? (j : Json) : Option Alert :=
  match j.record? ["kind", "job", "message"] with
  | some [some kind, some job, some message] => do
    return { kind := ← AlertKind.ofJson? kind, job := ← job.string?, message := ← message.string? }
  | _ => none

end Alert

namespace Execution

def toJson (e : Execution) : Json :=
  .object [("status", e.status.toJson), ("alerts", .array (e.alerts.map Alert.toJson))]

def ofJson? (j : Json) : Option Execution :=
  match j.record? ["status", "alerts"] with
  | some [some status, some alerts] => do
    return { status := ← Status.ofJson? status, alerts := ← (← alerts.array?).mapM Alert.ofJson? }
  | _ => none

end Execution

end SearchPlan
