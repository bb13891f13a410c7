import MapSheets.Failure
import MapSheets.Json.Reader
import MapSheets.Json.Writer
import MapSheets.Text.Case

/-
Events in the life of a job. A job is requested, started, goes through its
stages, and is completed or fails at one of them. An event has a form as a
JSON object; reading takes any letter case of the name, and keeps what stands
under the other fields as it is.
-/

namespace MapSheets

/-- An event of a job. Descriptions are texts in every event of this
library; one that was read keeps whatever value stood there. -/
inductive Event where
  | requested
  | started
  | processing (description : Json)
  | failed (description error : Json)
  | completed

namespace Event

/-- The name of an event. -/
def name : Event → String
  | requested => "requested"
  | started => "started"
  | processing _ => "processing"
  | failed _ _ => "failed"
  | completed => "completed"

/-- The fields of the JSON form. -/
def fields (e : Event) : List (String × Json) :=
  ("status", .str e.name) :: match e with
    | processing description => [("description", description)]
    | failed description error => [("description", description), ("error", error)]
    | _ => []

/-- The JSON form. -/
def toText (e : Event) : String := (Json.obj e.fields).write

/-- The event of an object. -/
def ofFields (fields : List (String × Json)) : Outcome Event :=
  let field (name : String) : Json := (fields.lookup name).getD (.str "")
  let name := Text.lower (field "status").plain
  if name = requested.name then .ok requested
  else if name = started.name then .ok started
  else if name = completed.name then .ok completed
  else if name = (processing .null).name then .ok (processing (field "description"))
  else if name = (failed .null .null).name then
    .ok (failed (field "description") (field "error"))
  else .error (.statusUnknown name)

/-- Reads the JSON form, in which values may be nested up to a depth. -/
def ofText (deepest : Nat) (text : String) : Outcome Event := do
  match ← Json.readOr deepest .statusUnreadable text with
  | .obj fields => ofFields fields
  | v => throw (.statusNotObject v.kindName)

/-- A stage that failed, with what is said of the cause; a cause without a
text is told by its name. -/
def ofFailure (stage : String) (f : Failure) : Event :=
  failed (.str stage) (.str (if f.message = "" then f.name else f.message))

/-- The line that tells an event of a job. -/
def line (job : String) : Event → String
  | processing description => "  [" ++ job ++ "] " ++ description.plain ++ "..."
  | failed description error =>
    "  [" ++ job ++ "] FAILED during " ++ description.plain ++ ": " ++ error.plain
  | e => "[" ++ job ++ "] " ++ e.name

end Event

/-- The events of jobs in the order in which they came. -/
structure EventLog where
  events : List (String × Event) := []

namespace EventLog

/-- Adds an event of a job. -/
def add (log : EventLog) (job : String) (e : Event) : EventLog := ⟨log.events ++ [(job, e)]⟩

/-- The events of a job, or of all jobs. -/
def ofJob (log : EventLog) (job : Option String) : List Event :=
  (log.events.filter fun (j, _) => job.all (· == j)).map (·.2)

/-- The latest event of a job, or of all jobs. -/
def last? (log : EventLog) (job : Option String) : Option Event := (log.ofJob job).getLast?

end EventLog

end MapSheets
