import AggregateNaming.Json
import AggregateNaming.Recognizer
import AggregateNaming.Diagnostic

/-!
# JSON forms

The values of this library that have a JSON form, each with a writer and a reader. A reader takes more
than the writer gives: a structure may also be the list of its values, members that are not asked for do
not count, and a choice may also be a member without a value.

- `Casing.toJson`, `Level.toJson`, `Outcome.toJson` : choices, by their names.
- `Diagnostic.toJson`, `TraceEntry.toJson`, `Trace.toJson` : structures, by their members.
-/

namespace AggregateNaming

/-! ## §1 What readers share -/

namespace Json

/-- Reads a text. -/
def text? : Json → Option String
  | .text s => some s
  | _ => none

/-- Reads a list. -/
def list? (read : Json → Option α) : Json → Option (List α)
  | .array items => items.mapM read
  | _ => none

/-- Reads one of several choices: its name alone, or a member of that name without a value. -/
def choice? (all : List α) (name : α → String) : Json → Option α
  | .text s => all.find? (name · == s)
  | .object [(s, .null)] => all.find? (name · == s)
  | _ => none

/-- The members of a structure with the given names. A list has all of their values in this order. In an
object none of the names may come twice. -/
def members? (names : List String) : Json → Option (List (String × Json))
  | .array items => if items.length == names.length then some (names.zip items) else none
  | .object members =>
    if names.all fun n => (members.filter (·.1 == n)).length ≤ 1 then some members else none
  | _ => none

/-- Reads a member that must be there. -/
def required (read : Json → Option α) (name : String) (members : List (String × Json)) : Option α :=
  (members.lookup name).bind read

/-- Reads a member that may be null or absent. -/
def optional (read : Json → Option α) (name : String) (members : List (String × Json)) :
    Option (Option α) :=
  match members.lookup name with
  | none | some .null => some none
  | some j => (read j).map some

end Json

/-! ## §2 Choices -/

/-- The JSON form of a case policy. -/
def Casing.toJson (c : Casing) : Json := .text c.token

/-- Reads a case policy as documents name it. -/
def Casing.ofJson? : Json → Option Casing
  | .text s => (parse? s).toOption
  | _ => none

/-- The JSON form of a severity. -/
def Level.toJson (l : Level) : Json := .text l.name

/-- Reads a severity. -/
def Level.ofJson? : Json → Option Level := Json.choice? all name

/-- The JSON form of an outcome. -/
def Outcome.toJson (o : Outcome) : Json := .text o.name

/-- Reads an outcome. -/
def Outcome.ofJson? : Json → Option Outcome := Json.choice? all name

/-! ## §3 Structures -/

/-- The JSON form of a diagnostic. -/
def Diagnostic.toJson (d : Diagnostic) : Json :=
  .object [("level", d.level.toJson), ("context", .text d.context), ("message", .text d.message)]

/-- Reads a diagnostic. -/
def Diagnostic.ofJson? (j : Json) : Option Diagnostic := do
  let members ← j.members? ["level", "context", "message"]
  return { level := ← Json.required Level.ofJson? "level" members,
           context := ← Json.required Json.text? "context" members,
           message := ← Json.required Json.text? "message" members }

/-- The JSON form of a pattern in a trace. -/
def TraceEntry.toJson (e : TraceEntry) : Json :=
  .object [("pattern_id", .text e.id), ("pattern", .text e.text), ("result", e.outcome.toJson)]

/-- Reads a pattern in a trace. -/
def TraceEntry.ofJson? (j : Json) : Option TraceEntry := do
  let members ← j.members? ["pattern_id", "pattern", "result"]
  return { id := ← Json.required Json.text? "pattern_id" members,
           text := ← Json.required Json.text? "pattern" members,
           outcome := ← Json.required Outcome.ofJson? "result" members }

/-- The JSON form of a trace. Where no pattern accepted the name, no id is written. -/
def Trace.toJson (t : Trace) : Json :=
  let matchedBy := match t.matchedBy with
    | some id => [("matched_pattern", Json.text id)]
    | none => []
  .object ([("candidate", .text t.name)] ++ matchedBy
    ++ [("trace", .array (t.entries.map (·.toJson)))])

/-- Reads a trace. -/
def Trace.ofJson? (j : Json) : Option Trace := do
  let members ← j.members? ["candidate", "matched_pattern", "trace"]
  return { name := ← Json.required Json.text? "candidate" members,
           matchedBy := ← Json.optional Json.text? "matched_pattern" members,
           entries := ← Json.required (Json.list? TraceEntry.ofJson?) "trace" members }

end AggregateNaming
