import AggregateNaming.CommandLine.Arguments
import AggregateNaming.Json.Form
import AggregateNaming.RuleSet

/-!
# Reports

The answers to commands: what validation has to say, and how names were looked at; each as lines of text
and as JSON.

- `CheckReport` : what validation has to say.
- `MatchReport` : how names were looked at.
-/

namespace AggregateNaming.CommandLine

/-- Lines of text. -/
def unlines (ls : List String) : String := String.join (ls.map (· ++ "\n"))

/-! ## §1 Validation -/

/-- What validation has to say about a rule set. -/
structure CheckReport where
  tag : String
  valid : Bool
  errors : Nat
  warnings : Nat
  diagnostics : List Diagnostic
  deriving Repr, DecidableEq

namespace CheckReport

/-- What validation has to say about a rule set. -/
def ofRules (s : RuleSet) : CheckReport :=
  let ((valid, _), r) := s.validate.run {}
  { tag := s.tag, valid, errors := r.count .error, warnings := r.count .warn,
    diagnostics := r.diagnostics }

/-- A report by lines: every diagnostic, and how many errors and warnings there are. -/
def lines (r : CheckReport) : List String :=
  r.diagnostics.map (·.line) ++ [s!"{r.tag}: {r.errors} error(s), {r.warnings} warning(s)"]

/-- The JSON form of a report. -/
def toJson (r : CheckReport) : Json :=
  .object [("tag", .text r.tag), ("valid", .bool r.valid), ("errors", .ofNat r.errors),
    ("warnings", .ofNat r.warnings), ("diagnostics", .array (r.diagnostics.map (·.toJson)))]

/-- A report in a format. -/
def print (r : CheckReport) : Format → String
  | .text => unlines r.lines
  | .json => unlines [r.toJson.print]

end CheckReport

/-! ## §2 Names -/

/-- How names were looked at with a recognizer of a rule. -/
structure MatchReport where
  /-- The tag of the rule. -/
  tag : String
  recognizer : Recognizer
  traces : List Trace
  deriving Repr, DecidableEq

namespace MatchReport

/-- Looks at names with the recognizer that the rule under a tag has for a request. -/
def ofRules (s : RuleSet) (tag : Option String) (request : Request) (names : List String) :
    Except RuleError MatchReport := do
  let rule ← s.rule tag
  let recognizer ← rule.recognizer request
  return { tag := rule.tag, recognizer, traces := names.map recognizer.trace }

/-- What became of a name, on a line. -/
def traceLine (t : Trace) : String :=
  match t.matchedBy with
  | some id => s!"{t.name}: matched by '{id}'"
  | none => s!"{t.name}: no match"

/-- A report by lines: the rule, the patterns, and what became of every name. -/
def lines (r : MatchReport) : List String :=
  [s!"rule '{r.tag}':"]
    ++ (if r.recognizer.isNever then ["  (no patterns)"] else [])
    ++ r.recognizer.patterns.map (fun p => s!"  {p.id}: {p.pattern.text}")
    ++ r.traces.map traceLine

/-- The JSON form of a report: the list of traces. -/
def toJson (r : MatchReport) : Json := .array (r.traces.map (·.toJson))

/-- A report in a format. -/
def print (r : MatchReport) : Format → String
  | .text => unlines r.lines
  | .json => unlines [r.toJson.print]

end MatchReport

end AggregateNaming.CommandLine
