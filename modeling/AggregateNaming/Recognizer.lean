import AggregateNaming.NamePattern
import AggregateNaming.Text.Quoted

/-!
# Recognizers

An ordered list of patterns, each with an id. A name is recognized by the first pattern that accepts
it.

- `Recognizer.firstMatch?` : the id of the first pattern that accepts a name.
- `Recognizer.trace` : what became of each pattern on the way.
- `Recognizer.listing` : the patterns on one line.
-/

namespace AggregateNaming

/-! ## §1 Recognizers -/

/-- A pattern under an id. -/
structure NamedPattern where
  id : String
  pattern : NamePattern
  deriving Repr, DecidableEq

/-- Patterns in order of preference. -/
structure Recognizer where
  patterns : List NamedPattern
  deriving Repr, DecidableEq

namespace Recognizer

/-- The recognizer of no name at all. -/
def never : Recognizer := ⟨[]⟩

/-- A recognizer of one pattern. -/
def single (id : String) (pattern : NamePattern) : Recognizer := ⟨[⟨id, pattern⟩]⟩

/-- Whether there is no pattern. -/
def isNever (r : Recognizer) : Bool := r.patterns.isEmpty

/-- The id of the first pattern that accepts a name. -/
def firstMatch? (r : Recognizer) (name : String) : Option String :=
  (r.patterns.find? (·.pattern.accepts name)).map (·.id)

/-- Whether some pattern accepts a name. -/
def recognizes (r : Recognizer) (name : String) : Bool := (r.firstMatch? name).isSome

/-- The patterns on one line: pairs of id and text, both in quotes. -/
def listing (r : Recognizer) : String :=
  let entry (p : NamedPattern) := s!"({Text.quoted p.id}, {Text.quoted p.pattern.text})"
  "[" ++ ", ".intercalate (r.patterns.map entry) ++ "]"

end Recognizer

/-! ## §2 Traces -/

/-- What became of a pattern when a name was looked at. -/
inductive Outcome where
  | matched
  | notMatched
  /-- An earlier pattern had accepted the name. -/
  | skipped
  deriving Repr, DecidableEq

namespace Outcome

/-- All outcomes. -/
def all : List Outcome := [matched, notMatched, skipped]

/-- The name of an outcome. -/
def name : Outcome → String
  | matched => "matched"
  | notMatched => "not_matched"
  | skipped => "skipped"

end Outcome

/-- One pattern in a trace. -/
structure TraceEntry where
  /-- The id of the pattern. -/
  id : String
  /-- The text of the pattern. -/
  text : String
  outcome : Outcome
  deriving Repr, DecidableEq

/-- How a name was looked at. -/
structure Trace where
  name : String
  /-- The id of the pattern that accepted the name. -/
  matchedBy : Option String
  entries : List TraceEntry
  deriving Repr, DecidableEq

namespace Trace

/-- Whether some pattern accepted the name. -/
def isMatch (t : Trace) : Bool := t.matchedBy.isSome

end Trace

namespace Recognizer

/-- The entry of a pattern with its outcome. -/
def entry (p : NamedPattern) (outcome : Outcome) : TraceEntry := ⟨p.id, p.pattern.text, outcome⟩

/-- Looks at a name: pattern after pattern is tried until one accepts it, and the others are skipped.
`matchedBy` is the id of the pattern that has accepted the name so far. -/
def traceFrom (name : String) : (matchedBy : Option String) → List NamedPattern → Trace
  | matchedBy, [] => ⟨name, matchedBy, []⟩
  | some id, p :: ps =>
    let t := traceFrom name (some id) ps
    { t with entries := entry p .skipped :: t.entries }
  | none, p :: ps =>
    if p.pattern.accepts name then
      let t := traceFrom name (some p.id) ps
      { t with entries := entry p .matched :: t.entries }
    else
      let t := traceFrom name none ps
      { t with entries := entry p .notMatched :: t.entries }

/-- How a name is looked at. -/
def trace (r : Recognizer) (name : String) : Trace := traceFrom name none r.patterns

end Recognizer

end AggregateNaming
