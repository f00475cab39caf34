import AggregateNaming.Error
import AggregateNaming.Pattern.Reader
import AggregateNaming.Pattern.Capture
import AggregateNaming.Pattern.Escape

/-!
# Name patterns

Patterns that are meant for a whole name. What an author writes is put between a mark for the start
and a mark for the end of the text, so that alternatives of the author stay between the two.

- `NamePattern.compile` : the pattern for a whole name.
- `Casing.literal` : a name, written so that as a pattern it stands for itself.
- `Basename` : a pattern that takes the base name out of a name by its one group.
- `derive?` : the part of a name that other names are built from.
-/

namespace AggregateNaming

/-! ## §1 Patterns for whole names -/

/-- A pattern for a whole name. -/
structure NamePattern where
  /-- The pattern as it was read, with the marks for start and end. -/
  text : String
  pattern : Pattern
  deriving Repr, DecidableEq

namespace NamePattern

/-- The text of an author between the marks for the start and the end of a name. -/
def wrap (body : List Char) : List Char :=
  ['^', '(', '?', ':'] ++ body ++ [')', '$']

/-- The pattern for a whole name, under a casing policy. -/
def compile (casing : Casing) (body : String) : Except PatternError NamePattern := do
  let text := wrap body.toList
  return ⟨.ofList text, ← Pattern.read { caseInsensitive := casing.isInsensitive } text⟩

/-- Whether a name is one that the pattern is meant for. -/
def accepts (p : NamePattern) (name : String) : Bool := p.pattern.accepts name.toList

end NamePattern

/-- A name as a casing policy wants it written, as a pattern that stands for just that. -/
def Casing.literal (casing : Casing) (name : String) : String :=
  .ofList (Pattern.escapeChars (casing.foldChars name.toList))

/-! ## §2 Base names -/

/-- A pattern for a whole name whose one group holds the base name. -/
structure Basename where
  pattern : NamePattern
  one_group : pattern.pattern.groupCount = 1

namespace Basename

/-- Reads a pattern for base names. Case never counts, and there must be one group. -/
def compile (body : String) : Except RuleError Basename :=
  match NamePattern.compile .ignore body with
  | .error cause => .error (.basename body cause)
  | .ok p =>
    if h : p.pattern.groupCount = 1 then .ok ⟨p, h⟩
    else .error (.basenameGroups body p.pattern.groupCount)

/-- The base name in a name: what the group holds, if the pattern matches and the group takes
part. -/
def extract? (b : Basename) (name : String) : Option String := do
  let text := name.toList
  let span ← (← b.pattern.pattern.find text).captured? 1
  return .ofList ((text.take span.stop).drop span.start)

end Basename

/-- The part of a name that other names are built from: the base name, or the name itself where no
pattern for base names is given. -/
def derive? (name : String) : Option Basename → Option String
  | none => some name
  | some b => b.extract? name

end AggregateNaming
