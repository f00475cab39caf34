import AggregateNaming.Casing
import AggregateNaming.Diagnostic
import AggregateNaming.Kind
import AggregateNaming.Pattern.Basic

/-!
# Errors

Why a rule set cannot be used. Every error is a cause; its words are in one function beside it.

- `TemplateError` : a template cannot be read or filled.
- `DocumentError` : a rule document cannot be loaded.
- `RuleError` : the two above, and everything that goes wrong with rules themselves.
-/

namespace AggregateNaming

/-! ## §1 Templates -/

/-- Why a template cannot be read or filled. -/
inductive TemplateError where
  /-- A placeholder is opened and not closed. -/
  | unclosed (text : String)
  /-- A placeholder has no name. -/
  | emptyName (text : String)
  /-- The name of a placeholder has a character that names do not have. -/
  | badName (name text : String)
  /-- There is no value for a placeholder. -/
  | noValue (name template : String)
  deriving Repr, DecidableEq

/-- The words for a template that cannot be read or filled. -/
def TemplateError.message : TemplateError → String
  | unclosed text => s!"unclosed placeholder in '{text}': missing '\x7d'"
  | emptyName text => s!"empty placeholder '$\x7b\x7d' in '{text}'"
  | badName name text => s!"malformed placeholder '$\x7b{name}\x7d' in '{text}'"
  | noValue name template => s!"no value supplied for '$\x7b{name}\x7d' in template '{template}'"

/-! ## §2 Documents -/

/-- Why the text of a file cannot be had. -/
inductive ReadError where
  | notFound
  | isDirectory
  /-- The bytes are no text. -/
  | notText
  /-- The path has a character that no path can have. -/
  | badPath
  /-- The system has another reason, with a number of its own. -/
  | system (number : Nat) (reason : String)
  deriving Repr, DecidableEq

/-- The words for a file that cannot be read. -/
def ReadError.message : ReadError → String
  | notFound => "No such file or directory (os error 2)"
  | isDirectory => "Is a directory (os error 21)"
  | notText => "stream did not contain valid UTF-8"
  | badPath => "file name contained an unexpected NUL byte"
  | system number reason => s!"{reason} (os error {number})"

/-- Why a rule document cannot be loaded. -/
inductive DocumentError where
  /-- The text is no document; its file is named where one is known. -/
  | malformed (path : Option String)
  | unreadable (path : String) (reason : ReadError)
  | unknownCasing (cause : Casing.Unknown)
  /-- A pooled object has no id. -/
  | blankId (kind : Kind)
  /-- Two pooled objects of a kind have the same id. -/
  | duplicateId (kind : Kind) (id : String)
  deriving Repr, DecidableEq

/-- The words for two objects of a kind with the same id. -/
def duplicateIdMessage (kind : Kind) (id : String) : String :=
  s!"duplicate {kind.label} id: {id}"

/-- The words for a document that cannot be loaded. Why a text is no document is not given: a mark
stands in its place. -/
def DocumentError.message : DocumentError → String
  | malformed none => "YAML parse error: <yaml error>"
  | malformed (some path) => s!"YAML parse error in {path}: <yaml error>"
  | unreadable path reason => s!"cannot read {path}: {reason.message}"
  | unknownCasing cause => cause.message
  | blankId kind => s!"pooled {kind.label} has an empty id"
  | duplicateId kind id => duplicateIdMessage kind id

/-! ## §3 Rules -/

/-- Why a rule set cannot be used. -/
inductive RuleError where
  | document (cause : DocumentError)
  | pattern (cause : PatternError)
  /-- The pattern that takes the base name out of a name is refused. -/
  | basename (text : String) (cause : PatternError)
  /-- The pattern that takes the base name out of a name has to have one group. -/
  | basenameGroups (text : String) (found : Nat)
  | template (cause : TemplateError)
  | duplicateId (kind : Kind) (id : String)
  /-- A slot has not been bound to an object. -/
  | unresolved (rule : String) (kind : Kind)
  | unknownRule (tag : String)
  | noDefaultRule
  | ambiguousDefaultRule (found : Nat)
  /-- Validation found errors. -/
  | invalid (errors : List Diagnostic)
  deriving Repr, DecidableEq

/-- The words for a rule set that cannot be used. -/
def RuleError.message : RuleError → String
  | document cause => s!"parse error: {cause.message}"
  | pattern cause => s!"invalid regex: {cause.message}"
  | basename text cause => s!"invalid regex: basename '{text}': {cause.message}"
  | basenameGroups text found =>
    s!"invalid regex: basename '{text}' must have exactly one capturing group, found {found}"
  | template cause => s!"template error: {cause.message}"
  | duplicateId kind id => duplicateIdMessage kind id
  | unresolved rule kind =>
    s!"{kind.label} slot of rule '{rule}' is not resolved; validate the rule set first"
  | unknownRule tag => s!"unknown aggregate rule: {tag}"
  | noDefaultRule => "no aggregate rule is flagged default"
  | ambiguousDefaultRule found =>
    s!"{found} aggregate rules are flagged default; expected exactly one"
  | invalid errors => s!"rule set is invalid: {errors.length} error(s)"

end AggregateNaming
