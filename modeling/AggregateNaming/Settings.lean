import AggregateNaming.Toml.Statement

/-!
# Settings

Which rule document to use, and which of its rules. Settings come from a file; those of the command line
go before them.

- `Settings.ofText?` : the settings of a file.
- `Settings.override` : settings that go before others.
-/

namespace AggregateNaming

open Toml (Value Path Statement)

/-- Which rule document to use, and which of its rules. -/
structure Settings where
  /-- The file of the document; there is a built-in one. -/
  path : Option String := none
  /-- The tag of the rule. -/
  tag : Option String := none
  deriving Repr, DecidableEq

namespace Settings

/-- Settings with one more entry. Every name comes at most once. -/
def addEntry (s : Settings) : Path × Value → Option Settings
  | (["path"], .text path) => if s.path.isNone then some { s with path } else none
  | (["tag"], .text tag) => if s.tag.isNone then some { s with tag } else none
  | _ => none

/-- The settings that entries give. -/
def ofEntries? (entries : List (Path × Value)) : Option Settings := entries.foldlM addEntry {}

/-- The settings that a value gives: a table, or an array of path and tag, in which more items do not
count. -/
def ofValue? : Value → Option Settings
  | .table entries => ofEntries? entries
  | .array (.text path :: .text tag :: _) => some { path, tag }
  | _ => none

/-- The entries of statements without a header. -/
def entries? (statements : List Statement) : Option (List (Path × Value)) :=
  statements.mapM fun
    | .entry path value => some (path, value)
    | .header _ _ => none

/-- The entries of the table `rules`, by their names in it. -/
def insideRules? (entries : List (Path × Value)) : Option (List (Path × Value)) :=
  entries.mapM fun
    | ("rules" :: path, value) => some (path, value)
    | _ => none

/-- The settings that statements give. All are about one table, `rules`: under its header, as its one
value, or name by name. -/
def ofStatements? : List Statement → Option Settings
  | .header ["rules"] false :: rest => (entries? rest).bind ofEntries?
  | [.entry ["rules"] value] => ofValue? value
  | statements => ((entries? statements).bind insideRules?).bind ofEntries?

/-- The settings of a file. -/
def ofText? (text : String) : Option Settings := (Statement.ofText? text).bind ofStatements?

/-- The settings `s`, and for what they leave open those that are given. -/
def override (s given : Settings) : Settings :=
  { path := s.path <|> given.path, tag := s.tag <|> given.tag }

end Settings

end AggregateNaming
