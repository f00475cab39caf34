import AggregateNaming.Rule
import AggregateNaming.Settings
import AggregateNaming.Text.Split

/-!
# Arguments

What a command line asks for: a command, the settings that go before those of a file, and how to write
the answer.

- `Argument` : the parts of a command line.
- `Command` : what can be asked for.
- `Arguments.ofWords?` : reads a command line.

A command line has up to three levels: what stands before the command, between the command and what it
is about, and after both. Some options may stand on every level, and the innermost counts.
-/

namespace AggregateNaming.CommandLine

/-! ## §1 Parts of a command line -/

/-- A part of a command line. -/
inductive Argument where
  | option (name value : String)
  | word (text : String)
  /-- A word after the mark that ends options. It names no command. -/
  | operand (text : String)
  deriving Repr, DecidableEq

/-- Options with their values. -/
abbrev Options := List (String × String)

namespace Argument

/-- Whether a word begins an option or ends options. A lone mark is a word like any other. -/
def isMarked (w : String) : Bool := w.toList.head? == some '-' && w != "-"

/-- The name of an option, and its value where it is in the same word. -/
def optionParts? (w : String) : Option (String × Option String) :=
  match w.toList with
  | '-' :: '-' :: cs =>
    let (name, value) := Text.splitWhere (· == '=') cs
    some (.ofList name, value.map .ofList)
  | _ => none

/-- The parts that words make. An option has its value in the same word or in the next one, which must
then not be marked. -/
def ofWords? : List String → Option (List Argument)
  | [] => some []
  | w :: rest =>
    if w == "--" then some (rest.map operand)
    else if isMarked w then
      match optionParts? w with
      | none => none
      | some (name, some value) => (ofWords? rest).map (option name value :: ·)
      | some (name, none) =>
        match rest with
        | [] => none
        | value :: rest =>
          if isMarked value then none else (ofWords? rest).map (option name value :: ·)
    else (ofWords? rest).map (word w :: ·)

/-- The options before the first word, that word, and what comes after it. -/
def splitCommand? : List Argument → Option (Options × String × List Argument)
  | option name value :: rest =>
    (splitCommand? rest).map fun (options, w, after) => ((name, value) :: options, w, after)
  | word w :: rest => some ([], w, rest)
  | _ => none

/-- The options among parts. -/
def options (as : List Argument) : Options :=
  as.filterMap fun
    | option name value => some (name, value)
    | _ => none

/-- The words among parts. -/
def words (as : List Argument) : List String :=
  as.filterMap fun
    | word w | operand w => some w
    | option _ _ => none

end Argument

/-! ## §2 Commands -/

/-- How answers are written. -/
inductive Format where
  | text
  | json
  deriving Repr, DecidableEq

/-- The format with a name. -/
def Format.ofName? : String → Option Format
  | "text" => some text
  | "json" => some json
  | _ => none

/-- What is asked for. -/
inductive Command where
  /-- What validation has to say about the rules. -/
  | check
  /-- Which of some names the recognizer for a request accepts. -/
  | recognize (request : Request) (names : List String)
  deriving Repr, DecidableEq

/-- The options that describe a request, by the name of what it is about. -/
def requestOptions : String → List String
  | "table" => ["fact"]
  | "foreign-key" => ["key"]
  | "level" => ["hierarchy", "level", "column", "usage-prefix"]
  | "measure" => ["measure", "column", "aggregate"]
  | _ => []

/-- The request that options describe, by the name of what it is about. -/
def requestOf? (name : String) (options : Options) : Option Request :=
  match name with
  | "table" => do return .table (← options.lookup "fact")
  | "fact-count" => some .factCount
  | "foreign-key" => do return .foreignKey (← options.lookup "key")
  | "level" => do
    return .level {
      usagePrefix := options.lookup "usage-prefix", hierarchy := ← options.lookup "hierarchy",
      level := ← options.lookup "level", column := ← options.lookup "column" }
  | "measure" => do
    return .measure {
      measure := ← options.lookup "measure", column := ← options.lookup "column",
      aggregate := ← options.lookup "aggregate" }
  | "ignore" => some .ignore
  | _ => none

/-! ## §3 Options of every level -/

/-- The options that may stand on every level. -/
def commonOptions : List String := ["config", "rules", "tag", "format"]

/-- Whether an option may have a value: paths must not be empty, and formats must be known. -/
def isValue (name value : String) : Bool :=
  match name with
  | "config" | "rules" => !value.isEmpty
  | "format" => (Format.ofName? value).isSome
  | _ => true

/-- Whether options may stand together on a level: all of them are known there, have a value that they
may have, and come once. -/
def areAllowed (known : List String) (options : Options) : Bool :=
  options.all (fun o => known.contains o.1 && isValue o.1 o.2)
    && (options.map (·.1)).eraseDups.length == options.length

/-- The value of an option that may stand on every level. Levels are given from the outermost on, and
the innermost one that has the option counts. -/
def innermost? (levels : List Options) (name : String) : Option String :=
  (levels.filterMap (·.lookup name)).getLast?

/-- What a command line asks for. -/
structure Arguments where
  /-- The file with settings, which must then be there. -/
  config : Option String
  /-- The settings that go before those of the file. -/
  settings : Settings
  format : Format
  command : Command
  deriving Repr, DecidableEq

namespace Arguments

/-- What a command with options on some levels asks for. The environment may name a file with settings
for every level that does not. -/
def ofLevels? (environment : Option String) (levels : List Options) (command : Command) :
    Option Arguments :=
  if levels.any (fun os => (os.lookup "config").isNone) && environment == some "" then none
  else
    some {
      config := innermost? levels "config" <|> environment
      settings := { path := innermost? levels "rules", tag := innermost? levels "tag" }
      format := ((innermost? levels "format").bind Format.ofName?).getD .text
      command }

/-- Reads a command line. The environment may name a file with settings. -/
def ofWords? (environment : Option String) (ws : List String) : Option Arguments := do
  let (outer, name, rest) ← Argument.splitCommand? (← Argument.ofWords? ws)
  match name with
  | "check" =>
    let inner := Argument.options rest
    if areAllowed commonOptions outer && areAllowed commonOptions inner
        && (Argument.words rest).isEmpty then
      ofLevels? environment [outer, inner] .check
    else none
  | "match" =>
    let (middle, subject, rest) ← Argument.splitCommand? rest
    let inner := Argument.options rest
    let names := Argument.words rest
    let request ← requestOf? subject inner
    if areAllowed commonOptions outer && areAllowed commonOptions middle
        && areAllowed (commonOptions ++ requestOptions subject) inner && !names.isEmpty then
      ofLevels? environment [outer, middle, inner] (.recognize request names)
    else none
  | _ => none

end Arguments

end AggregateNaming.CommandLine
