import AggregateNaming.CommandLine.Report
import AggregateNaming.Document.Builtin
import AggregateNaming.Document.Read

/-!
# Running commands

From a command line to what is written and how the run ends. Files are read in any monad.

- `RunError` : why a run fails.
- `execute` : does what a command line asks for.
- `run` : the same from the words of the command line on.
-/

namespace AggregateNaming.CommandLine

/-! ## §1 Failures -/

/-- Why a run fails. -/
inductive RunError where
  | unreadableConfig (path : String) (reason : ReadError)
  | malformedConfig (path : String)
  /-- The rules cannot be loaded, from a file or as they are built in. -/
  | rules (path : Option String) (cause : RuleError)
  /-- Validation finds errors in rules that are to be used. -/
  | invalid (cause : RuleError)
  /-- There is no rule or no recognizer. -/
  | noRecognizer (cause : RuleError)
  /-- Validation finds errors, and was what was asked for. -/
  | failedCheck (tag : String)
  deriving Repr, DecidableEq

namespace RunError

/-- What failed, and where there is one the cause. Why a file holds no settings is not given: a mark
stands in its place. -/
def parts : RunError → String × Option String
  | unreadableConfig path reason => (s!"cannot read config {path}", some reason.message)
  | malformedConfig path => (s!"invalid config {path}", some "<toml error>")
  | rules (some path) cause => (s!"cannot load rules from {path}", some cause.message)
  | rules none cause => ("cannot load built-in rules", some cause.message)
  | invalid cause =>
    ("rule document is invalid; run `aggrules check` for details", some cause.message)
  | noRecognizer cause => (cause.message, none)
  | failedCheck tag => (s!"rule document '{tag}' is invalid", none)

/-- Every line of a text, moved to the right. -/
def indented (s : String) : String :=
  "    " ++ .ofList (s.toList.flatMap fun c => if c == '\n' then "\n    ".toList else [c])

/-- The words for a failure. -/
def message (e : RunError) : String :=
  match e.parts with
  | (what, none) => s!"Error: {what}\n"
  | (what, some cause) => s!"Error: {what}\n\nCaused by:\n{indented cause}\n"

end RunError

/-! ## §2 Runs -/

/-- What a run writes, and how it ends. -/
structure Result where
  /-- What is written as the answer. -/
  output : String := ""
  /-- Why the run fails, where it does. -/
  error : Option RunError := none
  deriving Repr, DecidableEq

/-- The number that a run ends with. -/
def Result.exitCode (r : Result) : UInt32 := if r.error.isNone then 0 else 1

/-- The file with settings, where no other is named. -/
def defaultConfig : String := "aggrules.toml"

/-- The settings in what there is to read under a path. -/
def settingsOf (path : String) (content : Except ReadError String) : Except RunError Settings :=
  match content with
  | .error reason => .error (.unreadableConfig path reason)
  | .ok text =>
    match Settings.ofText? text with
    | some s => .ok s
    | none => .error (.malformedConfig path)

/-- Settings from a file. A file that is named must be there, the one where none is named need not. -/
def loadSettings [Monad m] (read : String → m (Except ReadError String)) :
    Option String → m (Except RunError Settings)
  | some path => return settingsOf path (← read path)
  | none => do
    match ← read defaultConfig with
    | .error .notFound => return .ok {}
    | content => return settingsOf defaultConfig content

/-- The rules of a file, or those that are built in. -/
def loadRules [Monad m] (read : String → m (Except ReadError String)) :
    Option String → m (Except RunError RuleSet)
  | some path => return (RuleSet.ofFile path (← read path)).mapError (.rules (some path))
  | none => return RuleSet.builtin.mapError (.rules none)

/-- The answer to a command about rules. -/
def answer (s : RuleSet) (tag : Option String) (format : Format) : Command → Result
  | .check =>
    let report := CheckReport.ofRules s
    { output := report.print format,
      error := if report.valid then none else some (.failedCheck report.tag) }
  | .recognize request names =>
    match s.validated with
    | .error cause => { error := some (.invalid cause) }
    | .ok s =>
      match MatchReport.ofRules s tag request names with
      | .error cause => { error := some (.noRecognizer cause) }
      | .ok report => { output := report.print format }

/-- Does what a command line asks for. -/
def execute [Monad m] (read : String → m (Except ReadError String)) (a : Arguments) : m Result := do
  match ← loadSettings read a.config with
  | .error e => return { error := some e }
  | .ok fromFile =>
    let settings := a.settings.override fromFile
    match ← loadRules read settings.path with
    | .error e => return { error := some e }
    | .ok s => return answer s settings.tag a.format a.command

/-- Does what the words of a command line ask for, unless they are no command line. The environment may
name a file with settings. -/
def run [Monad m] (read : String → m (Except ReadError String)) (environment : Option String)
    (ws : List String) : m (Option Result) :=
  match Arguments.ofWords? environment ws with
  | none => return none
  | some a => do return some (← execute read a)

end AggregateNaming.CommandLine
