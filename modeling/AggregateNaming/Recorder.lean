import AggregateNaming.Diagnostic

/-!
# Recorders

A recorder collects diagnostics while validation walks through a rule set. It knows where the walk
is: a path of names, outermost first, that every new diagnostic takes as its context.

## Main definitions

- `Recorder` : the path and the diagnostics so far.
- `Recorder.report`, `push`, `pop` : the three things that happen to a recorder.
- `Check` : a computation that reports to a recorder; `Check.inside` runs one inside a named part.
- `Step` and `Step.run` : programs of recorder steps, nested to any depth.
-/

namespace AggregateNaming

/-! ## §1 Recorders -/

/-- The diagnostics of a walk so far, oldest first, and the path to where the walk is. -/
structure Recorder where
  /-- The names of the parts around the current place, outermost first. -/
  path : List String := []
  /-- The diagnostics so far, oldest first. -/
  diagnostics : List Diagnostic := []
  deriving Repr, DecidableEq

namespace Recorder

/-- A path as diagnostics show it. -/
def renderPath (path : List String) : String := " > ".intercalate path

/-- The current place as diagnostics show it. -/
def contextPath (r : Recorder) : String := renderPath r.path

/-- Enters the part called `name`. -/
def push (r : Recorder) (name : String) : Recorder :=
  { r with path := r.path ++ [name] }

/-- Leaves the innermost part; outside of every part nothing happens. -/
def pop (r : Recorder) : Recorder :=
  { r with path := r.path.dropLast }

/-- Adds a diagnostic at the current place. -/
def report (r : Recorder) (level : Level) (message : String) : Recorder :=
  { r with diagnostics := r.diagnostics ++ [⟨level, r.contextPath, message⟩] }

/-- How many diagnostics have the given severity. -/
def count (r : Recorder) (level : Level) : Nat :=
  r.diagnostics.countP (·.level == level)

/-- The diagnostics that make the rule set invalid. -/
def errors (r : Recorder) : List Diagnostic :=
  r.diagnostics.filter (·.isError)

/-- Whether some diagnostic makes the rule set invalid. -/
def hasErrors (r : Recorder) : Bool :=
  r.diagnostics.any (·.isError)

end Recorder

/-! ## §2 Computations that report -/

/-- A computation that may report to a recorder. -/
abbrev Check (α : Type) := StateM Recorder α

namespace Check

/-- Reports a diagnostic of the given severity. -/
def report (level : Level) (message : String) : Check Unit :=
  modify (·.report level message)

/-- Reports an error. -/
def error (message : String) : Check Unit := report .error message

/-- Reports a warning. -/
def warn (message : String) : Check Unit := report .warn message

/-- Reports a remark. -/
def info (message : String) : Check Unit := report .info message

/-- Runs a check on every member of a list, whatever the others say. All must be in order. -/
def every (check : α → Check Bool) : List α → Check Bool
  | [] => return true
  | a :: rest => do
    let ok ← check a
    let restOk ← every check rest
    return ok && restOk

/-- Runs a computation inside the part called `name`. -/
def inside (name : String) (body : Check α) : Check α := do
  modify (·.push name)
  let result ← body
  modify (·.pop)
  return result

end Check

/-! ## §3 Programs of recorder steps -/

/-- One step of a program for a recorder. -/
inductive Step where
  /-- A diagnostic at the current place. -/
  | report (level : Level) (message : String)
  /-- Entering a part that nothing in the program need leave. -/
  | push (name : String)
  /-- Leaving the innermost part, whoever entered it. -/
  | pop
  /-- A program of its own that runs inside a part. -/
  | inside (name : String) (steps : List Step)
  deriving Inhabited

namespace Step

mutual
/-- The states of the recorder after each step, inner steps first, and after the whole step. -/
def trace : Step → Recorder → List Recorder
  | .report level message, r => [r.report level message]
  | .push name, r => [r.push name]
  | .pop, r => [r.pop]
  | .inside name steps, r =>
    let inner := traceAll steps (r.push name)
    inner ++ [((inner.getLast?).getD (r.push name)).pop]

/-- The states of the recorder after each step of a program. -/
def traceAll : List Step → Recorder → List Recorder
  | [], _ => []
  | s :: rest, r =>
    let states := trace s r
    states ++ traceAll rest ((states.getLast?).getD r)
end

mutual
/-- The recorder after one step. -/
def run : Step → Recorder → Recorder
  | .report level message, r => r.report level message
  | .push name, r => r.push name
  | .pop, r => r.pop
  | .inside name steps, r => (runAll steps (r.push name)).pop

/-- The recorder after a program. -/
def runAll : List Step → Recorder → Recorder
  | [], r => r
  | s :: rest, r => runAll rest (run s r)
end

end Step

end AggregateNaming
