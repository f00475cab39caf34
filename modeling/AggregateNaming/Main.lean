import AggregateNaming.CommandLine.Run

/-!
# The program

Runs a command line: reads files and the environment, and writes what the run has to say.
-/

namespace AggregateNaming.CommandLine

/-- What the system says, with its number, of which the sign does not count. -/
def systemError (code : UInt32) (reason : String) : ReadError :=
  let number := if code < 0x80000000 then code.toNat else (0 - code).toNat
  if number == 21 then .isDirectory else .system number reason.capitalize

/-- Why a file cannot be read, from what the system says. -/
def readErrorOf : IO.Error → ReadError
  | .noFileOrDirectory _ _ _ => .notFound
  | .inappropriateType _ code reason | .permissionDenied _ code reason
  | .invalidArgument _ code reason | .resourceExhausted _ code reason => systemError code reason
  | e => .system 5 e.toString

/-- Reads a file as text. -/
def readFile (path : String) : IO (Except ReadError String) := do
  if path.toList.contains '\x00' then return .error .badPath
  try
    match String.fromUTF8? (← IO.FS.readBinFile path) with
    | some text => return .ok text
    | none => return .error .notText
  catch e => return .error (readErrorOf e)

end AggregateNaming.CommandLine

open AggregateNaming.CommandLine

/-- Runs a command line. A run that fails ends with 1, and words that are no command line with 2. -/
def main (words : List String) : IO UInt32 := do
  match ← run readFile (← IO.getEnv "AGGRULES_CONFIG") words with
  | none =>
    IO.eprintln "error: the arguments are not as they should be"
    return 2
  | some result =>
    IO.print result.output
    if let some e := result.error then IO.eprint e.message
    return result.exitCode
