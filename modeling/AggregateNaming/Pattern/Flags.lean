/-!
# Flags

The switches that change how the rest of a group of a pattern is read.
-/

namespace AggregateNaming.Pattern

/-- One switch. -/
inductive Flag where
  /-- `i`: case does not count. -/
  | caseInsensitive
  /-- `m`: the marks for start and end hold at every line. -/
  | multiLine
  /-- `s`: the dot matches line feeds too. -/
  | dotAll
  /-- `U`: repetitions are lazy, and greedy when marked. -/
  | swapGreed
  /-- `u`: classes are those of all scripts, not of ASCII alone. -/
  | unicode
  /-- `R`: a carriage return ends a line too. -/
  | crlf
  /-- `x`: blanks and comments do not count. -/
  | verbose
  deriving Repr, DecidableEq

/-- The letter of a switch. -/
def Flag.ofLetter? : Char → Option Flag
  | 'i' => some .caseInsensitive
  | 'm' => some .multiLine
  | 's' => some .dotAll
  | 'U' => some .swapGreed
  | 'u' => some .unicode
  | 'R' => some .crlf
  | 'x' => some .verbose
  | _ => none

/-- The switches in force at a place of a pattern. -/
structure Flags where
  caseInsensitive : Bool := false
  multiLine : Bool := false
  dotAll : Bool := false
  swapGreed : Bool := false
  unicode : Bool := true
  crlf : Bool := false
  verbose : Bool := false
  deriving Repr, DecidableEq

namespace Flags

/-- Turns one switch. -/
def set (f : Flags) : Flag → Bool → Flags
  | .caseInsensitive, b => { f with caseInsensitive := b }
  | .multiLine, b => { f with multiLine := b }
  | .dotAll, b => { f with dotAll := b }
  | .swapGreed, b => { f with swapGreed := b }
  | .unicode, b => { f with unicode := b }
  | .crlf, b => { f with crlf := b }
  | .verbose, b => { f with verbose := b }

/-- Turns several switches, one after the other. -/
def apply (f : Flags) (changes : List (Flag × Bool)) : Flags :=
  changes.foldl (fun f c => f.set c.1 c.2) f

end Flags

end AggregateNaming.Pattern
