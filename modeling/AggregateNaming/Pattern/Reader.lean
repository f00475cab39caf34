import AggregateNaming.Pattern.Token

/-!
# Reading patterns

Reads a written pattern into its tree. Tokens are taken one at a time; the groups that are open wait
on a stack.

## Main definitions

- `ReadState` : the open groups and what has been read of the innermost one.
- `ReadState.step` : what one token does.
- `Pattern.read` : the tree of a written pattern, under the switches given.
-/

namespace AggregateNaming.Pattern

/-- One thing in a row of a group: a pattern, or a place where switches were turned, which no
repetition mark may follow. -/
inductive Piece where
  | pattern (p : Pattern)
  | directive
  deriving Repr, DecidableEq

/-- What has been read of a group: the alternatives before the last bar, and the pieces since, both
last first. -/
structure Body where
  alternatives : List Pattern := []
  pieces : List Piece := []
  deriving Repr, DecidableEq

namespace Body

/-- The pattern of a row of pieces, given last first. -/
def row (pieces : List Piece) : Pattern :=
  concatAll (pieces.reverse.filterMap fun
    | .pattern p => some p
    | .directive => none)

/-- Adds a pattern. -/
def add (b : Body) (p : Pattern) : Body := { b with pieces := .pattern p :: b.pieces }

/-- Begins the next alternative. -/
def bar (b : Body) : Body := { alternatives := row b.pieces :: b.alternatives, pieces := [] }

/-- The pattern of the whole body. -/
def toPattern (b : Body) : Pattern := alternateAll (b.bar.alternatives.reverse)

end Body

/-- A group that waits while one inside of it is read. -/
structure Frame where
  /-- What had been read around the inner group. -/
  body : Body
  /-- The switches in force again after the inner group. -/
  flags : Flags
  /-- The number of the inner group, if its match is remembered. -/
  capture : Option Nat
  deriving Repr, DecidableEq

/-- How far the reading of a pattern has come. -/
structure ReadState where
  flags : Flags
  body : Body := {}
  /-- The groups that wait, innermost first. -/
  stack : List Frame := []
  /-- How many groups that remember their match have been opened. -/
  captures : Nat := 0
  /-- The names of groups so far. -/
  names : List String := []
  deriving Repr, DecidableEq

namespace ReadState

/-- Adds a pattern to the innermost group. -/
def add (s : ReadState) (p : Pattern) : ReadState := { s with body := s.body.add p }

/-- The set of a literal outside of brackets. -/
def literalSet (f : Flags) (l : Literal) : Except PatternError CharSet :=
  if f.unicode then .ok (if f.caseInsensitive then .sameUpToCase l.char else .single l.char)
  else if l.char.toNat < 0x80 then .ok (foldSet f (.single l.char))
  else if l.isByte then .error .notAscii
  else .ok (.single l.char)

/-- The set of the dot. -/
def dotSet (f : Flags) : Except PatternError CharSet :=
  if !f.unicode then .error .notAscii
  else if f.dotAll then .ok .all
  else if f.crlf then .ok (.complement (.ofList ['\r', '\n']))
  else .ok (.complement (.single '\n'))

/-- The assertion of the mark for a start. -/
def startAssertion (f : Flags) : Assertion :=
  if f.multiLine then (if f.crlf then .lineStartCrlf else .lineStart) else .textStart

/-- The assertion of the mark for an end. -/
def endAssertion (f : Flags) : Assertion :=
  if f.multiLine then (if f.crlf then .lineEndCrlf else .lineEnd) else .textEnd

/-- Repeats the last piece of the innermost group. -/
def repeatLast (s : ReadState) (least : Nat) (most : Option Nat) (isLazy : Bool) :
    Except PatternError ReadState :=
  match s.body.pieces with
  | .pattern p :: rest =>
    let greedy := isLazy == s.flags.swapGreed
    .ok { s with body := { s.body with pieces := .pattern (p.times least most greedy) :: rest } }
  | _ => .error .repetitionWithoutPattern

/-- Opens a group. -/
def openGroup (s : ReadState) : GroupKind → Except PatternError ReadState
  | .capture name =>
    match name with
    | some n =>
      if s.names.contains n then .error (.repeatedGroupName n)
      else .ok { s with
        body := {}, stack := ⟨s.body, s.flags, some (s.captures + 1)⟩ :: s.stack,
        captures := s.captures + 1, names := n :: s.names }
    | none => .ok { s with
        body := {}, stack := ⟨s.body, s.flags, some (s.captures + 1)⟩ :: s.stack,
        captures := s.captures + 1 }
  | .plain changes => .ok { s with
      flags := s.flags.apply changes, body := {}, stack := ⟨s.body, s.flags, none⟩ :: s.stack }

/-- Closes the innermost group. -/
def closeGroup (s : ReadState) : Except PatternError ReadState :=
  match s.stack with
  | [] => .error .unopenedGroup
  | frame :: stack =>
    let p := s.body.toPattern
    let p := match frame.capture with
      | some i => group i p
      | none => p
    .ok { s with flags := frame.flags, body := frame.body.add p, stack }

/-- What one token does. -/
def step (s : ReadState) : Token → Except PatternError ReadState
  | .literal l => return s.add (.set (← literalSet s.flags l))
  | .dot => return s.add (.set (← dotSet s.flags))
  | .lineStart => .ok (s.add (.assertion (startAssertion s.flags)))
  | .lineEnd => .ok (s.add (.assertion (endAssertion s.flags)))
  | .short c negated => return s.add (.set (← c.toSetIn s.flags negated))
  | .property q negated => return s.add (.set (← q.toSetIn s.flags negated))
  | .assertion a => .ok (s.add (.assertion (a s.flags.unicode)))
  | .bracket b => return s.add (.set (← b.toSet s.flags))
  | .repetition least most isLazy => s.repeatLast least most isLazy
  | .bar => .ok { s with body := s.body.bar }
  | .openGroup k => s.openGroup k
  | .closeGroup => s.closeGroup
  | .directive changes => .ok { s with
      flags := s.flags.apply changes,
      body := { s.body with pieces := .directive :: s.body.pieces } }

/-- Reads tokens to the end of the characters. Every token uses up at least one, so `fuel` need not
be more than one above their number. -/
def run : (fuel : Nat) → ReadState → List Char → Except PatternError ReadState
  | 0, _, _ => .error .unclosedGroup
  | fuel + 1, s, cs => do
    let (token, rest) ← Token.read s.flags.verbose (skip s.flags.verbose cs)
    match token with
    | none => return s
    | some t => run fuel (← s.step t) rest

/-- The pattern that has been read, once no group is open. -/
def finish (s : ReadState) : Except PatternError Pattern :=
  match s.stack with
  | [] => .ok s.body.toPattern
  | _ :: _ => .error .unclosedGroup

end ReadState

/-- Reads a written pattern, under the switches given. -/
def read (flags : Flags) (cs : List Char) : Except PatternError Pattern := do
  (← ReadState.run (cs.length + 1) { flags } cs).finish

end AggregateNaming.Pattern
