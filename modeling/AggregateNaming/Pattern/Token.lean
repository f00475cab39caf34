import AggregateNaming.Pattern.Bracket

/-!
# Tokens

A written pattern as a row of tokens: literals, classes, assertions, repetition marks, brackets as a
whole, and what opens, parts and closes groups.

- `Token` : the tokens.
- `Token.read` : reads one token from the characters that are left.
-/

namespace AggregateNaming.Pattern

/-- What a group is for. -/
inductive GroupKind where
  /-- Its match is remembered, under a name too if it has one. -/
  | capture (name : Option String)
  /-- It only holds its parts together, under the switches turned at its beginning. -/
  | plain (changes : List (Flag × Bool))
  deriving Repr, DecidableEq

/-- A token of a written pattern. -/
inductive Token where
  | literal (l : Literal)
  | dot
  | lineStart
  | lineEnd
  | short (c : ShortClass) (negated : Bool)
  | property (q : PropertyQuery) (negated : Bool)
  /-- An assertion, given what the switch for all scripts says. -/
  | assertion (a : Bool → Assertion)
  | bracket (b : Bracket)
  /-- The part before it repeats; `isLazy` says that the mark was followed by a question mark. -/
  | repetition (least : Nat) (most : Option Nat) (isLazy : Bool)
  | bar
  | openGroup (k : GroupKind)
  | closeGroup
  /-- Switches turned for the rest of the group. -/
  | directive (changes : List (Flag × Bool))

namespace Token

/-- The token of an escape outside of brackets. -/
def ofEscape : Escape → Token
  | .literal l => .literal l
  | .short c negated => .short c negated
  | .property q negated => .property q negated
  | .assertion a => .assertion a

/-- A question mark after a repetition mark makes the repetition lazy. -/
def takeLazy : List Char → Bool × List Char
  | '?' :: rest => (true, rest)
  | cs => (false, cs)

/-- A counted repetition after its opening brace. -/
def readCounts (verbose : Bool) (cs : List Char) : Except PatternError (Token × List Char) := do
  let (least, rest) ← decimal verbose (skip verbose cs)
  let (most, rest) ← (match rest with
    | ',' :: rest =>
      match skip verbose rest with
      | '}' :: _ => .ok (none, skip verbose rest)
      | rest => do
        let (most, rest) ← decimal verbose rest
        return (some most, rest)
    | _ => .ok (some least, rest) : Except PatternError (Option Nat × List Char))
  match rest with
  | '}' :: rest =>
    let (isLazy, rest) := takeLazy (skip verbose rest)
    if most.all (least ≤ ·) then .ok (.repetition least most isLazy, rest)
    else .error .badRepetition
  | _ => .error .badRepetition

/-- The characters of the name of a group: a letter or underscore first, then also digits, dots and
brackets. -/
def isNameChar (first : Bool) (c : Char) : Bool :=
  c == '_' || Text.alphabetic.contains c ||
    (!first && (['.', '[', ']'].contains c || Text.numeric.contains c))

/-- The name of a group, up to and past its closing angle bracket. -/
def readGroupName (cs : List Char) : Except PatternError (String × List Char) :=
  match cs.span (· != '>') with
  | (_, []) => .error .emptyGroupName
  | ([], _) => .error .emptyGroupName
  | (c :: name, _ :: rest) =>
    if isNameChar true c && name.all (isNameChar false) then .ok (.ofList (c :: name), rest)
    else .error .badGroupName

/-- The switches after the question mark of a group, up to and past the parenthesis or colon that
ends them; the end is given back too. No switch may be named twice, and a hyphen must be followed by
one. -/
def readFlags (seen : List Flag) :
    (turned : Option Bool) → List Char → Except PatternError (List (Flag × Bool) × Char × List Char)
  | _, [] => .error .unclosedGroup
  | turned, c :: cs =>
    if c == ':' || c == ')' then
      if turned == some false then .error .danglingFlagNegation else .ok ([], c, cs)
    else if c == '-' then
      if turned.isSome then .error .repeatedFlag else readFlags seen (some false) cs
    else
      match Flag.ofLetter? c with
      | none => .error (.unknownFlag c)
      | some f =>
        if seen.contains f then .error .repeatedFlag
        else do
          let (changes, last, rest) ← readFlags (f :: seen) (turned.map fun _ => true) cs
          return ((f, turned.isNone) :: changes, last, rest)

/-- What follows the opening parenthesis of a group. -/
def readGroup (verbose : Bool) (cs : List Char) : Except PatternError (Token × List Char) :=
  match skip verbose cs with
  | '?' :: '=' :: _ | '?' :: '!' :: _ | '?' :: '<' :: '=' :: _ | '?' :: '<' :: '!' :: _ =>
    .error .lookAround
  | '?' :: 'P' :: '<' :: rest | '?' :: '<' :: rest => do
    let (name, rest) ← readGroupName rest
    return (.openGroup (.capture (some name)), rest)
  | '?' :: rest => do
    let (changes, last, rest) ← readFlags [] none rest
    if last == ':' then return (.openGroup (.plain changes), rest)
    else if changes.isEmpty then .error .repetitionWithoutPattern
    else return (.directive changes, rest)
  | rest => .ok (.openGroup (.capture none), rest)

/-- Reads one token. -/
def read (verbose : Bool) : List Char → Except PatternError (Option Token × List Char)
  | [] => .ok (none, [])
  | '(' :: cs => do
    let (t, rest) ← readGroup verbose cs
    return (some t, rest)
  | ')' :: cs => .ok (some .closeGroup, cs)
  | '|' :: cs => .ok (some .bar, cs)
  | '[' :: cs => do
    let (b, rest) ← Bracket.read verbose cs
    return (some (.bracket b), rest)
  | '?' :: cs => let (isLazy, rest) := takeLazy cs; .ok (some (.repetition 0 (some 1) isLazy), rest)
  | '*' :: cs => let (isLazy, rest) := takeLazy cs; .ok (some (.repetition 0 none isLazy), rest)
  | '+' :: cs => let (isLazy, rest) := takeLazy cs; .ok (some (.repetition 1 none isLazy), rest)
  | '{' :: cs => do
    let (t, rest) ← readCounts verbose cs
    return (some t, rest)
  | '\\' :: cs => do
    let (e, rest) ← escaped verbose cs
    return (some (ofEscape e), rest)
  | '.' :: cs => .ok (some .dot, cs)
  | '^' :: cs => .ok (some .lineStart, cs)
  | '$' :: cs => .ok (some .lineEnd, cs)
  | c :: cs => .ok (some (.literal ⟨c, false⟩), cs)

end Token

end AggregateNaming.Pattern
