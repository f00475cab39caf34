import AggregateNaming.Pattern.Basic
import AggregateNaming.Text.Digit

/-!
# Lexemes

The smallest parts of a written pattern that both brackets and the text outside of them share:
blanks and comments, numbers in hexadecimal, names in braces and escapes.

Each reader takes the characters that are left and gives back what it read with the characters
after it. `verbose` says whether blanks and comments are skipped.
-/

namespace AggregateNaming.Pattern

/-! ## §1 Blanks and comments -/

/-- Skips blanks, and comments from a number sign to the end of its line. `inComment` says that a
comment has begun. -/
def skipFrom : Bool → List Char → List Char
  | _, [] => []
  | true, c :: cs => skipFrom (c != '\n') cs
  | false, c :: cs =>
    if Text.isBlank c then skipFrom false cs
    else if c == '#' then skipFrom true cs
    else c :: cs

/-- Skips what does not count. -/
def skip (verbose : Bool) (cs : List Char) : List Char :=
  if verbose then skipFrom false cs else cs

/-- The longest beginning whose characters pass a test, and the rest. Between those characters, what
does not count is left out. -/
def takeCounted (verbose : Bool) (test : Char → Bool) :
    Bool → List Char → List Char × List Char
  | _, [] => ([], [])
  | true, c :: cs => takeCounted verbose test (c != '\n') cs
  | false, c :: cs =>
    if verbose && Text.isBlank c then takeCounted verbose test false cs
    else if verbose && c == '#' then takeCounted verbose test true cs
    else if test c then
      let (taken, rest) := takeCounted verbose test false cs
      (c :: taken, rest)
    else ([], c :: cs)

/-- The text up to a closing brace, and what follows the brace. -/
def takeBraced (verbose : Bool) (cs : List Char) : Except PatternError (List Char × List Char) :=
  match takeCounted verbose (· != '}') false cs with
  | (_, []) => .error .unfinishedEscape
  | (name, _ :: rest) => .ok (name, rest)

/-! ## §2 Numbers -/

/-- The character with a code point, if there is one. -/
def charOfCode (n : Nat) : Except PatternError Char :=
  match Text.charOfCode? n with
  | some c => .ok c
  | none => .error .badHexEscape

/-- Exactly `count` hexadecimal digits after a number read so far. -/
def hexDigits (verbose : Bool) :
    (count : Nat) → (number : Nat) → List Char → Except PatternError (Nat × List Char)
  | 0, number, cs => .ok (number, cs)
  | _ + 1, _, [] => .error .unfinishedEscape
  | count + 1, number, c :: cs =>
    match Text.hexDigit? c with
    | some d => hexDigits verbose count (number * 16 + d) (skip verbose cs)
    | none => .error .badHexEscape

/-- The number that a list of hexadecimal digits writes. -/
def hexNumber (digits : List Char) : Except PatternError Nat :=
  match Text.number? 16 digits with
  | some n => .ok n
  | none => .error .badHexEscape

/-- A decimal number with blanks around it, at most the greatest number of 32 bits. -/
def decimal (verbose : Bool) (cs : List Char) : Except PatternError (Nat × List Char) :=
  let (digits, rest) := takeCounted verbose Char.isDigit false (cs.dropWhile Text.isBlank)
  if digits.isEmpty then .error .badRepetition
  else
    let number := digits.foldl (fun n c => n * 10 + (c.toNat - '0'.toNat)) 0
    if number < Nat.pow 2 32 then .ok (number, rest.dropWhile Text.isBlank) else .error .badRepetition

/-! ## §3 Escapes -/

/-- A character as it was written. -/
structure Literal where
  char : Char
  /-- Written by two hexadecimal digits, so that it may stand for a byte. -/
  isByte : Bool := false
  deriving Repr, DecidableEq

/-- The three classes with a letter of their own. -/
inductive ShortClass where
  | digit
  | space
  | word
  deriving Repr, DecidableEq

/-- A class by a property of characters. -/
inductive PropertyQuery where
  | named (name : String)
  | valued (name value : String)
  deriving Repr, DecidableEq

/-- What an escape stands for. -/
inductive Escape where
  | literal (l : Literal)
  | short (c : ShortClass) (negated : Bool)
  | property (q : PropertyQuery) (negated : Bool)
  /-- An assertion, given what the switch for all scripts says. -/
  | assertion (a : Bool → Assertion)

/-- The text `sought` at its first place in a list: what comes before it and what comes after. -/
def splitAtFirst (sought : List Char) : List Char → Option (List Char × List Char)
  | [] => if sought.isEmpty then some ([], []) else none
  | c :: cs =>
    if sought.isPrefixOf (c :: cs) then some ([], (c :: cs).drop sought.length)
    else (splitAtFirst sought cs).map fun (before, after) => (c :: before, after)

/-- What the text between the braces of a property class asks for. -/
def PropertyQuery.ofChars (cs : List Char) : PropertyQuery :=
  match splitAtFirst ['!', '='] cs with
  | some (name, value) => .valued (.ofList name) (.ofList value)
  | none =>
    match splitAtFirst [':'] cs with
    | some (name, value) => .valued (.ofList name) (.ofList value)
    | none =>
      match splitAtFirst ['='] cs with
      | some (name, value) => .valued (.ofList name) (.ofList value)
      | none => .named (.ofList cs)

/-- A hexadecimal escape after its letter: in braces, or of as many digits as the letter asks
for. -/
def hexEscape (verbose : Bool) (count : Nat) (cs : List Char) :
    Except PatternError (Escape × List Char) :=
  match skip verbose cs with
  | [] => .error .unfinishedEscape
  | '{' :: rest => do
    let (digits, rest) ← takeBraced verbose rest
    let c ← charOfCode (← hexNumber digits)
    return (.literal ⟨c, false⟩, skip verbose rest)
  | cs => do
    let (number, rest) ← hexDigits verbose count 0 cs
    let c ← charOfCode number
    return (.literal ⟨c, count == 2⟩, rest)

/-- A property class after its letter: in braces, or of one letter. -/
def propertyEscape (verbose negated : Bool) (cs : List Char) :
    Except PatternError (Escape × List Char) :=
  match skip verbose cs with
  | [] => .error .unfinishedEscape
  | '{' :: rest => do
    let (name, rest) ← takeBraced verbose rest
    return (.property (.ofChars name) negated, rest)
  | '\\' :: _ => .error .unknownProperty
  | c :: rest => .ok (.property (.named (.ofList [c])) negated, skip verbose rest)

/-- What may stand between braces after the mark for a word boundary. -/
def wordBoundaryNamed? (name : List Char) : Option (Bool → Assertion) :=
  if name == "start".toList then some .wordStart
  else if name == "end".toList then some .wordEnd
  else if name == "start-half".toList then some .wordStartHalf
  else if name == "end-half".toList then some .wordEndHalf
  else none

/-- The mark for a word boundary after its letter. Braces that begin with a letter or a hyphen name
a kind of boundary; any other braces are left to be read as a repetition. -/
def wordBoundaryEscape (verbose : Bool) (cs : List Char) :
    Except PatternError (Escape × List Char) :=
  let isNameChar (c : Char) : Bool := c.isAlpha || c == '-'
  match cs with
  | '{' :: rest =>
    match skip verbose rest with
    | [] => .error .unknownWordBoundary
    | c :: rest =>
      if isNameChar c then
        match takeCounted verbose isNameChar false (c :: rest) with
        | (name, '}' :: rest) =>
          match wordBoundaryNamed? name with
          | some a => .ok (.assertion a, rest)
          | none => .error .unknownWordBoundary
        | _ => .error .unknownWordBoundary
      else .ok (.assertion .wordBoundary, cs)
  | _ => .ok (.assertion .wordBoundary, cs)

/-- The character that a one-letter escape for a control character stands for. -/
def controlEscape? : Char → Option Char
  | 'a' => some '\x07'
  | 'f' => some '\x0c'
  | 't' => some '\t'
  | 'n' => some '\n'
  | 'r' => some '\r'
  | 'v' => some '\x0b'
  | _ => none

/-- The class that a one-letter escape stands for, and whether it is meant negated. -/
def shortClass? : Char → Option (ShortClass × Bool)
  | 'd' => some (.digit, false)
  | 's' => some (.space, false)
  | 'w' => some (.word, false)
  | 'D' => some (.digit, true)
  | 'S' => some (.space, true)
  | 'W' => some (.word, true)
  | _ => none

/-- The assertion that a one-letter escape stands for. -/
def assertionEscape? : Char → Option (Bool → Assertion)
  | 'A' => some fun _ => .textStart
  | 'z' => some fun _ => .textEnd
  | 'B' => some .notWordBoundary
  | '<' => some .wordStart
  | '>' => some .wordEnd
  | _ => none

/-- An escape after its backslash. An ASCII character that is neither a letter nor a digit may
always be escaped, angle brackets apart. -/
def escaped (verbose : Bool) : List Char → Except PatternError (Escape × List Char)
  | [] => .error .unfinishedEscape
  | c :: cs =>
    if c.isDigit then .error .backReference
    else if c == 'x' then hexEscape verbose 2 cs
    else if c == 'u' then hexEscape verbose 4 cs
    else if c == 'U' then hexEscape verbose 8 cs
    else if c == 'p' then propertyEscape verbose false cs
    else if c == 'P' then propertyEscape verbose true cs
    else if c == 'b' then wordBoundaryEscape verbose cs
    else
      match shortClass? c, assertionEscape? c, controlEscape? c with
      | some (k, negated), _, _ => .ok (.short k negated, cs)
      | none, some a, _ => .ok (.assertion a, cs)
      | none, none, some d => .ok (.literal ⟨d, false⟩, cs)
      | none, none, none =>
        if c.toNat < 0x80 && !c.isAlpha then .ok (.literal ⟨c, false⟩, cs)
        else .error (.unknownEscape c)

end AggregateNaming.Pattern
