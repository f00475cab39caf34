import AggregateNaming.Pattern.Lexeme
import AggregateNaming.Pattern.Flags
import AggregateNaming.Pattern.Property

/-!
# Brackets

Sets of characters in brackets: how they are written, and the set that a bracket stands for under
the switches in force.

- `Bracket` : the tree of a bracket.
- `Bracket.read` : reads a bracket after its opening.
- `Bracket.toSet` : the set that a bracket stands for.
-/

namespace AggregateNaming.Pattern

/-! ## §1 Trees -/

/-- The named classes of ASCII characters. -/
inductive AsciiClass where
  | alnum
  | alpha
  | ascii
  | blank
  | cntrl
  | digit
  | graph
  | lower
  | print
  | punct
  | space
  | upper
  | word
  | xdigit
  deriving Repr, DecidableEq

namespace AsciiClass

/-- The class with a name. -/
def ofName? (name : List Char) : Option AsciiClass :=
  match String.ofList name with
  | "alnum" => some alnum
  | "alpha" => some alpha
  | "ascii" => some ascii
  | "blank" => some blank
  | "cntrl" => some cntrl
  | "digit" => some digit
  | "graph" => some graph
  | "lower" => some lower
  | "print" => some print
  | "punct" => some punct
  | "space" => some space
  | "upper" => some upper
  | "word" => some word
  | "xdigit" => some xdigit
  | _ => none

/-- The characters of a class. -/
def toSet : AsciiClass → CharSet
  | alnum => .ofRanges [('0', '9'), ('A', 'Z'), ('a', 'z')]
  | alpha => .ofRanges [('A', 'Z'), ('a', 'z')]
  | ascii => .range '\x00' '\x7f'
  | blank => .ofList ['\t', ' ']
  | cntrl => .ofRanges [('\x00', '\x1f'), ('\x7f', '\x7f')]
  | digit => .range '0' '9'
  | graph => .range '!' '~'
  | lower => .range 'a' 'z'
  | print => .range ' ' '~'
  | punct => .ofRanges [('!', '/'), (':', '@'), ('[', '`'), ('{', '~')]
  | space => .ofList ['\t', '\n', '\x0b', '\x0c', '\r', ' ']
  | upper => .range 'A' 'Z'
  | word => .ofRanges [('0', '9'), ('A', 'Z'), ('_', '_'), ('a', 'z')]
  | xdigit => .ofRanges [('0', '9'), ('A', 'F'), ('a', 'f')]

end AsciiClass

/-- The operations between the parts of a bracket. -/
inductive BracketOp where
  | inter
  | diff
  | symmDiff
  deriving Repr, DecidableEq

/-- The inside of a bracket. -/
inductive Bracket where
  | empty
  | literal (l : Literal)
  | range (first last : Literal)
  | ascii (c : AsciiClass) (negated : Bool)
  | short (c : ShortClass) (negated : Bool)
  | property (q : PropertyQuery) (negated : Bool)
  | union (a b : Bracket)
  | op (o : BracketOp) (a b : Bracket)
  /-- A bracket of its own. -/
  | nested (negated : Bool) (b : Bracket)
  deriving Repr, DecidableEq

/-! ## §2 Reading -/

/-- A bracket that has been opened and not yet closed. -/
structure OpenBracket where
  negated : Bool
  /-- The part before the last operation, and that operation. -/
  left : Option (Bracket × BracketOp) := none
  /-- The part being read. -/
  items : Bracket := .empty
  deriving Repr

namespace OpenBracket

/-- Adds an item to the part being read. -/
def add (b : OpenBracket) (item : Bracket) : OpenBracket :=
  { b with items := .union b.items item }

/-- The inside read so far as one tree; operations associate to the left. -/
def inside (b : OpenBracket) : Bracket :=
  match b.left with
  | none => b.items
  | some (l, o) => .op o l b.items

/-- Begins the part after an operation. -/
def operate (b : OpenBracket) (o : BracketOp) : OpenBracket :=
  { negated := b.negated, left := some (b.inside, o), items := .empty }

end OpenBracket

/-- Hyphens at the beginning of a bracket stand for themselves. -/
def leadingHyphens (verbose : Bool) (b : OpenBracket) :
    Bool → List Char → OpenBracket × List Char
  | _, [] => (b, [])
  | true, c :: cs => leadingHyphens verbose b (c != '\n') cs
  | false, c :: cs =>
    if verbose && Text.isBlank c then leadingHyphens verbose b false cs
    else if verbose && c == '#' then leadingHyphens verbose b true cs
    else if c == '-' then leadingHyphens verbose (b.add (.literal ⟨c, false⟩)) false cs
    else (b, c :: cs)

/-- What follows the opening of a bracket: a caret negates it; then hyphens, or else one closing
bracket, stand for themselves. -/
def openBracket (verbose : Bool) (cs : List Char) : OpenBracket × List Char :=
  let (negated, cs) :=
    match skip verbose cs with
    | '^' :: rest => (true, skip verbose rest)
    | cs => (false, cs)
  match cs with
  | ']' :: rest => ({ negated, items := .literal ⟨']', false⟩ }, skip verbose rest)
  | cs => leadingHyphens verbose { negated } false cs

/-- A named class of ASCII characters after its opening bracket, if one is there. -/
def asciiClass? (cs : List Char) : Option (Bracket × List Char) :=
  match cs with
  | ':' :: cs =>
    let (negated, cs) :=
      match cs with
      | '^' :: rest => (true, rest)
      | cs => (false, cs)
    match cs.span (· != ':') with
    | (name, ':' :: ']' :: rest) => (AsciiClass.ofName? name).map fun c => (.ascii c negated, rest)
    | _ => none
  | _ => none

/-- The character after the next one, where blanks and comments are skipped: the first character
that is neither a blank nor the first number sign. Without such a character, the next one. -/
def peekPast (cs : List Char) : Option Char :=
  let rec go : Bool → List Char → Option Char
    | _, [] => none
    | seen, c :: rest =>
      if Text.isBlank c then go seen rest
      else if !seen && c == '#' then go true rest
      else some c
  (go false cs).or cs.head?

/-- One character or escape of a bracket. -/
def bracketItem (verbose : Bool) : List Char → Except PatternError (Bracket × List Char)
  | [] => .error .unclosedBracket
  | '\\' :: cs =>
    match escaped verbose cs with
    | .ok (.literal l, rest) => .ok (.literal l, rest)
    | .ok (.short c negated, rest) => .ok (.short c negated, rest)
    | .ok (.property q negated, rest) => .ok (.property q negated, rest)
    | .ok (.assertion _, _) => .error .badBracketItem
    | .error e => .error e
  | c :: cs => .ok (.literal ⟨c, false⟩, cs)

/-- One character, class or range of a bracket. A hyphen makes a range unless the closing bracket
or another hyphen comes next. -/
def bracketRange (verbose : Bool) (cs : List Char) : Except PatternError (Bracket × List Char) := do
  let (first, rest) ← bracketItem verbose cs
  match skip verbose rest with
  | [] => .error .unclosedBracket
  | '-' :: rest' =>
    let next := if verbose then peekPast rest' else rest'.head?
    if next == some ']' || next == some '-' then .ok (first, '-' :: rest')
    else
      match skip verbose rest' with
      | [] => .error .unclosedBracket
      | cs => do
        let (last, rest) ← bracketItem verbose cs
        match first, last with
        | .literal a, .literal b =>
          if a.char ≤ b.char then .ok (.range a b, rest) else .error .badRange
        | _, _ => .error .badRange
  | rest => .ok (first, rest)

/-- The operation that two equal characters stand for. -/
def bracketOp? : Char → Option BracketOp
  | '&' => some .inter
  | '-' => some .diff
  | '~' => some .symmDiff
  | _ => none

/-- Reads the inside of brackets, the innermost one `b` and those around it in `outer`, up to the
end of the outermost. Every turn uses up at least one character, so `fuel` need not be more than
their number. -/
def readBracket (verbose : Bool) :
    (fuel : Nat) → (b : OpenBracket) → (outer : List OpenBracket) → List Char →
    Except PatternError (Bracket × List Char)
  | 0, _, _, _ => .error .unclosedBracket
  | fuel + 1, b, outer, cs =>
    match skip verbose cs with
    | [] => .error .unclosedBracket
    | '[' :: rest =>
      match asciiClass? rest with
      | some (item, rest) => readBracket verbose fuel (b.add item) outer rest
      | none =>
        let (inner, rest) := openBracket verbose rest
        readBracket verbose fuel inner (b :: outer) rest
    | ']' :: rest =>
      let whole := Bracket.nested b.negated b.inside
      match outer with
      | [] => .ok (whole, rest)
      | b' :: outer => readBracket verbose fuel (b'.add whole) outer rest
    | c :: c' :: rest =>
      match if c == c' then bracketOp? c else none with
      | some o => readBracket verbose fuel (b.operate o) outer rest
      | none => do
        let (item, rest) ← bracketRange verbose (c :: c' :: rest)
        readBracket verbose fuel (b.add item) outer rest
    | [c] => do
      let (item, rest) ← bracketRange verbose [c]
      readBracket verbose fuel (b.add item) outer rest

/-- Reads a bracket after its opening. -/
def Bracket.read (verbose : Bool) (cs : List Char) : Except PatternError (Bracket × List Char) :=
  let (b, rest) := openBracket verbose cs
  readBracket verbose (cs.length + 1) b [] rest

/-! ## §3 The set of a bracket -/

/-- The characters of a one-letter class among all scripts. -/
def ShortClass.toSet : ShortClass → CharSet
  | .digit => .table Text.digits
  | .space => .table Text.blanks
  | .word => .table Text.wordChars

/-- The characters of a one-letter class among ASCII. -/
def ShortClass.toAsciiSet : ShortClass → CharSet
  | .digit => AsciiClass.digit.toSet
  | .space => AsciiClass.space.toSet
  | .word => AsciiClass.word.toSet

/-- A set closed under changes of case where case does not count. -/
def foldSet (f : Flags) (s : CharSet) : CharSet :=
  if f.caseInsensitive then (if f.unicode then .folded s else .asciiFolded s) else s

/-- A set or its complement. In ASCII alone no set has a complement. -/
def negateSet (f : Flags) (negated : Bool) (s : CharSet) : Except PatternError CharSet :=
  if negated then (if f.unicode then .ok (.complement s) else .error .notAscii) else .ok s

/-- The set of a one-letter class. It is closed under changes of case as it stands. -/
def ShortClass.toSetIn (f : Flags) (c : ShortClass) (negated : Bool) :
    Except PatternError CharSet :=
  negateSet f negated (if f.unicode then c.toSet else c.toAsciiSet)

/-- The set of a property class. -/
def PropertyQuery.toSetIn (f : Flags) (q : PropertyQuery) (negated : Bool) :
    Except PatternError CharSet :=
  if f.unicode then
    match q.table? with
    | some t => negateSet f negated (foldSet f (.table t))
    | none => .error .unknownProperty
  else .error .notAscii

/-- A character of a bracket; in ASCII alone, ASCII characters only. -/
def Literal.inBracket (f : Flags) (l : Literal) : Except PatternError Char :=
  if f.unicode || l.char.toNat < 0x80 then .ok l.char else .error .notAscii

/-- The set of the operation between two sets. -/
def BracketOp.toSet : BracketOp → CharSet → CharSet → CharSet
  | .inter => .inter
  | .diff => .diff
  | .symmDiff => .symmDiff

/-- The set that the inside of a bracket stands for. Where case does not count, the sides of an
operation are closed under changes of case before it, and every bracket before it is negated. -/
def Bracket.toSet (f : Flags) : Bracket → Except PatternError CharSet
  | .empty => .ok .empty
  | .literal l => return .single (← l.inBracket f)
  | .range a b => return .range (← a.inBracket f) (← b.inBracket f)
  | .ascii c negated => negateSet f negated (foldSet f c.toSet)
  | .short c negated => c.toSetIn f negated
  | .property q negated => q.toSetIn f negated
  | .union a b => return .union (← a.toSet f) (← b.toSet f)
  | .op o a b => return o.toSet (foldSet f (← a.toSet f)) (foldSet f (← b.toSet f))
  | .nested negated b => do negateSet f negated (foldSet f (← b.toSet f))

end AggregateNaming.Pattern
