/-!
# Cursors

A place in a marked-up text, with the characters that are left, and the classes of characters that
its rules are about.

- `isAllowed` : the characters that may be in a text at all.
- `Cursor` : the place, by line and column, and what is left.
- `Cursor.takeBreak?` : a line end, of which there are several forms.
-/

namespace AggregateNaming.Markup

/-! ## §1 Characters -/

/-- The characters that may be in a text. -/
def isAllowed (c : Char) : Bool :=
  let n := c.toNat
  c == '\t' || c == '\n' || c == '\r' || (0x20 ≤ n && n ≤ 0x7E) || n == 0x85
    || (0xA0 ≤ n && n ≤ 0xD7FF) || (0xE000 ≤ n && n ≤ 0xFFFD) || 0x10000 ≤ n

/-- The characters that end a line. -/
def isBreak (c : Char) : Bool :=
  c == '\n' || c == '\r' || c == '\u0085' || c == '\u2028' || c == '\u2029'

/-- A space or a tab. -/
def isSpace (c : Char) : Bool := c == ' ' || c == '\t'

/-- A space, a tab or a character that ends a line. -/
def isGap (c : Char) : Bool := isSpace c || isBreak c

/-- A space, a tab, a character that ends a line, or the end of the text. -/
def isGapOrEnd (c : Option Char) : Bool := c.all isGap

/-- The characters of names. -/
def isNameChar (c : Char) : Bool := c.isAlphanum || c == '_' || c == '-'

/-! ## §2 Places -/

/-- A place in a text. -/
structure Cursor where
  /-- The characters that are left. -/
  rest : List Char
  /-- How many characters the text has. -/
  size : Nat
  /-- How many characters come before. -/
  index : Nat := 0
  /-- How many line ends come before. -/
  line : Nat := 0
  /-- How many characters come before on the line. -/
  column : Nat := 0
  deriving Repr, DecidableEq

namespace Cursor

/-- The beginning of a text. -/
def ofChars (cs : List Char) : Cursor := { rest := cs, size := cs.length }

/-- How many characters are left. -/
def left (c : Cursor) : Nat := c.size - c.index

/-- The next character. -/
def peek (c : Cursor) : Option Char := c.rest.head?

/-- The character after a number of others. -/
def peekAt (c : Cursor) (n : Nat) : Option Char := c.rest[n]?

/-- The place a number of characters further on the same line. -/
def advance (c : Cursor) (n : Nat) : Cursor :=
  let taken := (c.rest.take n).length
  { c with rest := c.rest.drop n, index := c.index + taken, column := c.column + taken }

/-- The characters up to the first that fails a test, and the place there. -/
def takeWhile (test : Char → Bool) (c : Cursor) : List Char × Cursor :=
  let taken := c.rest.takeWhile test
  (taken, c.advance taken.length)

/-- The place of the first character that fails a test. -/
def skipWhile (test : Char → Bool) (c : Cursor) : Cursor := (c.takeWhile test).2

/-- The place at the beginning of the next line, a number of characters on. -/
def nextLine (c : Cursor) (width : Nat) : Cursor :=
  { c with rest := c.rest.drop width, index := c.index + width, line := c.line + 1, column := 0 }

/-- A line end, and the place after it. All line ends count as line feeds, but for the two separators
of lines and paragraphs. -/
def takeBreak? (c : Cursor) : Option (Char × Cursor) :=
  match c.rest with
  | '\r' :: '\n' :: _ => some ('\n', c.nextLine 2)
  | d :: _ =>
    if d == '\u2028' || d == '\u2029' then some (d, c.nextLine 1)
    else if isBreak d then some ('\n', c.nextLine 1)
    else none
  | [] => none

/-- The place after a line end, if one is there. -/
def skipBreak (c : Cursor) : Cursor :=
  match c.takeBreak? with
  | some (_, next) => next
  | none => c

/-- Whether a mark of three characters stands at the beginning of a line, with a gap after it. -/
def hasLineMark (c : Cursor) (mark : Char) : Bool :=
  c.column == 0 && c.rest.take 3 == [mark, mark, mark] && isGapOrEnd (c.peekAt 3)

/-- Whether a mark between documents stands here. -/
def atDocumentMark (c : Cursor) : Bool := c.hasLineMark '-' || c.hasLineMark '.'

/-- Spaces, tabs and a comment up to the end of the line, which must then be there. The place after
that line end. -/
def finishLine? (c : Cursor) : Option Cursor :=
  let c := c.skipWhile isSpace
  let c := if c.peek == some '#' then c.skipWhile (!isBreak ·) else c
  if c.peek.all isBreak then some c.skipBreak else none

end Cursor

end AggregateNaming.Markup
