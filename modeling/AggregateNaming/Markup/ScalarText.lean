import AggregateNaming.Markup.Cursor
import AggregateNaming.Markup.Node
import AggregateNaming.Text.Digit

/-!
# The text of scalars

Reads scalars in each of the styles in which they are written. Where a scalar goes on on the next
line, the gap between its parts is folded: a lone line end becomes a space, and of several the first
is dropped.

- `Gap` : spaces and line ends between two parts of a scalar.
- `readQuoted`, `readPlain`, `readBlock` : scalars in quotes, without marks, and indented under a
  mark.

Each reader answers with nothing where the text breaks the rules of the style. Its loops turn at most
once for each character that is left, which is what bounds them.
-/

namespace AggregateNaming.Markup

/-! ## §1 Gaps -/

/-- Spaces, tabs and line ends between two parts of a scalar. -/
structure Gap where
  /-- The spaces and tabs before the first line end, last first. -/
  spaces : List Char := []
  /-- Whether the part after the gap is on another line than the part before it. -/
  broken : Bool := false
  /-- The first line end. -/
  first : Option Char := none
  /-- The line ends after the first, last first. -/
  more : List Char := []
  deriving Repr, DecidableEq

namespace Gap

/-- What a gap contributes to the scalar. -/
def text (g : Gap) : List Char :=
  if g.broken then
    match g.first with
    | some '\n' => if g.more.isEmpty then [' '] else g.more.reverse
    | some c => c :: g.more.reverse
    | none => g.more.reverse
  else g.spaces.reverse

end Gap

/-- Reads a gap. After a line end, no tab may stand before the column `indent`. -/
def readGap (indent : Int) : (fuel : Nat) → Gap → Cursor → Option (Gap × Cursor)
  | 0, _, _ => none
  | fuel + 1, g, c =>
    match c.peek with
    | none => some (g, c)
    | some d =>
      if isSpace d then
        if g.broken then
          if d == '\t' && (c.column : Int) < indent then none
          else readGap indent fuel g (c.advance 1)
        else readGap indent fuel { g with spaces := d :: g.spaces } (c.advance 1)
      else
        match c.takeBreak? with
        | none => some (g, c)
        | some (b, next) =>
          if g.broken then readGap indent fuel { g with more := b :: g.more } next
          else readGap indent fuel { g with spaces := [], broken := true, first := some b } next

/-! ## §2 Scalars in quotes -/

/-- The character that a one-letter escape stands for. -/
def escape? : Char → Option Char
  | '0' => some '\x00'
  | 'a' => some '\x07'
  | 'b' => some '\x08'
  | 't' | '\t' => some '\t'
  | 'n' => some '\n'
  | 'v' => some '\x0b'
  | 'f' => some '\x0c'
  | 'r' => some '\r'
  | 'e' => some '\x1b'
  | ' ' => some ' '
  | '"' => some '"'
  | '/' => some '/'
  | '\\' => some '\\'
  | 'N' => some '\u0085'
  | '_' => some '\u00a0'
  | 'L' => some '\u2028'
  | 'P' => some '\u2029'
  | _ => none

/-- How many digits follow the letter of an escape by number. -/
def escapeWidth? : Char → Option Nat
  | 'x' => some 2
  | 'u' => some 4
  | 'U' => some 8
  | _ => none

/-- The character that an escape after its backslash stands for, and how many characters it takes. -/
def readEscape? : List Char → Option (Char × Nat)
  | [] => none
  | letter :: rest =>
    match escapeWidth? letter with
    | some width =>
      let digits := rest.take width
      if digits.length < width then none
      else do
        let c ← Text.charOfCode? (← Text.number? 16 digits)
        return (c, width + 1)
    | none => (escape? letter).map (·, 1)

/-- Reads a scalar in quotes up to a gap, the closing quote or an escaped line end; the last of them
begins a gap on the next line. What is `taken` is last first. -/
def readQuotedRun (single : Bool) :
    (fuel : Nat) → (taken : List Char) → Cursor → Option (List Char × Gap × Cursor)
  | 0, _, _ => none
  | fuel + 1, taken, c =>
    match c.rest with
    | [] => none
    | d :: rest =>
      if isGap d then some (taken, {}, c)
      else if single then
        if d == '\'' then
          if rest.head? == some '\'' then readQuotedRun single fuel (d :: taken) (c.advance 2)
          else some (taken, {}, c)
        else readQuotedRun single fuel (d :: taken) (c.advance 1)
      else if d == '"' then some (taken, {}, c)
      else if d == '\\' then
        if rest.head?.any isBreak then
          some (taken, { broken := true }, (c.advance 1).skipBreak)
        else
          match readEscape? rest with
          | some (e, width) => readQuotedRun single fuel (e :: taken) (c.advance (width + 1))
          | none => none
      else readQuotedRun single fuel (d :: taken) (c.advance 1)

/-- Reads parts of a scalar in quotes up to and past the closing quote. No mark between documents may
stand in it. -/
def readQuotedParts (single : Bool) :
    (fuel : Nat) → (taken : List Char) → Cursor → Option (List Char × Cursor)
  | 0, _, _ => none
  | fuel + 1, taken, c => do
    if c.atDocumentMark then none
    else
      let (taken, g, c) ← readQuotedRun single (c.left + 1) taken c
      if c.peek == some (if single then '\'' else '"') then return (taken, c.advance 1)
      else
        let (g, c) ← readGap 0 (c.left + 1) g c
        readQuotedParts single fuel (g.text.reverse ++ taken) c

/-- Reads a scalar in quotes. -/
def readQuoted (single : Bool) (c : Cursor) : Option (List Char × Cursor) := do
  let (taken, c) ← readQuotedParts single (c.left + 1) [] (c.advance 1)
  return (taken.reverse, c)

/-! ## §3 Scalars without marks -/

/-- The characters that end a scalar without marks inside of brackets. -/
def isFlowIndicator (c : Char) : Bool := [',', '[', ']', '{', '}'].contains c

/-- Reads a scalar without marks up to a gap or to what ends it: a colon before a gap and, inside of
brackets, an indicator. A colon right before an indicator is refused there. -/
def readPlainRun (inFlow : Bool) :
    (fuel : Nat) → (taken : List Char) → Cursor → Option (List Char × Cursor)
  | 0, _, _ => none
  | fuel + 1, taken, c =>
    match c.rest with
    | [] => some (taken, c)
    | d :: rest =>
      if isGap d then some (taken, c)
      else if inFlow && d == ':' && rest.head?.any fun e => e == '?' || isFlowIndicator e then none
      else if (d == ':' && isGapOrEnd rest.head?) || (inFlow && isFlowIndicator d) then
        some (taken, c)
      else readPlainRun inFlow fuel (d :: taken) (c.advance 1)

/-- Reads parts of a scalar without marks, after the gap `g`. Each line of it must reach the column
`indent`, unless it stands in brackets. Says too whether the scalar was left over a line end. -/
def readPlainParts (inFlow : Bool) (indent : Int) :
    (fuel : Nat) → (taken : List Char) → Gap → Cursor → Option (List Char × Bool × Cursor)
  | 0, _, _, _ => none
  | fuel + 1, taken, g, c =>
    if c.atDocumentMark || c.peek == some '#' then some (taken, g.broken, c)
    else do
      let (part, next) ← readPlainRun inFlow (c.left + 1) [] c
      let (taken, g) :=
        if part.isEmpty then (taken, g) else (part ++ (g.text.reverse ++ taken), ({} : Gap))
      if next.peek.any isGap then
        let (g, next) ← readGap indent (next.left + 1) { g with spaces := [] } next
        if !inFlow && (next.column : Int) < indent then return (taken, g.broken, next)
        else readPlainParts inFlow indent fuel taken g next
      else return (taken, g.broken, next)

/-- Reads a scalar without marks. Says too whether it was left over a line end. -/
def readPlain (inFlow : Bool) (indent : Int) (c : Cursor) : Option (List Char × Bool × Cursor) := do
  let (taken, broken, c) ← readPlainParts inFlow indent (c.left + 1) [] {} c
  return (taken.reverse, broken, c)

/-! ## §4 Scalars indented under a mark -/

/-- What becomes of the line ends at the end of an indented scalar. -/
inductive Chomping where
  /-- All are dropped. -/
  | strip
  /-- One is kept. -/
  | clip
  /-- All are kept. -/
  | keep
  deriving Repr, DecidableEq

/-- The chomping that a mark asks for. -/
def Chomping.ofMark? : Char → Option Chomping
  | '+' => some .keep
  | '-' => some .strip
  | _ => none

/-- The marks after the one that begins an indented scalar: chomping and indentation, in either order.
An indentation is a digit other than zero. -/
def readBlockMarks (c : Cursor) : Option (Chomping × Option Nat × Cursor) :=
  let digit (c : Cursor) : Option (Option Nat × Cursor) :=
    match c.peek.bind Text.digit? with
    | some 0 => none
    | some n => some (some n, c.advance 1)
    | none => some (none, c)
  match c.peek.bind Chomping.ofMark? with
  | some chomping => do
    let (n, c) ← digit (c.advance 1)
    return (chomping, n, c)
  | none => do
    let (n, c) ← digit c
    match n, c.peek.bind Chomping.ofMark? with
    | some n, some chomping => return (chomping, some n, c.advance 1)
    | n, _ => return (.clip, n, c)

/-- Reads indentation and empty lines before a line of an indented scalar. Where the indentation is
not known yet, the deepest of these lines decides. No tab may stand in the indentation. The line
ends are last first. -/
def readIndentation (indent : Option Nat) :
    (fuel : Nat) → (deepest : Nat) → (breaks : List Char) → Cursor →
    Option (Nat × List Char × Cursor)
  | 0, _, _, _ => none
  | fuel + 1, deepest, breaks, c =>
    let width := (c.rest.takeWhile (· == ' ')).length
    let c := c.advance (match indent with
      | some n => min width (n - c.column)
      | none => width)
    let deepest := max deepest c.column
    if indent.all (c.column < ·) && c.peek == some '\t' then none
    else
      match c.takeBreak? with
      | some (b, next) => readIndentation indent fuel deepest (b :: breaks) next
      | none => some (deepest, breaks, c)

/-- Reads the lines of an indented scalar. `first` is the line end before the line, `more` are those of
empty lines after it, last first, and `indented` says whether the line before began with a space or
tab: such lines are not joined. -/
def readBlockLines (folded : Bool) (indent : Nat) :
    (fuel : Nat) → (taken : List Char) → (first : Option Char) → (more : List Char) →
    (indented : Bool) → Cursor → Option (List Char × Option Char × List Char × Cursor)
  | 0, _, _, _, _, _ => none
  | fuel + 1, taken, first, more, indented, c =>
    if c.column == indent && c.peek.isSome then do
      let nowIndented := c.peek.any isSpace
      let joint :=
        if folded && first == some '\n' && !indented && !nowIndented then
          if more.isEmpty then [' '] else []
        else first.toList
      let (line, c) := c.takeWhile (!isBreak ·)
      let taken := line.reverse ++ (more ++ (joint ++ taken))
      let (first, c) := match c.takeBreak? with
        | some (b, next) => (some b, next)
        | none => (none, c)
      let (_, more, c) ← readIndentation (some indent) (c.left + 1) 0 [] c
      readBlockLines folded indent fuel taken first more nowIndented c
    else some (taken, first, more, c)

/-- Reads a scalar indented under a mark. It is indented more than the part around it, whose column
is `around`. -/
def readBlock (folded : Bool) (around : Int) (c : Cursor) : Option (List Char × Cursor) := do
  let (chomping, increment, c) ← readBlockMarks (c.advance 1)
  let c ← c.finishLine?
  let given := increment.map fun n => (if around ≥ 0 then around + n else n).toNat
  let (deepest, more, c) ← readIndentation given (c.left + 1) 0 [] c
  let indent := given.getD (max deepest (max (around + 1).toNat 1))
  let (taken, first, more, c) ←
    readBlockLines folded indent (c.left + 1) [] none more false c
  let tail := match chomping with
    | .strip => []
    | .clip => first.toList
    | .keep => first.toList ++ more.reverse
  return (taken.reverse ++ tail, c)

end AggregateNaming.Markup
