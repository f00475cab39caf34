import AggregateNaming.Text.Digit

/-!
# Texts in quotes

Texts as TOML writes them: between quotation marks or apostrophes, on one line or, between three marks,
on several. Between quotation marks there are escapes, between apostrophes every character stands for
itself.

- `readShort?` : a text on one line.
- `readText?` : a text in any of the four forms.

Each reader takes the characters that are left, and gives those after the text. Its loops turn at most
once for each character, which is what `fuel` bounds.
-/

namespace AggregateNaming.Toml

/-! ## §1 Characters -/

/-- A space or a tab. -/
def isBlank (c : Char) : Bool := c == ' ' || c == '\t'

/-- The characters that may stand in a line: tabs, and all that are no control characters. -/
def isInLine (c : Char) : Bool := c == '\t' || (0x20 ≤ c.toNat && c.toNat != 0x7F)

/-- What comes after a line end. -/
def afterLineEnd? : List Char → Option (List Char)
  | '\n' :: rest => some rest
  | '\r' :: '\n' :: rest => some rest
  | _ => none

/-- What comes after blanks and line ends. -/
def skipGaps : List Char → List Char
  | '\r' :: '\n' :: rest => skipGaps rest
  | c :: rest => if isBlank c || c == '\n' then skipGaps rest else c :: rest
  | [] => []

/-! ## §2 Escapes -/

/-- The character that a one-letter escape stands for. -/
def escape? : Char → Option Char
  | 'b' => some '\x08'
  | 't' => some '\t'
  | 'n' => some '\n'
  | 'f' => some '\x0c'
  | 'r' => some '\r'
  | '"' => some '"'
  | '\\' => some '\\'
  | _ => none

/-- How many digits follow the letter of an escape by number. -/
def escapeWidth? : Char → Option Nat
  | 'u' => some 4
  | 'U' => some 8
  | _ => none

/-- The character that an escape after its backslash stands for, and what comes after it. -/
def readEscape? : List Char → Option (Char × List Char)
  | [] => none
  | letter :: rest =>
    match escapeWidth? letter with
    | some width =>
      if rest.length < width then none
      else do
        let c ← Text.charOfCode? (← Text.number? 16 (rest.take width))
        return (c, rest.drop width)
    | none => (escape? letter).map (·, rest)

/-- What comes after a line end that a backslash takes away, with the gap after it. Blanks may stand
between the two. -/
def afterEscapedLineEnd? (cs : List Char) : Option (List Char) :=
  (afterLineEnd? (cs.dropWhile isBlank)).map skipGaps

/-! ## §3 Texts -/

/-- Reads a text on one line, after its opening mark and past the closing one. -/
def readShort? (mark : Char) : (fuel : Nat) → List Char → Option (List Char × List Char)
  | 0, _ | _, [] => none
  | fuel + 1, c :: rest =>
    if c == mark then some ([], rest)
    else if c == '\\' && mark == '"' then do
      let (e, rest) ← readEscape? rest
      let (cs, rest) ← readShort? mark fuel rest
      return (e :: cs, rest)
    else if isInLine c then do
      let (cs, rest) ← readShort? mark fuel rest
      return (c :: cs, rest)
    else none

/-- Reads a text on several lines, after its opening marks and past the closing ones. One or two marks
are part of the text, also right before the closing ones; every line end counts as a line feed. -/
def readLong? (mark : Char) : (fuel : Nat) → List Char → Option (List Char × List Char)
  | 0, _ | _, [] => none
  | fuel + 1, c :: rest =>
    let marks := (rest.takeWhile (· == mark)).length
    if c == mark && 2 ≤ marks then
      let more := min (marks - 2) 2
      some (List.replicate more mark, rest.drop (more + 2))
    else if c == '\\' && mark == '"' then
      match afterEscapedLineEnd? rest with
      | some rest => readLong? mark fuel rest
      | none => do
        let (e, rest) ← readEscape? rest
        let (cs, rest) ← readLong? mark fuel rest
        return (e :: cs, rest)
    else
      match afterLineEnd? (c :: rest) with
      | some rest => do
        let (cs, rest) ← readLong? mark fuel rest
        return ('\n' :: cs, rest)
      | none =>
        if isInLine c then do
          let (cs, rest) ← readLong? mark fuel rest
          return (c :: cs, rest)
        else none

/-- Reads a text in any form. A line end right after three opening marks does not count. -/
def readText? (cs : List Char) : Option (String × List Char) :=
  let long (mark : Char) (rest : List Char) :=
    readLong? mark (rest.length + 1) ((afterLineEnd? rest).getD rest)
  let short (mark : Char) (rest : List Char) := readShort? mark (rest.length + 1) rest
  let read? :=
    match cs with
    | '"' :: '"' :: '"' :: rest => long '"' rest
    | '\'' :: '\'' :: '\'' :: rest => long '\'' rest
    | '"' :: rest => short '"' rest
    | '\'' :: rest => short '\'' rest
    | _ => none
  read?.map fun (text, rest) => (String.ofList text, rest)

end AggregateNaming.Toml
