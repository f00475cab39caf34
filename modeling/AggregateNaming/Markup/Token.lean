import AggregateNaming.Markup.ScalarText

/-!
# Tokens

A marked-up text as a row of tokens. Indentation and the keys of mappings become tokens of their own:
a key is known only by the colon after it, so that its token is put in before those of the key.

- `Token` : the tokens.
- `Scan` : how far the reading has come, with the open indentations and possible keys.
- `Token.ofText?` : the tokens of a text.
-/

namespace AggregateNaming.Markup

/-! ## §1 Tokens -/

/-- A token. -/
inductive Token where
  | versionDirective (major minor : Nat)
  | tagDirective (handle start : String)
  | documentStart
  | documentEnd
  | blockSequenceStart
  | blockMappingStart
  /-- The end of an indented sequence or mapping. -/
  | blockEnd
  | flowSequenceStart
  | flowSequenceEnd
  | flowMappingStart
  | flowMappingEnd
  | blockEntry
  | flowEntry
  | key
  | value
  | alias (name : String)
  | anchor (name : String)
  | tag (handle suffix : String)
  | scalar (style : ScalarStyle) (text : String)
  deriving Repr, DecidableEq

/-! ## §2 Names and tags -/

/-- The name of an anchor or of an alias, after its mark. What may follow it is limited. -/
def readAnchor (c : Cursor) : Option (String × Cursor) :=
  let (name, c) := (c.advance 1).takeWhile isNameChar
  let mayFollow := c.peek.all fun d =>
    isGap d || ['?', ':', ',', ']', '}', '%', '@', '`'].contains d
  if name.isEmpty || !mayFollow then none else some (.ofList name, c)

/-- A handle of tags: names between exclamation marks, or just one exclamation mark, in which case
what follows is not part of it. -/
def readHandle (c : Cursor) : Option (String × Cursor) :=
  if c.peek == some '!' then
    let (name, c) := (c.advance 1).takeWhile isNameChar
    if c.peek == some '!' then some (.ofList (['!'] ++ name ++ ['!']), c.advance 1)
    else some (.ofList ('!' :: name), c)
  else none

/-- The characters of tags, brackets and commas apart, which only tags between angle brackets may
have. -/
def isTagChar (anywhere : Bool) (c : Char) : Bool :=
  isNameChar c || [';', '/', '?', ':', '@', '&', '=', '+', '$', '.', '!', '~', '*', '\'', '(',
    ')'].contains c || (anywhere && [',', '[', ']'].contains c)

/-- A byte written as a percent sign and two digits. -/
def readByte? : List Char → Option Nat
  | '%' :: a :: b :: _ => do return (← Text.hexDigit? a) * 16 + (← Text.hexDigit? b)
  | _ => none

/-- How many bytes a character has, by its first. -/
def byteCount? (lead : Nat) : Option Nat :=
  if lead < 0x80 then some 1
  else if 0xC0 ≤ lead ∧ lead < 0xE0 then some 2
  else if 0xE0 ≤ lead ∧ lead < 0xF0 then some 3
  else if 0xF0 ≤ lead ∧ lead < 0xF8 then some 4
  else none

/-- The bytes after the first of a character, as a number that goes on from those before. -/
def readMoreBytes? : (count number : Nat) → List Char → Option Nat
  | 0, number, _ => some number
  | count + 1, number, cs => do
    let b ← readByte? cs
    if 0x80 ≤ b ∧ b < 0xC0 then readMoreBytes? count (number * 0x40 + (b - 0x80)) (cs.drop 3)
    else none

/-- A character written by its bytes, and how many characters that takes. Bytes that make no
character count as the replacement character. -/
def readBytes? (cs : List Char) : Option (Char × Nat) := do
  let lead ← readByte? cs
  let count ← byteCount? lead
  let first := if count = 1 then lead else lead % Nat.pow 2 (7 - count)
  let number ← readMoreBytes? (count - 1) first (cs.drop 3)
  return ((Text.charOfCode? number).getD '\ufffd', 3 * count)

/-- Reads the characters of a tag. What is `taken` is last first. -/
def readTagChars (anywhere : Bool) :
    (fuel : Nat) → (taken : List Char) → Cursor → Option (List Char × Cursor)
  | 0, _, _ => none
  | fuel + 1, taken, c =>
    match c.peek with
    | none => some (taken, c)
    | some d =>
      if d == '%' then do
        let (e, width) ← readBytes? c.rest
        readTagChars anywhere fuel (e :: taken) (c.advance width)
      else if isTagChar anywhere d then readTagChars anywhere fuel (d :: taken) (c.advance 1)
      else some (taken, c)

/-- The rest of a tag after `start`. -/
def readSuffix (anywhere : Bool) (start : List Char) (c : Cursor) : Option (List Char × Cursor) := do
  let (taken, c) ← readTagChars anywhere (c.left + 1) start.reverse c
  return (taken.reverse, c)

/-- A tag: in angle brackets, after a handle, or after one exclamation mark, which alone is a tag
too. A gap must follow it, or inside of brackets a comma. -/
def readTag (inFlow : Bool) (c : Cursor) : Option (Token × Cursor) := do
  let (handle, suffix, c) ←
    (if c.peekAt 1 == some '<' then do
      let (suffix, next) ← readSuffix true [] (c.advance 2)
      if suffix.isEmpty || next.peek != some '>' then none
      else return ("", .ofList suffix, next.advance 1)
    else do
      let (handle, next) ← readHandle c
      if handle.length > 1 && handle.endsWith "!" then
        let (suffix, next) ← readSuffix false [] next
        if suffix.isEmpty then none else return (handle, .ofList suffix, next)
      else
        let (suffix, next) ← readSuffix false (handle.toList.drop 1) next
        if suffix.isEmpty then return ("", "!", next) else return ("!", .ofList suffix, next)
      : Option (String × String × Cursor))
  if isGapOrEnd c.peek || (inFlow && c.peek == some ',') then return (.tag handle suffix, c)
  else none

/-! ## §3 Directives -/

/-- A number of at most nine digits. -/
def readShortNumber (c : Cursor) : Option (Nat × Cursor) := do
  let (digits, c) := c.takeWhile Char.isDigit
  if digits.length > 9 then none
  else return (← Text.number? 10 digits, c)

/-- The version that a directive asks for. -/
def readVersion (c : Cursor) : Option (Token × Cursor) := do
  let (major, c) ← readShortNumber (c.skipWhile isSpace)
  if c.peek == some '.' then
    let (minor, c) ← readShortNumber (c.advance 1)
    return (.versionDirective major minor, c)
  else none

/-- A handle of tags and what it stands for. -/
def readTagDirective (c : Cursor) : Option (Token × Cursor) := do
  let (handle, c) ← readHandle (c.skipWhile isSpace)
  if handle != "!" && !handle.endsWith "!" then none
  else if c.peek.any isSpace then
    let (start, c) ← readSuffix true [] (c.skipWhile isSpace)
    if start.isEmpty || !isGapOrEnd c.peek then none
    else return (.tagDirective handle (.ofList start), c)
  else none

/-- A directive with the rest of its line. -/
def readDirective (c : Cursor) : Option (Token × Cursor) := do
  let (name, c) := (c.advance 1).takeWhile isNameChar
  if !isGapOrEnd c.peek then none
  else
    let (t, c) ← (match String.ofList name with
      | "YAML" => readVersion c
      | "TAG" => readTagDirective c
      | _ => none : Option (Token × Cursor))
    return (t, ← c.finishLine?)

/-! ## §4 Scanning -/

/-- A place where a key may have begun. -/
structure PossibleKey where
  /-- Whether nothing but a key may begin there. -/
  required : Bool
  /-- How many tokens come before. -/
  position : Nat
  index : Nat
  line : Nat
  column : Nat
  deriving Repr, DecidableEq

/-- How far the reading of tokens has come. -/
structure Scan where
  cursor : Cursor
  /-- The tokens so far, last first. -/
  tokens : List Token := []
  /-- The column of the innermost open indentation; less than zero if there is none. -/
  indent : Int := -1
  /-- The columns of those around it, innermost first. -/
  outer : List Int := []
  /-- Where a key may have begun in the innermost brackets. -/
  possibleKey : Option PossibleKey := none
  /-- Where a key may have begun around each open bracket, innermost first. -/
  outerKeys : List (Option PossibleKey) := []
  /-- Whether a key may begin here. -/
  keyAllowed : Bool := true
  deriving Repr, DecidableEq

namespace Scan

/-- Whether the place is inside of brackets. -/
def inFlow (s : Scan) : Bool := !s.outerKeys.isEmpty

/-- Adds a token. -/
def emit (s : Scan) (t : Token) : Scan := { s with tokens := t :: s.tokens }

/-- Puts a token in after the first `position` tokens. -/
def insert (s : Scan) (position : Nat) (t : Token) : Scan :=
  let later := s.tokens.length - position
  { s with tokens := s.tokens.take later ++ t :: s.tokens.drop later }

/-- Adds a token of a number of characters. -/
def take (s : Scan) (width : Nat) (t : Token) : Scan :=
  { s.emit t with cursor := s.cursor.advance width }

/-- Sets whether a key may begin here. -/
def allowKey (s : Scan) (allowed : Bool) : Scan := { s with keyAllowed := allowed }

/-- Closes the indentations deeper than a column. There are none inside of brackets. -/
def unroll (s : Scan) (column : Int) : Scan :=
  let rec go (indent : Int) : List Int → (tokens : List Token) → Scan
    | [], tokens =>
      if indent > column then { s with indent := -1, outer := [], tokens := .blockEnd :: tokens }
      else { s with indent, outer := [], tokens }
    | i :: rest, tokens =>
      if indent > column then go i rest (.blockEnd :: tokens)
      else { s with indent, outer := i :: rest, tokens }
  if s.inFlow then s else go s.indent s.outer s.tokens

/-- Opens an indentation at a column, if it is deeper than the innermost, by a token after the first
`position` tokens. There are none inside of brackets. -/
def roll (s : Scan) (column : Nat) (position : Nat) (t : Token) : Scan :=
  if !s.inFlow && s.indent < (column : Int) then
    { s.insert position t with indent := column, outer := s.indent :: s.outer }
  else s

/-- Opens an indentation at the place reached. -/
def rollHere (s : Scan) (t : Token) : Scan := s.roll s.cursor.column s.tokens.length t

/-- Gives up the possible key of the innermost brackets. One that is required cannot be given up. -/
def dropKey (s : Scan) : Option Scan :=
  if s.possibleKey.any (·.required) then none else some { s with possibleKey := none }

/-- Notes that a key may begin here, if one may. -/
def noteKey (s : Scan) : Option Scan :=
  if s.keyAllowed then do
    let c := s.cursor
    let required := !s.inFlow && s.indent == (c.column : Int)
    let s ← s.dropKey
    return { s with possibleKey := some ⟨required, s.tokens.length, c.index, c.line, c.column⟩ }
  else some s

/-- Whether a possible key can no longer be one: keys stay on one line and have at most 1024
characters. -/
def isStale (c : Cursor) (k : PossibleKey) : Bool :=
  k.line < c.line || k.index + 1024 < c.index

/-- Gives up all possible keys that can no longer be one. -/
def dropStaleKeys (s : Scan) : Option Scan :=
  let stale := isStale s.cursor
  if (s.possibleKey :: s.outerKeys).any fun k => k.any fun k => stale k && k.required then none
  else some { s with
    possibleKey := s.possibleKey.filter (!stale ·),
    outerKeys := s.outerKeys.map (·.filter (!stale ·)) }

/-- Skips spaces, comments, line ends, and marks of the order of bytes at the beginning of a line. A
tab counts as a space only where no key may begin. After a line end a key may begin, unless inside of
brackets. -/
def skipGaps : (fuel : Nat) → Scan → Scan
  | 0, s => s
  | fuel + 1, s =>
    let c := s.cursor
    let c := if c.column == 0 && c.peek == some '\ufeff' then c.advance 1 else c
    let c := c.skipWhile fun d => d == ' ' || ((s.inFlow || !s.keyAllowed) && d == '\t')
    let c := if c.peek == some '#' then c.skipWhile (!isBreak ·) else c
    match c.takeBreak? with
    | some (_, c) => skipGaps fuel { s with cursor := c, keyAllowed := !s.inFlow || s.keyAllowed }
    | none => { s with cursor := c }

/-! ## §5 One token after another -/

/-- A mark that opens a bracket. A bracket may be a key. -/
def openFlow (s : Scan) (t : Token) : Option Scan := do
  let s ← s.noteKey
  let s := { s with possibleKey := none, outerKeys := s.possibleKey :: s.outerKeys }
  return (s.take 1 t).allowKey true

/-- A mark that closes a bracket. -/
def closeFlow (s : Scan) (t : Token) : Option Scan := do
  let s ← s.dropKey
  let s := match s.outerKeys with
    | [] => s
    | k :: rest => { s with possibleKey := k, outerKeys := rest }
  return (s.take 1 t).allowKey false

/-- A comma inside of brackets. -/
def flowEntry (s : Scan) : Option Scan := do
  return ((← s.dropKey).take 1 .flowEntry).allowKey true

/-- The mark of an entry of an indented sequence. -/
def blockEntry (s : Scan) : Option Scan := do
  if !s.inFlow && !s.keyAllowed then none
  else
    let s := s.rollHere .blockSequenceStart
    return ((← s.dropKey).take 1 .blockEntry).allowKey true

/-- The mark of a key that need not be a simple one. -/
def explicitKey (s : Scan) : Option Scan := do
  if !s.inFlow && !s.keyAllowed then none
  else
    let s := s.rollHere .blockMappingStart
    return ((← s.dropKey).take 1 .key).allowKey (!s.inFlow)

/-- The mark of a value. It makes a key of what may have been one. -/
def value (s : Scan) : Option Scan :=
  match s.possibleKey with
  | some k =>
    let s := s.insert k.position .key
    let s := s.roll k.column k.position .blockMappingStart
    some (({ s with possibleKey := none }.take 1 .value).allowKey false)
  | none =>
    if !s.inFlow && !s.keyAllowed then none
    else some (((s.rollHere .blockMappingStart).take 1 .value).allowKey (!s.inFlow))

/-- A token that ends all indentation, at the beginning of a line. -/
def outermost (s : Scan) (t : Token) (next : Cursor) : Option Scan := do
  let s ← (s.unroll (-1)).dropKey
  return { (s.emit t).allowKey false with cursor := next }

/-- A token that may be part of a key. -/
def inKey (s : Scan) (read : Cursor → Option (Token × Cursor)) : Option Scan := do
  let s ← s.noteKey
  let (t, next) ← read s.cursor
  return { (s.emit t).allowKey false with cursor := next }

/-- A scalar in quotes. -/
def quoted (s : Scan) (single : Bool) : Option Scan :=
  s.inKey fun c => do
    let (text, c) ← readQuoted single c
    return (.scalar (if single then .singleQuoted else .doubleQuoted) (.ofList text), c)

/-- A scalar without marks. When it was left over a line end, a key may begin after it. -/
def plain (s : Scan) : Option Scan := do
  let s ← s.noteKey
  let (text, broken, c) ← readPlain s.inFlow (s.indent + 1) s.cursor
  return { (s.emit (.scalar .plain (.ofList text))).allowKey broken with cursor := c }

/-- A scalar indented under a mark. -/
def block (s : Scan) (folded : Bool) : Option Scan := do
  let s ← s.dropKey
  let (text, c) ← readBlock folded s.indent s.cursor
  let t := Token.scalar (if folded then .folded else .literal) (.ofList text)
  return { (s.emit t).allowKey true with cursor := c }

/-- The characters that no scalar without marks begins with. -/
def isIndicator (c : Char) : Bool :=
  ['-', '?', ':', ',', '[', ']', '{', '}', '#', '&', '*', '!', '|', '>', '\'', '"', '%', '@',
    '`'].contains c

/-- Whether a scalar without marks may begin here. A hyphen may begin one before anything but a space
or tab; outside of brackets, a question mark or colon may before anything but a gap. -/
def plainMayBegin (s : Scan) (d : Char) (next : Option Char) : Bool :=
  !(isGap d || isIndicator d) || (d == '-' && !next.any isSpace)
    || (!s.inFlow && (d == '?' || d == ':') && !isGapOrEnd next)

/-- Reads the token that begins with a character at the place reached. -/
def token (s : Scan) (d : Char) : Option Scan :=
  let c := s.cursor
  let next := c.peekAt 1
  if c.column == 0 && d == '%' then do
    let s ← (s.unroll (-1)).dropKey
    let (t, next) ← readDirective c
    return { (s.emit t).allowKey false with cursor := next }
  else if c.hasLineMark '-' then s.outermost .documentStart (c.advance 3)
  else if c.hasLineMark '.' then s.outermost .documentEnd (c.advance 3)
  else if d == '[' then s.openFlow .flowSequenceStart
  else if d == '{' then s.openFlow .flowMappingStart
  else if d == ']' then s.closeFlow .flowSequenceEnd
  else if d == '}' then s.closeFlow .flowMappingEnd
  else if d == ',' then s.flowEntry
  else if d == '-' && isGapOrEnd next then s.blockEntry
  else if d == '?' && (s.inFlow || isGapOrEnd next) then s.explicitKey
  else if d == ':' && (s.inFlow || isGapOrEnd next) then s.value
  else if d == '*' then s.inKey fun c => (readAnchor c).map fun (n, c) => (.alias n, c)
  else if d == '&' then s.inKey fun c => (readAnchor c).map fun (n, c) => (.anchor n, c)
  else if d == '!' then s.inKey (readTag s.inFlow)
  else if d == '|' && !s.inFlow then s.block false
  else if d == '>' && !s.inFlow then s.block true
  else if d == '\'' then s.quoted true
  else if d == '"' then s.quoted false
  else if s.plainMayBegin d next then s.plain
  else none

/-- Reads tokens to the end of the text. Every token uses up at least one character, so `fuel` need
not be more than one above their number. -/
def run : (fuel : Nat) → Scan → Option Scan
  | 0, _ => none
  | fuel + 1, s => do
    let s := s.skipGaps (s.cursor.left + 1)
    let s ← s.dropStaleKeys
    match s.cursor.peek with
    | none => (s.unroll (-1)).dropKey
    | some d => run fuel (← (s.unroll s.cursor.column).token d)

end Scan

/-- The tokens of a text, if it breaks no rule of them. -/
def Token.ofText? (cs : List Char) : Option (List Token) :=
  if cs.all isAllowed then
    ((Scan.run (cs.length + 1) { cursor := .ofChars cs }).map (·.tokens.reverse))
  else none

end AggregateNaming.Markup
