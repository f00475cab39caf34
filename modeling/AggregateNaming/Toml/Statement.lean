import AggregateNaming.Toml.Literal
import AggregateNaming.Toml.Quoted

/-!
# Statements

The lines of a TOML text: headers, and keys with values.

- `Value` : the values.
- `Statement` : a header, or a key with its value.
- `Statement.ofText?` : the statements of a text.

Each reader takes the characters that are left, and gives those after what it has read. `fuel` bounds its
loops, which turn at most once for each character.
-/

namespace AggregateNaming.Toml

/-! ## §1 Values and statements -/

/-- A key, by its parts. -/
abbrev Path := List String

/-- A value. -/
inductive Value where
  | text (s : String)
  /-- A number, a truth value, a date or a time. -/
  | literal
  | array (items : List Value)
  | table (entries : List (Path × Value))

/-- A line that says something. -/
inductive Statement where
  /-- The keys of the following statements belong to a table. A repeatable header adds one to an array
  of tables. -/
  | header (path : Path) (repeatable : Bool)
  | entry (path : Path) (value : Value)

/-! ## §2 Keys -/

/-- The characters of keys without quotes. -/
def isKeyChar (c : Char) : Bool := c.isAlphanum || c == '_' || c == '-'

/-- Reads a part of a key. -/
def readKey? : List Char → Option (String × List Char)
  | [] => none
  | c :: rest =>
    if c == '"' || c == '\'' then
      (readShort? c (rest.length + 1) rest).map fun (key, rest) => (String.ofList key, rest)
    else
      let key := (c :: rest).takeWhile isKeyChar
      if key.isEmpty then none else some (.ofList key, (c :: rest).dropWhile isKeyChar)

/-- Reads a key with all its parts. Blanks may stand around each of them. -/
def readPath? : (fuel : Nat) → List Char → Option (Path × List Char)
  | 0, _ => none
  | fuel + 1, cs => do
    let (key, cs) ← readKey? (cs.dropWhile isBlank)
    match cs.dropWhile isBlank with
    | '.' :: rest =>
      let (path, rest) ← readPath? fuel rest
      return (key :: path, rest)
    | rest => return ([key], rest)

/-- Keys that can stand side by side in one table: none of them is the beginning of another. -/
def areApart : List Path → Bool
  | [] => true
  | p :: ps => ps.all (fun q => !p.isPrefixOf q && !q.isPrefixOf p) && areApart ps

/-! ## §3 Values -/

/-- What comes after blanks, line ends and comments. -/
def skipLines : (fuel : Nat) → List Char → List Char
  | 0, cs => cs
  | fuel + 1, cs =>
    match skipGaps cs with
    | '#' :: rest => skipLines fuel (rest.dropWhile isInLine)
    | rest => rest

mutual
/-- Reads a value. -/
def readValue? : (fuel : Nat) → List Char → Option (Value × List Char)
  | 0, _ => none
  | fuel + 1, cs =>
    match cs with
    | '[' :: rest => (readItems? fuel rest).map fun (items, rest) => (.array items, rest)
    | '{' :: rest =>
      match rest.dropWhile isBlank with
      | '}' :: rest => some (.table [], rest)
      | _ => do
        let (entries, rest) ← readEntries? fuel rest
        if areApart (entries.map (·.1)) then return (.table entries, rest) else none
    | '"' :: _ | '\'' :: _ => (readText? cs).map fun (s, rest) => (.text s, rest)
    | _ => (afterLiteral? cs).map (.literal, ·)

/-- Reads the items of an array up to and past its end. They may be on several lines, and a comma may
stand after the last one. -/
def readItems? : (fuel : Nat) → List Char → Option (List Value × List Char)
  | 0, _ => none
  | fuel + 1, cs =>
    match skipLines (cs.length + 1) cs with
    | ']' :: rest => some ([], rest)
    | cs => do
      let (v, cs) ← readValue? fuel cs
      match skipLines (cs.length + 1) cs with
      | ',' :: rest =>
        let (vs, rest) ← readItems? fuel rest
        return (v :: vs, rest)
      | ']' :: rest => return ([v], rest)
      | _ => none

/-- Reads the entries of a table on one line up to and past its end. There is at least one. -/
def readEntries? : (fuel : Nat) → List Char → Option (List (Path × Value) × List Char)
  | 0, _ => none
  | fuel + 1, cs => do
    match ← readPath? (cs.length + 1) cs with
    | (path, '=' :: cs) =>
      let (v, cs) ← readValue? fuel (cs.dropWhile isBlank)
      match cs.dropWhile isBlank with
      | ',' :: rest =>
        let (entries, rest) ← readEntries? fuel rest
        return ((path, v) :: entries, rest)
      | '}' :: rest => return ([(path, v)], rest)
      | _ => none
    | _ => none
end

/-! ## §4 Statements -/

/-- What comes after the end of a line, which may have a comment. -/
def finishLine? (cs : List Char) : Option (List Char) :=
  let cs :=
    match cs.dropWhile isBlank with
    | '#' :: rest => rest.dropWhile isInLine
    | rest => rest
  if cs.isEmpty then some [] else afterLineEnd? cs

namespace Statement

/-- Reads a statement. -/
def read? (cs : List Char) : Option (Statement × List Char) :=
  let fuel := cs.length + 1
  match cs with
  | '[' :: '[' :: rest => do
    match ← readPath? fuel rest with
    | (path, ']' :: ']' :: rest) => return (header path true, rest)
    | _ => none
  | '[' :: rest => do
    match ← readPath? fuel rest with
    | (path, ']' :: rest) => return (header path false, rest)
    | _ => none
  | _ => do
    match ← readPath? fuel cs with
    | (path, '=' :: rest) =>
      let (v, rest) ← readValue? fuel (rest.dropWhile isBlank)
      return (entry path v, rest)
    | _ => none

/-- Reads statements up to the end. -/
def readAll? : (fuel : Nat) → List Char → Option (List Statement)
  | 0, _ => none
  | fuel + 1, cs =>
    match skipLines (cs.length + 1) cs with
    | [] => some []
    | cs => do
      let (s, cs) ← read? cs
      let cs ← finishLine? cs
      return s :: (← readAll? fuel cs)

/-- The statements of a text. A mark of the order of bytes may stand before them. -/
def ofText? (text : String) : Option (List Statement) :=
  let cs :=
    match text.toList with
    | '\ufeff' :: rest => rest
    | cs => cs
  readAll? (cs.length + 1) cs

end Statement

end AggregateNaming.Toml
