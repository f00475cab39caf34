/-!
# JSON values

Values as JSON has them, and their text over several lines: two spaces for every level, one line for
every item and every member.

- `Json` : the values.
- `Json.quoted` : a text between double quotes.
- `Json.print` : the text of a value.
-/

namespace AggregateNaming

/-- A value as JSON has it. -/
inductive Json where
  | null
  | bool (b : Bool)
  /-- A number, by the text that writes it. -/
  | number (literal : String)
  | text (s : String)
  | array (items : List Json)
  /-- Values by name, in the order in which they are written. -/
  | object (members : List (String × Json))
  deriving Inhabited, Repr

namespace Json

/-- A count. -/
def ofNat (n : Nat) : Json := .number (toString n)

/-! ## §1 Texts -/

/-- The form of one character between double quotes. Only quotes, backslashes and control characters
are not written as they are. -/
def quotedChar (c : Char) : List Char :=
  if c == '"' || c == '\\' then ['\\', c]
  else if c == '\x08' then ['\\', 'b']
  else if c == '\x0c' then ['\\', 'f']
  else if c == '\n' then ['\\', 'n']
  else if c == '\r' then ['\\', 'r']
  else if c == '\t' then ['\\', 't']
  else if c.toNat < 0x20 then
    ['\\', 'u', '0', '0', Nat.digitChar (c.toNat / 16), Nat.digitChar (c.toNat % 16)]
  else [c]

/-- A text between double quotes. -/
def quoted (s : String) : String :=
  .ofList (['"'] ++ s.toList.flatMap quotedChar ++ ['"'])

/-! ## §2 Values -/

/-- The blanks at the beginning of a line. -/
def indent (depth : Nat) : String := .ofList (List.replicate (2 * depth) ' ')

/-- Entries between two marks, one on a line. Where there are none, the marks stand side by side. -/
def block (depth : Nat) (opening closing : String) (entries : List String) : String :=
  if entries.isEmpty then opening ++ closing
  else
    opening ++ "\n" ++ ",\n".intercalate (entries.map (indent (depth + 1) ++ ·)) ++ "\n"
      ++ indent depth ++ closing

mutual
/-- The text of a value that begins on a line indented by `depth` levels. -/
def printAt (depth : Nat) : Json → String
  | .null => "null"
  | .bool true => "true"
  | .bool false => "false"
  | .number literal => literal
  | .text s => quoted s
  | .array items => block depth "[" "]" (printItems (depth + 1) items)
  | .object members => block depth "\x7b" "\x7d" (printMembers (depth + 1) members)

/-- The texts of items. -/
def printItems (depth : Nat) : List Json → List String
  | [] => []
  | j :: rest => printAt depth j :: printItems depth rest

/-- The texts of members, each after its name. -/
def printMembers (depth : Nat) : List (String × Json) → List String
  | [] => []
  | (name, j) :: rest => (quoted name ++ ": " ++ printAt depth j) :: printMembers depth rest
end

/-- The text of a value. -/
def print (j : Json) : String := printAt 0 j

end Json

end AggregateNaming
