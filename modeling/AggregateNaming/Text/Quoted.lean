import AggregateNaming.Text.Category
import AggregateNaming.Text.Property

/-!
# Quoted text

The form of a text between double quotes in which every character can be seen: control characters,
unassigned code points, blanks other than the space and marks that would join their neighbour are
written by their number.
-/

namespace AggregateNaming.Text

/-- The characters without a visible form of their own. -/
def invisible : CharTable :=
  categoriesTable [.control, .format, .unassigned, .privateUse, .lineSeparator,
    .paragraphSeparator, .spaceSeparator]

/-- The marks that join the character before them. -/
def joiningMarks : CharTable := propertyTable "graphemeextend"

/-- The form of one character between double quotes. -/
def quotedChar (c : Char) : List Char :=
  if c == '\x00' then ['\\', '0']
  else if c == '\t' then ['\\', 't']
  else if c == '\r' then ['\\', 'r']
  else if c == '\n' then ['\\', 'n']
  else if c == '\\' || c == '"' then ['\\', c]
  else if c != ' ' && (joiningMarks.contains c || invisible.contains c) then
    ['\\', 'u', '{'] ++ Nat.toDigits 16 c.toNat ++ ['}']
  else [c]

/-- A text between double quotes, each character in its visible form. -/
def quoted (s : String) : String :=
  .ofList (['"'] ++ s.toList.flatMap quotedChar ++ ['"'])

end AggregateNaming.Text
