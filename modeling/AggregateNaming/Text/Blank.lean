import AggregateNaming.Text.CharTable

/-!
# Blank characters

The characters with the property `White_Space`, what it is for a text to be blank, and trimming.

- `isBlank` : the character has the property `White_Space`.
- `trimChars` : the characters without blanks at either end.
- `isBlankText` : there is nothing but blanks in the text.
-/

namespace AggregateNaming.Text

/-- The characters with the property `White_Space`. -/
def blanks : CharTable := .ofRanges [
  (0x9, 0xD), (0x20, 0x20), (0x85, 0x85), (0xA0, 0xA0), (0x1680, 0x1680), (0x2000, 0x200A),
  (0x2028, 0x2029), (0x202F, 0x202F), (0x205F, 0x205F), (0x3000, 0x3000)]

/-- Whether a character has the property `White_Space`. -/
def isBlank (c : Char) : Bool := blanks.contains c

/-- A list of characters without blanks at its end. -/
def trimEnd (cs : List Char) : List Char :=
  (cs.reverse.dropWhile isBlank).reverse

/-- A list of characters without blanks at either end. -/
def trimChars (cs : List Char) : List Char :=
  trimEnd (cs.dropWhile isBlank)

/-- A text is blank when it has no character but blanks. -/
def isBlankText (s : String) : Bool :=
  s.toList.all isBlank

end AggregateNaming.Text
