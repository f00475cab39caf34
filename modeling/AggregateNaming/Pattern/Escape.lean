/-!
# Escaping

A text written so that, read as a pattern, it stands for itself: every character that has a meaning
in patterns gets a backslash.
-/

namespace AggregateNaming.Pattern

/-- The characters that have a meaning of their own in patterns, some of them only inside of
brackets or where blanks and comments are allowed. -/
def isMeta (c : Char) : Bool :=
  ['\\', '.', '+', '*', '?', '(', ')', '|', '[', ']', '{', '}', '^', '$', '#', '&', '-',
    '~'].contains c

/-- One character, written so that it stands for itself. -/
def escapeChar (c : Char) : List Char :=
  if isMeta c then ['\\', c] else [c]

/-- A text, written so that every character of it stands for itself. -/
def escapeChars (cs : List Char) : List Char := cs.flatMap escapeChar

/-- A text, written so that every character of it stands for itself. -/
def escape (s : String) : String := .ofList (escapeChars s.toList)

end AggregateNaming.Pattern
