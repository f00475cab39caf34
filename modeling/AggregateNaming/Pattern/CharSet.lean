import AggregateNaming.Text.CaseFolding
import AggregateNaming.Text.Word
import AggregateNaming.Text.Blank

/-!
# Character sets

What one place of a pattern may match: a set of characters, built from single characters, ranges
and tables by the operations of set algebra and by closing a set under changes of case.

- `CharSet.mem` : membership, by recursion on how the set is built.
- `CharSet.folded` : all characters that are the same up to case as a member.
-/

namespace AggregateNaming

/-- A set of characters. -/
inductive CharSet where
  | empty
  | single (c : Char)
  /-- All characters between two, both included. -/
  | range (first last : Char)
  | table (t : Text.CharTable)
  | complement (s : CharSet)
  | union (s t : CharSet)
  | inter (s t : CharSet)
  | diff (s t : CharSet)
  /-- The characters in exactly one of two sets. -/
  | symmDiff (s t : CharSet)
  /-- All characters that are the same up to case as a member. -/
  | folded (s : CharSet)
  /-- The members, and each ASCII letter whose other case is a member. -/
  | asciiFolded (s : CharSet)
  deriving Repr, DecidableEq

namespace CharSet

/-- An ASCII letter in its two cases; any other character alone. -/
def asciiVariants (c : Char) : List Char :=
  if c.isAlpha then [c.toLower, c.toUpper] else [c]

/-- Membership. -/
def mem : CharSet → Char → Bool
  | empty, _ => false
  | single d, c => c == d
  | range a b, c => a ≤ c && c ≤ b
  | table t, c => t.contains c
  | complement s, c => !s.mem c
  | union s t, c => s.mem c || t.mem c
  | inter s t, c => s.mem c && t.mem c
  | diff s t, c => s.mem c && !t.mem c
  | symmDiff s t, c => s.mem c != t.mem c
  | folded s, c => (Text.caseVariants c).any s.mem
  | asciiFolded s, c => (asciiVariants c).any s.mem

/-- Every character. -/
def all : CharSet := complement empty

/-- The characters of a list. -/
def ofList (cs : List Char) : CharSet :=
  cs.foldr (fun c s => union (single c) s) empty

/-- The characters that are the same up to case as one. -/
def sameUpToCase (c : Char) : CharSet := ofList (Text.caseVariants c)

/-- The characters of a list of closed ranges. -/
def ofRanges (rs : List (Char × Char)) : CharSet :=
  rs.foldr (fun r s => union (range r.1 r.2) s) empty

end CharSet

end AggregateNaming
