import AggregateNaming.Pattern.CharSet

/-!
# Patterns

The tree of a pattern: what is left of a written pattern once flags, brackets and escapes have been
resolved to the sets of characters that they stand for.

- `Pattern` : the tree.
- `Assertion.holds` : when a zero-width assertion holds between two characters.
- `PatternError` : why a written pattern is refused.
-/

namespace AggregateNaming

/-! ## §1 Assertions -/

/-- A condition on a place of a text, decided by the characters on either side of it. For the
conditions on words, `unicode` says whether the word characters of all scripts count or only those
of ASCII. -/
inductive Assertion where
  | textStart
  | textEnd
  /-- At the start or after a line feed. -/
  | lineStart
  /-- At the end or before a line feed. -/
  | lineEnd
  /-- At the start or after a line end, where a carriage return and a line feed make one. -/
  | lineStartCrlf
  /-- At the end or before a line end, where a carriage return and a line feed make one. -/
  | lineEndCrlf
  | wordBoundary (unicode : Bool)
  | notWordBoundary (unicode : Bool)
  | wordStart (unicode : Bool)
  | wordEnd (unicode : Bool)
  /-- No word character before. -/
  | wordStartHalf (unicode : Bool)
  /-- No word character after. -/
  | wordEndHalf (unicode : Bool)
  deriving Repr, DecidableEq

namespace Assertion

/-- Whether there is a character and it belongs to a word. -/
def isWord (unicode : Bool) : Option Char → Bool
  | none => false
  | some c => if unicode then Text.isWordChar c else Text.isAsciiWordChar c

/-- Whether an assertion holds between the character before a place and the one after it, each of
them absent at an end of the text. -/
def holds (before after : Option Char) : Assertion → Bool
  | textStart => before.isNone
  | textEnd => after.isNone
  | lineStart => before.isNone || before == some '\n'
  | lineEnd => after.isNone || after == some '\n'
  | lineStartCrlf =>
    before.isNone || before == some '\n' || (before == some '\r' && after != some '\n')
  | lineEndCrlf =>
    after.isNone || after == some '\r' || (after == some '\n' && before != some '\r')
  | wordBoundary u => isWord u before != isWord u after
  | notWordBoundary u => isWord u before == isWord u after
  | wordStart u => !isWord u before && isWord u after
  | wordEnd u => isWord u before && !isWord u after
  | wordStartHalf u => !isWord u before
  | wordEndHalf u => !isWord u after

end Assertion

/-! ## §2 Trees -/

/-- A pattern. -/
inductive Pattern where
  /-- The empty text. -/
  | empty
  /-- One character of a set. -/
  | set (s : CharSet)
  /-- A place where an assertion holds. -/
  | assertion (a : Assertion)
  /-- A pattern whose match is remembered under a number. -/
  | group (index : Nat) (p : Pattern)
  /-- One pattern after another. -/
  | concat (p q : Pattern)
  /-- One of two patterns, the first preferred. -/
  | alternate (p q : Pattern)
  /-- A pattern `least` times, then up to `more` times more, or any number of times more. A greedy
  repetition prefers more. -/
  | repeated (p : Pattern) (least : Nat) (more : Option Nat) (greedy : Bool)
  deriving Repr, DecidableEq

namespace Pattern

/-- One pattern after another, for a whole list. -/
def concatAll : List Pattern → Pattern
  | [] => empty
  | [p] => p
  | p :: ps => concat p (concatAll ps)

/-- The patterns that follow one another in a pattern. -/
def row : Pattern → List Pattern
  | empty => []
  | concat p q => p.row ++ q.row
  | p => [p]

/-- The patterns of which a pattern matches one. -/
def alternatives : Pattern → List Pattern
  | alternate p q => p.alternatives ++ q.alternatives
  | p => [p]

/-- What two rows have in common at their beginnings. -/
def commonStart : List Pattern → List Pattern → List Pattern
  | p :: ps, q :: qs => if p = q then p :: commonStart ps qs else []
  | _, _ => []

/-- What several rows all begin with. A row of a single pattern is not taken apart. -/
def sharedStart : List (List Pattern) → List Pattern
  | [] => []
  | r :: rs =>
    if (r :: rs).all fun r => decide (2 ≤ r.length) then rs.foldl commonStart r else []

/-- One pattern of a list, earlier ones preferred; no pattern at all is the empty one. -/
def firstOf : List Pattern → Pattern
  | [] => empty
  | [p] => p
  | p :: ps => alternate p (firstOf ps)

/-- One pattern of a list. What all of them begin with is matched first, once for all; of what
remains of them, earlier ones are preferred. -/
def alternateAll (ps : List Pattern) : Pattern :=
  let rows := (ps.flatMap alternatives).map row
  match ps, sharedStart rows with
  | _ :: _ :: _, p :: start =>
    concatAll (p :: start ++ [firstOf (rows.map fun r => concatAll (r.drop (start.length + 1)))])
  | _, _ => firstOf ps

/-- A pattern between `least` and `most` times. Never repeated at all, it leaves nothing behind,
and so takes the numbers of its groups with it. -/
def times (p : Pattern) (least : Nat) (most : Option Nat) (greedy : Bool) : Pattern :=
  if most = some 0 then empty
  else if least = 1 ∧ most = some 1 then p
  else repeated p least (most.map (· - least)) greedy

/-- The numbers of the groups of a pattern. -/
def groupIndices : Pattern → List Nat
  | empty | set _ | assertion _ => []
  | group i p => i :: p.groupIndices
  | concat p q | alternate p q => p.groupIndices ++ q.groupIndices
  | repeated p _ _ _ => p.groupIndices

/-- How many groups a pattern counts: as many as the greatest number that one of them has. -/
def groupCount (p : Pattern) : Nat := p.groupIndices.foldl max 0

end Pattern

/-! ## §3 Refusals -/

/-- Why a written pattern is refused. -/
inductive PatternError where
  | unclosedGroup
  | unopenedGroup
  | emptyGroupName
  | badGroupName
  | repeatedGroupName (name : String)
  | lookAround
  | unknownFlag (c : Char)
  | repeatedFlag
  | danglingFlagNegation
  | repetitionWithoutPattern
  | badRepetition
  | unclosedBracket
  | badBracketItem
  | badRange
  | unfinishedEscape
  | unknownEscape (c : Char)
  | badHexEscape
  | backReference
  | unknownProperty
  | unknownWordBoundary
  /-- A construct that would reach outside of ASCII where only ASCII is in force. -/
  | notAscii
  deriving Repr, DecidableEq

/-- The words for a refused pattern. The reason is not given: this mark stands in its place. -/
def PatternError.message (_ : PatternError) : String := "<regex error>"

end AggregateNaming
