import AggregateNaming.Pattern.Basic

/-!
# Spans

What it means for a pattern to match a stretch of a text, said on its own and not through a search.
A place of a text is a number: how many characters come before it.

- `charBefore` and `charAfter` : the characters on either side of a place.
- `Pattern.Spans` : a pattern matches the stretch between two places of a text.
- `Pattern.MatchesWhole` : a pattern matches the stretch that is the whole text.
-/

namespace AggregateNaming.Pattern

/-- The character before a place. -/
def charBefore (t : List Char) : Nat → Option Char
  | 0 => none
  | i + 1 => t[i]?

/-- The character after a place. -/
def charAfter (t : List Char) (i : Nat) : Option Char := t[i]?

/-- `Spans t p i j`: the pattern `p` matches the stretch of the text `t` from the place `i` up to the
place `j`. -/
inductive Spans (t : List Char) : Pattern → Nat → Nat → Prop where
  /-- The empty pattern matches at every place. -/
  | empty : i ≤ t.length → Spans t .empty i i
  /-- A set matches one of its members. -/
  | set : t[i]? = some c → s.mem c = true → Spans t (.set s) i (i + 1)
  /-- An assertion matches at the places where it holds. -/
  | assertion : i ≤ t.length → a.holds (charBefore t i) (charAfter t i) = true →
      Spans t (.assertion a) i i
  /-- A group matches what its pattern matches. -/
  | group : Spans t p i j → Spans t (.group n p) i j
  /-- The stretches of two patterns in a row lie end to end. -/
  | concat : Spans t p i j → Spans t q j k → Spans t (.concat p q) i k
  /-- The first alternative may match. -/
  | left : Spans t p i j → Spans t (.alternate p q) i j
  /-- The second alternative may match. -/
  | right : Spans t q i j → Spans t (.alternate p q) i j
  /-- A repetition may stop as soon as nothing is needed any more. -/
  | done : i ≤ t.length → Spans t (.repeated p 0 more greedy) i i
  /-- A repetition must go on while one is still needed. -/
  | needed : Spans t p i j → Spans t (.repeated p least more greedy) j k →
      Spans t (.repeated p (least + 1) more greedy) i k
  /-- A bounded repetition may go on while there is room. -/
  | further : Spans t p i j → Spans t (.repeated p 0 (some room) greedy) j k →
      Spans t (.repeated p 0 (some (room + 1)) greedy) i k
  /-- An unbounded repetition may always go on. -/
  | always : Spans t p i j → Spans t (.repeated p 0 none greedy) j k →
      Spans t (.repeated p 0 none greedy) i k

/-- A pattern matches the stretch that is the whole text. -/
def MatchesWhole (p : Pattern) (t : List Char) : Prop := Spans t p 0 t.length

end AggregateNaming.Pattern
