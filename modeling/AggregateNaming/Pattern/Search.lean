import AggregateNaming.Pattern.Spans

/-!
# Searching

Whether a pattern matches somewhere in a text. The search walks through the pattern from its end to
its beginning with a set of places: if a match has to end at one of them, `starts` gives the places
at which it can begin. Nothing is tried twice and nothing is taken back.

- `starts` : the places from which a match can reach one of the given places.
- `accepts` : the pattern matches some stretch of the text.
-/

namespace AggregateNaming.Pattern

/-! ## §1 Sets of places -/

/-- The character before a place. -/
def before? (t : Array Char) : Nat → Option Char
  | 0 => none
  | i + 1 => t[i]?

/-- All places of a text. -/
def places (t : Array Char) : List Nat := List.range (t.size + 1)

/-- The places of two sets together. -/
def merge (K L : List Nat) : List Nat := L.foldr List.insert K

/-- Everything that `rounds` rounds of `step` add to the places reached so far. Only the places that
are new in a round are looked at in the next. -/
def spread (step : List Nat → List Nat) : (rounds : Nat) → (reached new : List Nat) → List Nat
  | 0, reached, _ => reached
  | rounds + 1, reached, new =>
    match (step new).filter (!reached.contains ·) with
    | [] => reached
    | fresh => spread step rounds (merge reached fresh) fresh

/-- How many rounds a repetition can need. A text has one place more than it has characters, and each
round but the last finds a new one. -/
def rounds (t : Array Char) : Option Nat → Nat
  | none => t.size + 1
  | some more => min more (t.size + 1)

/-! ## §2 Searching -/

/-- The places from which a match of a pattern can reach one of the places in `K`. -/
def starts (t : Array Char) : Pattern → (K : List Nat) → List Nat
  | .empty, K => K
  | .set s, K =>
    K.filterMap fun
      | 0 => none
      | i + 1 => if t[i]?.any s.mem then some i else none
  | .assertion a, K => K.filter fun i => a.holds (before? t i) t[i]?
  | .group _ p, K => starts t p K
  | .concat p q, K => starts t p (starts t q K)
  | .alternate p q, K => merge (starts t p K) (starts t q K)
  | .repeated p least more _, K =>
    Nat.repeat (starts t p) least (spread (starts t p) (rounds t more) K K)

/-- Whether a pattern matches some stretch of a text. -/
def accepts (p : Pattern) (t : List Char) : Bool :=
  !(starts t.toArray p (places t.toArray)).isEmpty

end AggregateNaming.Pattern
