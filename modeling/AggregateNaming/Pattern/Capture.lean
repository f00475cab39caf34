import AggregateNaming.Pattern.Search

/-!
# Captures

Which match of a pattern is the preferred one, and what its groups remember. Of all matches the one
that begins first is preferred; of those, the earlier alternative and the greedier (or lazier)
repetition, the leftmost choice first.

A walk through the pattern makes these choices in order and takes a choice back when it cannot be
completed. No point of the pattern is come to twice at one place of the text: what follows from
there has been tried already, or is just being tried. So a repetition does not turn without end
where its pattern matches the empty text.

- `walk` : the preferred way through a pattern from a place on.
- `find` : what the groups remember of the preferred match in a text.
-/

namespace AggregateNaming.Pattern

/-! ## §1 Attempts -/

/-- A stretch that a group matched. -/
structure GroupSpan where
  /-- The number of the group. -/
  group : Nat
  start : Nat
  stop : Nat
  deriving Repr, DecidableEq

/-- The stretches that groups matched, in the order in which they were completed. -/
abbrev Way := List GroupSpan

/-- What a group remembers: the stretch that it matched last. -/
def Way.captured? (w : Way) (group : Nat) : Option GroupSpan :=
  w.reverse.find? (·.group == group)

/-- For each place of a text, the points of a pattern that a walk has come to there. -/
abbrev Marks := Array (List Nat)

/-- An attempt to complete a match: the way to the end, if there is one. Where it has been stays
marked even if it fails. -/
abbrev Attempt := Marks → Option Way × Marks

namespace Attempt

/-- There is no way. -/
def fail : Attempt := fun m => (none, m)

/-- Two attempts, the second one only if the first fails. -/
def orElse (a b : Attempt) : Attempt := fun m =>
  match a m with
  | (none, m) => b m
  | done => done

/-- Two attempts, the first one preferred when `greedy`. -/
def prefer (greedy : Bool) (on off : Attempt) : Attempt :=
  if greedy then on.orElse off else off.orElse on

/-- An attempt that begins when a group has matched a stretch. -/
def after (s : GroupSpan) (a : Attempt) : Attempt := fun m =>
  match a m with
  | (some w, m) => (some (s :: w), m)
  | failed => failed

/-- An attempt from a point of a pattern and a place of a text, unless the walk has been there. -/
def visit (point place : Nat) (a : Attempt) : Attempt := fun m =>
  if (m.getD place []).contains point then (none, m) else a (m.modify place (point :: ·))

end Attempt

/-! ## §2 Repetitions

`body c next i` is an attempt that matches the repeated pattern from the place `i` on and goes on
with `next`. The number `c` tells the turns apart that have points of their own. -/

/-- A number of turns that are needed, from the turn `c` on. -/
def needed (body : Nat → (Nat → Attempt) → Nat → Attempt) :
    (count c : Nat) → (next : Nat → Attempt) → Nat → Attempt
  | 0, _, next => next
  | count + 1, c, next => body c (needed body count (c + 1) next)

/-- A number of turns at most, from the turn `c` on. Before each of them is a point at which the
repetition may end. -/
def atMost (body : Nat → (Nat → Attempt) → Nat → Attempt) (point : Nat → Nat) (greedy : Bool) :
    (count c : Nat) → (next : Nat → Attempt) → Nat → Attempt
  | 0, _, next, i => next i
  | count + 1, c, next, i =>
    .visit (point c) i
      (.prefer greedy (body c (atMost body point greedy count (c + 1) next) i) (next i))

/-- Any number of turns. Before each of them the walk comes to the same point, so that there is no
more than one turn from any place. -/
def turns (body : (Nat → Attempt) → Nat → Attempt) (point : Nat) (greedy : Bool)
    (next : Nat → Attempt) : (fuel : Nat) → Nat → Attempt
  | 0, _ => .fail
  | fuel + 1, i =>
    .visit point i (.prefer greedy (body (turns body point greedy next fuel) i) (next i))

/-! ## §3 Walks -/

/-- Whether a pattern may match the empty text, as far as its form shows. -/
def mayBeEmpty : Pattern → Bool
  | .empty | .assertion _ => true
  | .set _ => false
  | .group _ p => p.mayBeEmpty
  | .concat p q => p.mayBeEmpty && q.mayBeEmpty
  | .alternate p q => p.mayBeEmpty || q.mayBeEmpty
  | .repeated p least _ _ => least == 0 || p.mayBeEmpty

/-- How many points a pattern has: one for itself and those of its parts. A repetition has one more
for its turns, and each turn that is counted has points of its own. -/
def points : Pattern → Nat
  | .empty | .set _ | .assertion _ => 1
  | .group _ p => 1 + p.points
  | .concat p q | .alternate p q => 1 + p.points + q.points
  | .repeated p least more _ => 2 + (least + more.getD 1) * (1 + p.points)

/-- The preferred way through a pattern from a place on, to go on with `next`. The points of the
pattern are numbered from `point` on. -/
def walk (t : Array Char) : Pattern → (point : Nat) → (next : Nat → Attempt) → Nat → Attempt
  | .empty, _, next, i => next i
  | .set s, _, next, i => if t[i]?.any s.mem then next (i + 1) else .fail
  | .assertion a, _, next, i => if a.holds (before? t i) t[i]? then next i else .fail
  | .group n p, point, next, i =>
    .visit point i (walk t p (point + 1) (fun j => .after ⟨n, i, j⟩ (next j)) i)
  | .concat p q, point, next, i =>
    walk t p (point + 1) (walk t q (point + 1 + p.points) next) i
  | .alternate p q, point, next, i =>
    .visit point i
      (.orElse (walk t p (point + 1) next i) (walk t q (point + 1 + p.points) next i))
  | .repeated p least more greedy, point, next, i =>
    let first := fun c => point + 2 + c * (1 + p.points)
    let body := fun c => walk t p (first c + 1)
    let all := turns (body (least - 1)) (point + 1) greedy next (t.size + 2)
    .visit point i <|
      match least, more with
      | least, some more => needed body least 0 (atMost body first greedy more least next) i
      | 0, none =>
        if p.mayBeEmpty then .prefer greedy (body 0 all i) (next i) else all i
      | least + 1, none => needed body (least + 1) 0 all i

/-- What the groups remember of the preferred match of a pattern in a text. Where a match begins,
there is a way through the pattern. -/
def find (p : Pattern) (t : List Char) : Option Way :=
  let t := t.toArray
  (starts t p (places t)).min?.bind fun i =>
    (walk t p 0 (fun _ m => (some [], m)) i (.replicate (t.size + 1) [])).1

end AggregateNaming.Pattern
