/-!
# Nodes

The tree that a marked-up text stands for: scalars, sequences and mappings, each with a tag if one is
written.
-/

namespace AggregateNaming.Markup

/-- How a scalar is written. -/
inductive ScalarStyle where
  /-- Without marks around it. -/
  | plain
  | singleQuoted
  | doubleQuoted
  /-- Indented under a bar, line for line. -/
  | literal
  /-- Indented under an angle bracket, with lines joined. -/
  | folded
  deriving Repr, DecidableEq

/-- A scalar. -/
structure Scalar where
  tag : Option String := none
  style : ScalarStyle := .plain
  text : String
  deriving Repr, DecidableEq

/-- A node of the tree. -/
inductive Node where
  | scalar (s : Scalar)
  | sequence (tag : Option String) (items : List Node)
  /-- A mapping, as the pairs of keys and values in the order in which they are written. -/
  | mapping (tag : Option String) (entries : List (Node × Node))
  deriving Repr

end AggregateNaming.Markup
