import AggregateNaming.Markup.Node
import AggregateNaming.Text.Decimal

/-!
# Values of scalars

What the text of a scalar stands for where no type is asked for: nothing, a truth value, a number or
a text. A tag decides first; without one, only scalars without marks stand for anything but text.

- `unsigned?` and `negative?` : whole numbers.
- `isFiniteDecimal` : decimal numbers that a floating point number of 64 bits can come near to.
- `Scalar.value?` : what a scalar stands for.
-/

namespace AggregateNaming.Markup

/-! ## §1 Words -/

/-- Whether a text is a word for nothing. -/
def isNullWord (s : String) : Bool := ["null", "Null", "NULL", "~"].contains s

/-- The truth value that a text is a word for. -/
def boolWord? (s : String) : Option Bool :=
  if ["true", "True", "TRUE"].contains s then some true
  else if ["false", "False", "FALSE"].contains s then some false
  else none

/-! ## §2 Whole numbers -/

/-- A sign. -/
def isSign (c : Char) : Bool := c == '+' || c == '-'

/-- A row of digits with a zero before others, which is not a number. -/
def isPadded (cs : List Char) : Bool :=
  match (if cs.head?.any isSign then cs.drop 1 else cs) with
  | '0' :: d :: rest => (d :: rest).all Char.isDigit
  | _ => false

/-- The number in a base other than ten that follows a mark for the base. -/
def based? : List Char → Option Nat
  | '0' :: 'x' :: rest => Text.number? 16 rest
  | '0' :: 'o' :: rest => Text.number? 8 rest
  | '0' :: 'b' :: rest => Text.number? 2 rest
  | _ => none

/-- A whole number that is not negative, with or without a plus sign. -/
def unsigned? (cs : List Char) : Option Nat :=
  let body := if cs.head? == some '+' then cs.drop 1 else cs
  (based? body).or (if isPadded cs then none else Text.number? 10 body)

/-- The size of a whole number with a minus sign. -/
def negative? : List Char → Option Nat
  | '-' :: body => (based? body).or (if isPadded body then none else Text.number? 10 body)
  | _ => none

/-! ## §3 Decimal numbers -/

/-- An exponent after its letter. -/
def exponent? (cs : List Char) : Option Int :=
  match cs with
  | '-' :: digits => (Text.number? 10 digits).map fun n => -(n : Int)
  | '+' :: digits => (Text.number? 10 digits).map fun n => (n : Int)
  | digits => (Text.number? 10 digits).map fun n => (n : Int)

/-- Whether a text is a decimal number, with or without a minus sign, that is not too great. -/
def isFiniteDecimal (cs : List Char) : Bool :=
  let cs := if cs.head?.any isSign then cs.drop 1 else cs
  let (whole, cs) := cs.span Char.isDigit
  let (fraction, cs) :=
    match cs with
    | '.' :: rest => rest.span Char.isDigit
    | cs => ([], cs)
  let digits := whole ++ fraction
  if digits.isEmpty then false
  else
    match cs with
    | [] => Text.isBelowTooGreat digits (-(fraction.length : Int))
    | 'e' :: rest | 'E' :: rest =>
      match exponent? rest with
      | some e => Text.isBelowTooGreat digits (e - fraction.length)
      | none => false
    | _ => false

/-- Whether a text is a floating point number, which may be infinite or no number at all. -/
def isFloat (cs : List Char) : Bool :=
  let s := String.ofList cs
  let body := if cs.head? == some '+' then cs.drop 1 else cs
  if cs.head? == some '+' && body.head?.any isSign then false
  else
    [".inf", ".Inf", ".INF"].contains (String.ofList body)
      || ["-.inf", "-.Inf", "-.INF", ".nan", ".NaN", ".NAN"].contains s
      || isFiniteDecimal body

/-! ## §4 Values -/

/-- What a scalar stands for where no type is asked for. -/
inductive Value where
  | null
  | bool (b : Bool)
  /-- A whole number of 64 bits that is not negative. -/
  | natural (n : Nat)
  /-- Any other number. -/
  | number
  | text (s : String)
  deriving Repr, DecidableEq

/-- The value of a whole number; nothing, if the text is one of more than 64 bits and at most 128.
Beyond that, it is not read as one, which the outer option says. -/
def wholeValue? (cs : List Char) : Option (Option Value) :=
  match unsigned? cs, negative? cs with
  | some n, _ =>
    if n < Nat.pow 2 64 then some (some (.natural n))
    else if n < Nat.pow 2 128 then some none
    else none
  | none, some n =>
    if n ≤ Nat.pow 2 63 then some (some .number)
    else if n ≤ Nat.pow 2 127 then some none
    else none
  | none, none => none

/-- What the text of a scalar without marks stands for. -/
def plainValue? (s : String) : Option Value :=
  if s.isEmpty || isNullWord s then some .null
  else
    match boolWord? s with
    | some b => some (.bool b)
    | none =>
      match wholeValue? s.toList with
      | some v => v
      | none => some (if !isPadded s.toList && isFloat s.toList then .number else .text s)

/-- The beginning that the tags of the basic types have in common. -/
def coreTag : String := "tag:yaml.org,2002:"

/-- Whether a tag is not one of those that have a meaning everywhere. -/
def isLocalTag (tag : Option String) : Bool := tag.any (·.startsWith "!")

/-- What a scalar stands for. Nothing, where its tag forbids its text or has a meaning that only the
reader of a type could know. -/
def Scalar.value? (s : Scalar) : Option Value :=
  if isLocalTag s.tag then none
  else if s.tag == some (coreTag ++ "bool") then (boolWord? s.text).map .bool
  else if s.tag == some (coreTag ++ "int") then (wholeValue? s.text.toList).join
  else if s.tag == some (coreTag ++ "float") then
    if isFloat s.text.toList then some .number else none
  else if s.tag == some (coreTag ++ "null") then
    if isNullWord s.text then some .null else none
  else if s.tag.isNone && s.style == .plain then plainValue? s.text
  else some (.text s.text)

mutual
/-- Whether every scalar of a node stands for something, and no tag for more than that. -/
def Node.hasValue : Node → Bool
  | .scalar s => s.value?.isSome
  | .sequence tag items => !isLocalTag tag && itemsHaveValue items
  | .mapping tag entries => !isLocalTag tag && entriesHaveValue entries

/-- The same for every node of a list. -/
def itemsHaveValue : List Node → Bool
  | [] => true
  | n :: ns => n.hasValue && itemsHaveValue ns

/-- The same for every key and value of a list. -/
def entriesHaveValue : List (Node × Node) → Bool
  | [] => true
  | (k, v) :: es => k.hasValue && v.hasValue && entriesHaveValue es
end

end AggregateNaming.Markup
