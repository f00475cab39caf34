import AggregateNaming.Text.Decimal
import AggregateNaming.Text.Split

/-!
# Literals

The words of TOML that are no texts: truth values, whole numbers of 64 bits, numbers with a point or an
exponent, dates and times. No setting takes any of them, so all that counts is which words they are.

- `isInteger`, `isDecimal`, `isDateTime` : the forms.
- `isLiteral` : a word of any of them.
-/

namespace AggregateNaming.Toml

/-! ## §1 Rows of digits -/

/-- A row of digits. Single underscores may stand between them. -/
def isRow (isDigit : Char → Bool) : List Char → Bool
  | [] => false
  | [c] => isDigit c
  | c :: '_' :: rest => isDigit c && isRow isDigit rest
  | c :: rest => isDigit c && isRow isDigit rest

/-- A row of decimal digits. -/
def isDecimalRow : List Char → Bool := isRow Char.isDigit

/-- A row of decimal digits that has no zero before another digit. -/
def isWholeRow (cs : List Char) : Bool := isDecimalRow cs && (cs.length == 1 || cs.head? != some '0')

/-- The digits of a row. -/
def rowDigits (cs : List Char) : List Char := cs.filter (· != '_')

/-- The number that a row of digits writes. -/
def rowValue (base : Nat) (cs : List Char) : Nat := (Text.number? base (rowDigits cs)).getD 0

/-- A word without its sign, and whether that is a minus. -/
def withoutSign : List Char → Bool × List Char
  | '-' :: rest => (true, rest)
  | '+' :: rest => (false, rest)
  | cs => (false, cs)

/-! ## §2 Numbers -/

/-- The least number that is too large for 64 bits with a sign. -/
def integerBound : Nat := Nat.pow 2 63

/-- A whole number in a base other than ten. -/
def isBased (base : Nat) (cs : List Char) : Bool :=
  isRow (fun c => (Text.hexDigit? c).any (· < base)) cs && rowValue base cs < integerBound

/-- A whole number of 64 bits. -/
def isInteger : List Char → Bool
  | '0' :: 'x' :: cs => isBased 16 cs
  | '0' :: 'o' :: cs => isBased 8 cs
  | '0' :: 'b' :: cs => isBased 2 cs
  | cs =>
    let (minus, cs) := withoutSign cs
    isWholeRow cs && rowValue 10 cs < integerBound + (if minus then 1 else 0)

/-- A number with a point or an exponent or both, not so large that it would be infinite, where it has
no minus; or a word for infinity or for no number. -/
def isDecimal (cs : List Char) : Bool :=
  let (minus, cs) := withoutSign cs
  let (mantissa, exponent) := Text.splitWhere (fun c => c == 'e' || c == 'E') cs
  let (whole, fraction) := Text.splitWhere (· == '.') mantissa
  let (down, power) := withoutSign (exponent.getD ['0'])
  let places := fraction.getD []
  let shift : Int := (if down then -(rowValue 10 power : Int) else rowValue 10 power)
    - (rowDigits places).length
  cs == ['i', 'n', 'f'] || cs == ['n', 'a', 'n']
    || (isWholeRow whole && fraction.all isDecimalRow && isDecimalRow power
      && (fraction.isSome || exponent.isSome)
      && (minus || Text.isBelowTooGreat (rowDigits (whole ++ places)) shift))

/-! ## §3 Dates and times -/

/-- The number that a row of so many decimal digits writes, if it is in a range. -/
def fixedRow? (width low high : Nat) (cs : List Char) : Option Nat :=
  if cs.length == width && cs.all Char.isDigit then
    let n := rowValue 10 cs
    if low ≤ n && n ≤ high then some n else none
  else none

/-- How many days a month has. -/
def daysIn (year month : Nat) : Nat :=
  if month == 2 then
    if year % 4 == 0 && (year % 100 != 0 || year % 400 == 0) then 29 else 28
  else if [4, 6, 9, 11].contains month then 30
  else 31

/-- A date: year, month and day. -/
def isDate (cs : List Char) : Bool :=
  let day? := do
    let year ← fixedRow? 4 0 9999 (cs.take 4)
    let month ← fixedRow? 2 1 12 ((cs.drop 5).take 2)
    fixedRow? 2 1 (daysIn year month) (cs.drop 8)
  cs[4]? == some '-' && cs[7]? == some '-' && day?.isSome

/-- Hours and minutes. -/
def isHourMinute (cs : List Char) : Bool :=
  (fixedRow? 2 0 23 (cs.take 2)).isSome && cs[2]? == some ':' && (fixedRow? 2 0 59 (cs.drop 3)).isSome

/-- A time of day: hours, minutes, seconds and perhaps parts of a second. -/
def isTime (cs : List Char) : Bool :=
  let (clock, parts) := Text.splitWhere (· == '.') cs
  isHourMinute (clock.take 5) && clock[5]? == some ':' && (fixedRow? 2 0 60 (clock.drop 6)).isSome
    && parts.all fun ds => !ds.isEmpty && ds.all Char.isDigit

/-- A time of day, perhaps with its distance from universal time. -/
def isZonedTime (cs : List Char) : Bool :=
  let (clock, zone) := Text.splitWhere (fun c => c == '+' || c == '-') cs
  match zone with
  | some zone => isTime clock && isHourMinute zone
  | none => isTime cs || (cs.getLast?.any (fun c => c == 'Z' || c == 'z') && isTime cs.dropLast)

/-- A date, a time of day, or both with a mark between them. -/
def isDateTime (cs : List Char) : Bool :=
  let (date, time) := Text.splitWhere (fun c => c == 'T' || c == 't') cs
  match time with
  | some time => isDate date && isZonedTime time
  | none => isDate cs || isTime cs

/-! ## §4 Words -/

/-- The characters of words. -/
def isWordChar (c : Char) : Bool := c.isAlphanum || ['+', '-', '.', ':', '_'].contains c

/-- A word of any form. -/
def isLiteral (cs : List Char) : Bool :=
  cs == "true".toList || cs == "false".toList || isInteger cs || isDecimal cs || isDateTime cs

/-- What comes after a literal. A blank may stand between a date and a time. -/
def afterLiteral? (cs : List Char) : Option (List Char) :=
  let word := cs.takeWhile isWordChar
  let rest := cs.dropWhile isWordChar
  if !isLiteral word then none
  else
    match rest with
    | ' ' :: more =>
      if isDate word && isZonedTime (more.takeWhile isWordChar) then some (more.dropWhile isWordChar)
      else some rest
    | _ => some rest

end AggregateNaming.Toml
