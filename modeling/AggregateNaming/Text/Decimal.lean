import AggregateNaming.Text.Digit

/-!
# Great decimal numbers

Which decimal numbers are too great for a floating point number of 64 bits.

- `tooGreat` : the least number that is rounded up to infinity.
- `isBelowTooGreat` : whether a decimal number is less than that.
-/

namespace AggregateNaming.Text

/-- The least number that is too great: it lies halfway between the greatest floating point number of
64 bits and the next power of two. -/
def tooGreat : Nat := Nat.pow 2 1024 - Nat.pow 2 970

/-- Whether `digits · 10 ^ exponent` is less than the least number that is too great. The number of
digits decides but for numbers close to it. -/
def isBelowTooGreat (digits : List Char) (exponent : Int) : Bool :=
  let digits := digits.dropWhile (· == '0')
  let size : Int := digits.length + exponent
  if digits.isEmpty || size < 300 then true
  else if size > 310 then false
  else
    let n := (number? 10 digits).getD 0
    if 0 ≤ exponent then n * Nat.pow 10 exponent.toNat < tooGreat
    else n < tooGreat * Nat.pow 10 (-exponent).toNat

end AggregateNaming.Text
