/-!
# Character tables

Sets and maps of characters given by a few numbers: a table of code point ranges, a table written
as text in hexadecimal, and a table of runs that map a stretch of code points to another stretch.

## What a table means

- `CharTable.contains` : membership in a list of closed ranges.
- `CharTable.ofText` : the table written as words `first`, `first-last` or `first-last/2`, the
  last of which takes every second code point.
- `CaseRun.image?` and `CaseRun.preimage?` : the two directions of one run of a character map.
-/

namespace AggregateNaming.Text

/-! ## §1 Sets of characters -/

/-- One stretch of code points: every `step`-th one from `first` up to `last`. -/
structure CharRange where
  first : Nat
  last : Nat
  step : Nat
  deriving Repr, DecidableEq

/-- A code point lies in a stretch when it is between the ends and a whole number of steps away
from the first. -/
def CharRange.contains (r : CharRange) (n : Nat) : Bool :=
  r.first ≤ n && n ≤ r.last && (n - r.first) % r.step == 0

/-- A set of characters, as stretches of code points. -/
abbrev CharTable := List CharRange

namespace CharTable

/-- A character is in a table when one of the stretches holds it. -/
def contains (t : CharTable) (c : Char) : Bool :=
  t.any (·.contains c.toNat)

/-- The table of the closed ranges `(first, last)`. -/
def ofRanges (rs : List (Nat × Nat)) : CharTable :=
  rs.map fun r => ⟨r.1, r.2, 1⟩

/-- The table that holds every character. -/
def full : CharTable := [⟨0, 0x10FFFF, 1⟩]

/-! ## §2 Tables written as text -/

/-- The value of a hexadecimal digit in capitals; any other character counts as zero. -/
def hexValue (c : Char) : Nat :=
  if '0' ≤ c ∧ c ≤ '9' then c.toNat - '0'.toNat
  else if 'A' ≤ c ∧ c ≤ 'F' then c.toNat - 'A'.toNat + 10
  else 0

/-- What has been read of the word in hand: its numbers so far and the one being read. -/
private structure Word where
  first : Option Nat := none
  last : Option Nat := none
  number : Option Nat := none

private def Word.digit (w : Word) (d : Nat) : Word :=
  { w with number := some (w.number.getD 0 * 16 + d) }

private def Word.mark (w : Word) : Word :=
  match w.first with
  | none => { first := w.number, last := none, number := none }
  | some _ => { w with last := w.number, number := none }

private def Word.range? (w : Word) : Option CharRange :=
  match w.first, w.last, w.number with
  | none, _, some n => some ⟨n, n, 1⟩
  | some a, none, some b => some ⟨a, b, 1⟩
  | some a, some b, some s => some ⟨a, b, s⟩
  | _, _, none => none

private def readWords : List Char → Word → CharTable
  | [], w => w.range?.toList
  | c :: cs, w =>
    if c == ' ' || c == '\n' then w.range?.toList ++ readWords cs {}
    else if c == '-' || c == '/' then readWords cs w.mark
    else readWords cs (w.digit (hexValue c))

/-- Reads a table from its text: words apart by blanks and line ends, each one `first`,
`first-last` or `first-last/step`, all numbers hexadecimal in capitals. -/
def ofText (s : String) : CharTable :=
  readWords s.toList {}

/-- Membership in a table whose text is given as a list of characters. -/
theorem contains_ofText_ofList (cs : List Char) (c : Char) :
    (ofText (String.ofList cs)).contains c = (readWords cs {}).contains c := by
  rw [ofText, String.toList_ofList]

end CharTable

/-! ## §3 Maps of characters -/

/-- One run of a character map: the code points `first`, `first + step`, …, `last` go to the code
points the same distance above `target`. -/
structure CaseRun where
  first : Nat
  last : Nat
  step : Nat
  target : Nat
  deriving Repr, DecidableEq

namespace CaseRun

/-- The run of the four numbers of a table row. -/
def ofRow (row : Nat × Nat × Nat × Nat) : CaseRun :=
  ⟨row.1, row.2.1, row.2.2.1, row.2.2.2⟩

/-- The image of a code point that the run moves. -/
def image? (r : CaseRun) (n : Nat) : Option Nat :=
  if r.first ≤ n ∧ n ≤ r.last ∧ (n - r.first) % r.step = 0 then
    some (r.target + (n - r.first))
  else none

/-- The code point that the run moves to `n`. -/
def preimage? (r : CaseRun) (n : Nat) : Option Nat :=
  let source := r.first + (n - r.target)
  if r.target ≤ n ∧ source ≤ r.last ∧ (n - r.target) % r.step = 0 then some source else none

/-- The image of a code point under a list of runs: the first run that moves it decides, and a code
point that no run moves stays. -/
def applyAll (runs : List CaseRun) (n : Nat) : Nat :=
  (runs.findSome? (·.image? n)).getD n

end CaseRun

end AggregateNaming.Text
