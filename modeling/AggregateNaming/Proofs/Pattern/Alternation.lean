import AggregateNaming.Proofs.Pattern.Language

/-!
# Alternatives and rows

What alternatives have in common at their beginnings is put in front of all of them. That changes the
tree, and not what is matched: a pattern made of several matches what one of them matches. Together
with the rows of patterns that follow one another, here is how what is matched depends on the parts
that a reader has put together.

## Main definitions

- `SameSpans` : two patterns match the same stretches of a text.

## Main statements

- `spans_concatAll_append_iff` : two rows in a row.
- `spans_alternateAll_iff` : one of several patterns.
- `SameSpans.concatAll`, `SameSpans.exists_mem_iff`, `SameSpans.times` : patterns with the same parts.
-/

namespace AggregateNaming.Pattern

variable {t : List Char} {p q : Pattern} {ps qs : List Pattern} {i j k : Nat}

/-! ## §1 Rows -/

theorem spans_empty_iff : Spans t .empty i j ↔ j = i ∧ i ≤ t.length := by
  constructor
  · intro h
    cases h with
    | empty hi => exact ⟨rfl, hi⟩
  · rintro ⟨rfl, hi⟩
    exact .empty hi

/-- What follows the empty pattern. -/
theorem spans_empty_concat_iff : Spans t (.concat .empty p) i k ↔ Spans t p i k := by
  rw [spans_concat_iff]
  constructor
  · rintro ⟨j, hempty, hp⟩
    obtain ⟨rfl, -⟩ := spans_empty_iff.mp hempty
    exact hp
  · intro hp
    exact ⟨i, .empty hp.start_le, hp⟩

/-- The first pattern of a row comes first. -/
theorem spans_concatAll_cons_iff :
    Spans t (concatAll (p :: ps)) i k ↔ ∃ j, Spans t p i j ∧ Spans t (concatAll ps) j k := by
  cases ps with
  | nil =>
    constructor
    · intro h
      exact ⟨k, h, .empty h.stop_le⟩
    · rintro ⟨j, hp, hrest⟩
      obtain ⟨rfl, -⟩ := spans_empty_iff.mp hrest
      exact hp
  | cons q qs => exact spans_concat_iff

/-- Two rows in a row. -/
theorem spans_concatAll_append_iff :
    Spans t (concatAll (ps ++ qs)) i k ↔
      ∃ j, Spans t (concatAll ps) i j ∧ Spans t (concatAll qs) j k := by
  induction ps generalizing i with
  | nil =>
    constructor
    · intro h
      exact ⟨i, .empty h.start_le, h⟩
    · rintro ⟨j, hempty, hrest⟩
      obtain ⟨rfl, -⟩ := spans_empty_iff.mp hempty
      exact hrest
  | cons p ps ih =>
    rw [List.cons_append, spans_concatAll_cons_iff]
    simp only [ih, spans_concatAll_cons_iff]
    constructor
    · rintro ⟨m, hp, j, hps, hqs⟩
      exact ⟨j, ⟨m, hp, hps⟩, hqs⟩
    · rintro ⟨j, ⟨m, hp, hps⟩, hqs⟩
      exact ⟨m, hp, j, hps, hqs⟩

/-- A pattern is the row of the patterns that follow one another in it. -/
theorem spans_row_iff : Spans t (concatAll p.row) i j ↔ Spans t p i j := by
  induction p generalizing i j with
  | concat p q ihp ihq =>
    rw [row, spans_concatAll_append_iff, spans_concat_iff]
    simp only [ihp, ihq]
  | empty => exact Iff.rfl
  | set => exact Iff.rfl
  | assertion => exact Iff.rfl
  | group => exact Iff.rfl
  | alternate => exact Iff.rfl
  | repeated => exact Iff.rfl

/-! ## §2 Alternatives -/

/-- A pattern matches what one of its alternatives matches. -/
theorem exists_alternatives_iff : (∃ q ∈ p.alternatives, Spans t q i j) ↔ Spans t p i j := by
  induction p with
  | alternate p q ihp ihq =>
    rw [spans_alternate_iff, ← ihp, ← ihq, alternatives]
    simp only [List.mem_append, or_and_right, exists_or]
  | empty => simp [alternatives]
  | set => simp [alternatives]
  | assertion => simp [alternatives]
  | group => simp [alternatives]
  | concat => simp [alternatives]
  | repeated => simp [alternatives]

theorem spans_firstOf_iff (hps : ps ≠ []) :
    Spans t (firstOf ps) i j ↔ ∃ p ∈ ps, Spans t p i j := by
  induction ps with
  | nil => exact absurd rfl hps
  | cons p ps ih =>
    cases ps with
    | nil => simp [firstOf]
    | cons q qs =>
      have hfirst : firstOf (p :: q :: qs) = .alternate p (firstOf (q :: qs)) := rfl
      rw [hfirst, spans_alternate_iff, ih (List.cons_ne_nil q qs),
        List.exists_mem_cons_iff _ p (q :: qs)]

/-- A pattern that is made of several matches what one of them matches. -/
theorem spans_alternateAll_iff (hps : ps ≠ []) :
    Spans t (alternateAll ps) i k ↔ ∃ p ∈ ps, Spans t p i k := by
  rcases alternateAll_cases ps with heq | ⟨start, rests, hne, hrows, heq⟩
  · rw [heq, spans_firstOf_iff hps]
  -- the rows that are compared stand for the same alternatives
  have hall : (∃ r ∈ (ps.flatMap alternatives).map row, Spans t (concatAll r) i k) ↔
      ∃ p ∈ ps, Spans t p i k := by
    constructor
    · rintro ⟨r, hr, h⟩
      obtain ⟨q, hq, rfl⟩ := List.mem_map.mp hr
      obtain ⟨p, hp, hq⟩ := List.mem_flatMap.mp hq
      exact ⟨p, hp, exists_alternatives_iff.mp ⟨q, hq, spans_row_iff.mp h⟩⟩
    · rintro ⟨p, hp, h⟩
      obtain ⟨q, hq, h⟩ := exists_alternatives_iff.mpr h
      exact ⟨q.row, List.mem_map_of_mem (List.mem_flatMap.mpr ⟨p, hp, hq⟩), spans_row_iff.mpr h⟩
  have hrests : rests.map concatAll ≠ [] := fun hnil => hne (List.map_eq_nil_iff.mp hnil)
  rw [heq, ← hall, hrows, spans_concatAll_append_iff]
  simp only [concatAll, spans_firstOf_iff hrests]
  constructor
  · rintro ⟨j, hstart, q, hq, h⟩
    obtain ⟨rest, hrest, rfl⟩ := List.mem_map.mp hq
    exact ⟨_, List.mem_map_of_mem hrest, spans_concatAll_append_iff.mpr ⟨j, hstart, h⟩⟩
  · rintro ⟨r, hr, h⟩
    obtain ⟨rest, hrest, rfl⟩ := List.mem_map.mp hr
    obtain ⟨j, hstart, h⟩ := spans_concatAll_append_iff.mp h
    exact ⟨j, hstart, _, List.mem_map_of_mem hrest, h⟩

/-! ## §3 Patterns with the same parts -/

/-- Two patterns match the same stretches of a text. -/
def SameSpans (t : List Char) (p q : Pattern) : Prop := ∀ i j, Spans t p i j ↔ Spans t q i j

namespace SameSpans

protected theorem refl (p : Pattern) : SameSpans t p p := fun _ _ => Iff.rfl

protected theorem concat {p' q' : Pattern} (hp : SameSpans t p p') (hq : SameSpans t q q') :
    SameSpans t (.concat p q) (.concat p' q') := by
  intro i k
  simp only [spans_concat_iff, hp _ _, hq _ _]

/-- Rows of the same patterns. -/
protected theorem concatAll (h : List.Forall₂ (SameSpans t) ps qs) :
    SameSpans t (concatAll ps) (concatAll qs) := by
  induction h with
  | nil => exact .refl _
  | cons hp _ ih =>
    intro i k
    simp only [spans_concatAll_cons_iff, hp _ _, ih _ _]

/-- One of the same patterns. -/
protected theorem exists_mem_iff (h : List.Forall₂ (SameSpans t) ps qs) :
    (∃ p ∈ ps, Spans t p i j) ↔ ∃ q ∈ qs, Spans t q i j := by
  induction h with
  | nil => exact Iff.rfl
  | cons hp _ ih => rw [List.exists_mem_cons_iff, List.exists_mem_cons_iff, hp i j, ih]

protected theorem group {g g' : Nat} (h : SameSpans t p q) :
    SameSpans t (.group g p) (.group g' q) :=
  fun i j => spans_group_iff.trans ((h i j).trans spans_group_iff.symm)

/-- Repetitions of the same pattern. -/
protected theorem repeated (h : SameSpans t p q) (least : Nat) (more : Option Nat) (greedy : Bool) :
    SameSpans t (.repeated p least more greedy) (.repeated q least more greedy) := by
  -- the turns past those that are needed are steps of one relation, so it is replaced as a whole
  have hturn : Spans t p = Spans t q := funext fun i => funext fun j => propext (h i j)
  induction least with
  | zero =>
    intro i j
    rw [spans_repeated_zero_iff, spans_repeated_zero_iff, hturn]
  | succ least ih =>
    intro i j
    simp only [spans_needed_iff, h _ _, ih _ _]

protected theorem times (h : SameSpans t p q) (least : Nat) (most : Option Nat) (greedy : Bool) :
    SameSpans t (p.times least most greedy) (q.times least most greedy) := by
  unfold Pattern.times
  split
  · exact .refl _
  · split
    · exact h
    · exact h.repeated _ _ _

end SameSpans

end AggregateNaming.Pattern
