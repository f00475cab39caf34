import AggregateNaming.Pattern.Basic
import Mathlib.Data.List.Infix

/-!
# Patterns made of patterns

What several patterns have in common at their beginnings is put in front of all of them, and so the
pattern that is made of them does not have them as its parts. Here is what becomes of the parts. It is
enough to know which properties a row and a choice have when both of their parts have them.

## Main definitions

- `Hereditary` : a property that a row or a choice has when both of its parts have it.

## Main statements

- `alternateAll_cases` : what a pattern made of several is.
- `Hereditary.alternateAll_iff` : such a pattern has a property when all of its parts have it.
-/

namespace AggregateNaming.Pattern

variable {p : Pattern} {ps : List Pattern}

/-! ## §1 Common beginnings -/

/-- What two rows have in common at their beginnings is a beginning of both. -/
theorem commonStart_isPrefix (ps qs : List Pattern) :
    commonStart ps qs <+: ps ∧ commonStart ps qs <+: qs := by
  induction ps generalizing qs with
  | nil => simp [commonStart]
  | cons p ps ih =>
    cases qs with
    | nil => simp [commonStart]
    | cons q qs =>
      rw [commonStart]
      split
      next heq =>
        subst heq
        obtain ⟨hfirst, hsecond⟩ := ih qs
        exact ⟨(List.prefix_cons_inj p).mpr hfirst, (List.prefix_cons_inj p).mpr hsecond⟩
      next => exact ⟨List.nil_prefix, List.nil_prefix⟩

/-- What several rows begin with is a beginning of each. -/
theorem sharedStart_isPrefix {rows : List (List Pattern)} {r : List Pattern} (hr : r ∈ rows) :
    sharedStart rows <+: r := by
  -- what has been found so far only gets shorter
  have hfold : ∀ (rows : List (List Pattern)) (start : List Pattern),
      rows.foldl commonStart start <+: start ∧
        ∀ r ∈ rows, rows.foldl commonStart start <+: r := by
    intro rows
    induction rows with
    | nil => exact fun start => ⟨List.prefix_refl start, nofun⟩
    | cons r' rows ih =>
      intro start
      obtain ⟨hstart, hrest⟩ := ih (commonStart start r')
      obtain ⟨hleft, hright⟩ := commonStart_isPrefix start r'
      refine ⟨hstart.trans hleft, fun r hr => ?_⟩
      rcases List.mem_cons.mp hr with rfl | hr
      · exact hstart.trans hright
      · exact hrest r hr
  cases rows with
  | nil => cases hr
  | cons r' rows =>
    rw [sharedStart]
    split
    · obtain ⟨hfirst, hrest⟩ := hfold rows r'
      rcases List.mem_cons.mp hr with rfl | hr
      · exact hfirst
      · exact hrest r hr
    · exact List.nil_prefix

/-- A pattern made of several is one of them; or it is what all their alternatives begin with, and then
one of the rests. -/
theorem alternateAll_cases (ps : List Pattern) : alternateAll ps = firstOf ps ∨
    ∃ start rests, rests ≠ [] ∧ (ps.flatMap alternatives).map row = rests.map (start ++ ·) ∧
      alternateAll ps = concatAll (start ++ [firstOf (rests.map concatAll)]) := by
  unfold alternateAll
  dsimp only
  generalize (ps.flatMap alternatives).map row = rows
  split
  next p start hstart =>
    refine .inr ⟨p :: start, rows.map (List.drop (start.length + 1)), ?_, ?_, ?_⟩
    · intro hnil
      rw [List.map_eq_nil_iff.mp hnil] at hstart
      cases hstart
    · -- each row is the common beginning with what remains of the row
      rw [List.map_map]
      refine (List.map_id rows).symm.trans (List.map_congr_left fun r hr => ?_)
      obtain ⟨rest, rfl⟩ := hstart ▸ sharedStart_isPrefix hr
      exact congrArg (p :: start ++ ·) List.drop_left.symm
    · rw [List.map_map]
      rfl
  next => exact .inl rfl

/-! ## §2 Properties of all parts -/

/-- A property that a row or a choice has when both of its parts have it. -/
structure Hereditary (P : Pattern → Prop) : Prop where
  empty : P .empty
  concat_iff : ∀ {p q}, P (.concat p q) ↔ P p ∧ P q
  alternate_iff : ∀ {p q}, P (.alternate p q) ↔ P p ∧ P q

namespace Hereditary

variable {P : Pattern → Prop}

theorem concatAll_iff (hP : Hereditary P) : P (concatAll ps) ↔ ∀ p ∈ ps, P p := by
  induction ps with
  | nil => exact iff_of_true hP.empty (List.forall_mem_nil _)
  | cons p ps ih =>
    cases ps with
    | nil => exact List.forall_mem_singleton.symm
    | cons q qs => exact hP.concat_iff.trans ((and_congr_right' ih).trans List.forall_mem_cons.symm)

theorem firstOf_iff (hP : Hereditary P) : P (firstOf ps) ↔ ∀ p ∈ ps, P p := by
  induction ps with
  | nil => exact iff_of_true hP.empty (List.forall_mem_nil _)
  | cons p ps ih =>
    cases ps with
    | nil => exact List.forall_mem_singleton.symm
    | cons q qs =>
      exact hP.alternate_iff.trans ((and_congr_right' ih).trans List.forall_mem_cons.symm)

theorem forall_row_iff (hP : Hereditary P) : (∀ q ∈ p.row, P q) ↔ P p := by
  induction p with
  | concat p q ihp ihq => rw [row, List.forall_mem_append, ihp, ihq, hP.concat_iff]
  | empty => exact iff_of_true (List.forall_mem_nil _) hP.empty
  | set => exact List.forall_mem_singleton
  | assertion => exact List.forall_mem_singleton
  | group => exact List.forall_mem_singleton
  | alternate => exact List.forall_mem_singleton
  | repeated => exact List.forall_mem_singleton

theorem forall_alternatives_iff (hP : Hereditary P) : (∀ q ∈ p.alternatives, P q) ↔ P p := by
  induction p with
  | alternate p q ihp ihq =>
    rw [alternatives, List.forall_mem_append, ihp, ihq, hP.alternate_iff]
  | empty => exact List.forall_mem_singleton
  | set => exact List.forall_mem_singleton
  | assertion => exact List.forall_mem_singleton
  | group => exact List.forall_mem_singleton
  | concat => exact List.forall_mem_singleton
  | repeated => exact List.forall_mem_singleton

/-- A pattern made of several has such a property when all of them have it. -/
theorem alternateAll_iff (hP : Hereditary P) : P (alternateAll ps) ↔ ∀ p ∈ ps, P p := by
  rcases alternateAll_cases ps with heq | ⟨start, rests, hne, hrows, heq⟩
  · rw [heq, hP.firstOf_iff]
  -- the rows that are compared have the same parts
  have hall : (∀ r ∈ (ps.flatMap alternatives).map row, ∀ q ∈ r, P q) ↔ ∀ p ∈ ps, P p := by
    simp only [List.forall_mem_map, List.forall_mem_flatMap, hP.forall_row_iff,
      hP.forall_alternatives_iff]
  rw [heq, ← hall, hrows, hP.concatAll_iff, List.forall_mem_append, List.forall_mem_singleton,
    hP.firstOf_iff]
  simp only [List.forall_mem_map, List.forall_mem_append, hP.concatAll_iff]
  constructor
  · rintro ⟨hstart, hrests⟩ rest hrest
    exact ⟨hstart, hrests rest hrest⟩
  · intro h
    obtain ⟨rest, hrest⟩ := List.exists_mem_of_ne_nil rests hne
    exact ⟨(h rest hrest).1, fun rest' hrest' => (h rest' hrest').2⟩

end Hereditary

end AggregateNaming.Pattern
