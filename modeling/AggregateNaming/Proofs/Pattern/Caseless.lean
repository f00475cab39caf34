import AggregateNaming.Pattern.Spans
import AggregateNaming.Proofs.CodePoints
import AggregateNaming.Proofs.Pattern.Parts
import Mathlib.Data.List.Forall2

/-!
# Patterns without regard to case

A pattern has no regard to case if all its sets are closed under changes of case and all its assertions
are about words of all scripts. Then it matches a stretch of a text if and only if it does so with the
characters of the text in another case. Sets are closed by construction, by listing all that is the same
up to case, or because they are tables, either with all letters that have a case or with none.

## Main definitions

- `CharSet.Caseless`, `Assertion.Caseless`, `Pattern.Caseless` : no regard to case.

## Main statements

- `Text.CharTable.contains_eq_of_sameFold` : tables.
- `Pattern.Spans.caseless` : a match stays one in another case.
- `Pattern.hereditary_caseless`, `Pattern.caseless_times` : what patterns are put together by.
-/

namespace AggregateNaming

open Text (SameFold)

/-! ## §1 Tables -/

namespace Text

/-- All that case folding moves or moves something to. -/
def CharTable.folding : CharTable := foldSources ++ foldImages

theorem CharTable.steps_folding : ∀ s ∈ folding, 0 < s.step := by decide +kernel

theorem CharTable.steps_ofRanges {rs : List (Nat × Nat)} : ∀ s ∈ ofRanges rs, 0 < s.step := by
  intro s hs
  obtain ⟨r, -, rfl⟩ := List.mem_map.mp hs
  exact Nat.one_pos

/-- A table with all that case folding touches, or with none of it, has characters that are the same up
to case together or not at all. -/
theorem CharTable.contains_eq_of_sameFold {t : CharTable} (hsteps : ∀ s ∈ t, 0 < s.step)
    (h : Nat.beq (folding.bits &&& t.bits) folding.bits = true ∨
      Nat.beq (folding.bits &&& t.bits) 0 = true) {c d : Char} (hsame : SameFold c d) :
    t.contains c = t.contains d := by
  have htouched : ∀ n, folding.any (·.contains n) = true → ∀ m, folding.any (·.contains m) = true →
      t.any (·.contains n) = t.any (·.contains m) := by
    intro n hn m hm
    rw [← testBit_bits steps_folding] at hn hm
    rw [← testBit_bits hsteps, ← testBit_bits hsteps]
    rcases h with hall | hnone
    · have hboth := Nat.eq_of_beq_eq_true hall
      have hn' := congrArg (·.testBit n) hboth
      have hm' := congrArg (·.testBit m) hboth
      simp only [Nat.testBit_and, hn, hm, Bool.true_and] at hn' hm'
      rw [hn', hm']
    · have hboth := Nat.eq_of_beq_eq_true hnone
      have hn' := congrArg (·.testBit n) hboth
      have hm' := congrArg (·.testBit m) hboth
      simp only [Nat.testBit_and, hn, hm, Bool.true_and, Nat.zero_testBit] at hn' hm'
      rw [hn', hm']
  -- what is moved is touched, and so is what it is moved to
  have hkey : ∀ n, t.any (·.contains n) = t.any (·.contains (CaseRun.applyAll foldRuns n)) := by
    intro n
    rcases CaseRun.applyAll_cases foldRuns n with hstay | ⟨r, hr, hmoved⟩
    · rw [hstay]
    · refine htouched n ?_ _ ?_
      · rw [folding, List.any_append, Bool.or_eq_true]
        exact .inl (List.any_eq_true.mpr
          ⟨r.source, List.mem_map_of_mem hr, (CaseRun.image?_eq_some_iff.mp hmoved).1⟩)
      · rw [folding, List.any_append, Bool.or_eq_true]
        exact .inr (List.any_eq_true.mpr
          ⟨r.image, List.mem_map_of_mem hr, CaseRun.contains_image hmoved⟩)
  calc t.contains c = t.any (·.contains (foldKey c)) := hkey c.toNat
    _ = t.any (·.contains (foldKey d)) := by rw [show foldKey c = foldKey d from hsame]
    _ = t.contains d := (hkey d.toNat).symm

/-- Every letter that has a case makes words. -/
theorem contains_wordChars {c d : Char} (h : SameFold c d) :
    wordChars.contains c = wordChars.contains d :=
  CharTable.contains_eq_of_sameFold CharTable.steps_ofRanges (.inl (by decide +kernel)) h

/-- No digit has a case. -/
theorem contains_digits {c d : Char} (h : SameFold c d) : digits.contains c = digits.contains d :=
  CharTable.contains_eq_of_sameFold CharTable.steps_ofRanges (.inr (by decide +kernel)) h

/-- No blank has a case. -/
theorem contains_blanks {c d : Char} (h : SameFold c d) : blanks.contains c = blanks.contains d :=
  CharTable.contains_eq_of_sameFold CharTable.steps_ofRanges (.inr (by decide +kernel)) h

/-- An end of a line has no other case. -/
theorem eq_lineFeed_iff {c d : Char} (h : SameFold c d) : c = '\n' ↔ d = '\n' := by
  have halone : ∀ e, SameFold '\n' e → e = '\n' := by
    intro e he
    have hmem := mem_caseVariants_iff.mpr he
    rw [show caseVariants '\n' = ['\n'] by decide +kernel] at hmem
    exact List.mem_singleton.mp hmem
  constructor
  · rintro rfl
    exact halone d h
  · rintro rfl
    exact halone c h.symm

end Text

/-! ## §2 Sets -/

namespace CharSet

variable {s t : CharSet}

/-- A set has characters that are the same up to case together or not at all. -/
def Caseless (s : CharSet) : Prop := ∀ c d, SameFold c d → s.mem c = s.mem d

theorem caseless_folded (s : CharSet) : s.folded.Caseless := by
  intro c d h
  have hkey : Text.foldKey c = Text.foldKey d := h
  rw [mem, mem, Text.caseVariants, Text.caseVariants, hkey]

theorem caseless_sameUpToCase (c : Char) : (sameUpToCase c).Caseless := by
  intro d e h
  rw [Bool.eq_iff_iff, mem_sameUpToCase_iff, mem_sameUpToCase_iff]
  exact ⟨fun hd => hd.trans h, fun he => he.trans h.symm⟩

theorem Caseless.complement (h : s.Caseless) : (CharSet.complement s).Caseless := by
  intro c d hsame
  rw [mem, mem, h c d hsame]

theorem caseless_notLineFeed : (CharSet.complement (.single '\n')).Caseless := by
  refine Caseless.complement fun c d h => ?_
  rw [mem, mem, Bool.eq_iff_iff, beq_iff_eq, beq_iff_eq]
  exact Text.eq_lineFeed_iff h

end CharSet

/-! ## §3 Assertions -/

namespace Assertion

/-- An assertion holds between two characters, each of them absent at an end, if and only if it holds
between them in another case. -/
def Caseless (a : Assertion) : Prop :=
  ∀ ⦃before before' after after' : Option Char⦄, Option.Rel SameFold before before' →
    Option.Rel SameFold after after' → a.holds before after = a.holds before' after'

/-- Whether an assertion is about an end of the text, or about words of all scripts. -/
def heedsAllScripts : Assertion → Bool
  | textStart | textEnd => true
  | lineStart | lineEnd | lineStartCrlf | lineEndCrlf => false
  | wordBoundary u | notWordBoundary u | wordStart u | wordEnd u | wordStartHalf u | wordEndHalf u => u

theorem isWord_eq {c d : Option Char} (h : Option.Rel SameFold c d) : isWord true c = isWord true d := by
  cases h with
  | some h => exact Text.contains_wordChars h
  | none => rfl

theorem isNone_eq {c d : Option Char} (h : Option.Rel SameFold c d) : c.isNone = d.isNone := by
  cases h <;> rfl

theorem caseless_of_heedsAllScripts {a : Assertion} (h : a.heedsAllScripts = true) : a.Caseless := by
  intro before before' after after' hbefore hafter
  cases a with
  | textStart => exact isNone_eq hbefore
  | textEnd => exact isNone_eq hafter
  | lineStart => cases h
  | lineEnd => cases h
  | lineStartCrlf => cases h
  | lineEndCrlf => cases h
  | wordBoundary u =>
    cases (h : u = true)
    rw [holds, holds, isWord_eq hbefore, isWord_eq hafter]
  | notWordBoundary u =>
    cases (h : u = true)
    rw [holds, holds, isWord_eq hbefore, isWord_eq hafter]
  | wordStart u =>
    cases (h : u = true)
    rw [holds, holds, isWord_eq hbefore, isWord_eq hafter]
  | wordEnd u =>
    cases (h : u = true)
    rw [holds, holds, isWord_eq hbefore, isWord_eq hafter]
  | wordStartHalf u =>
    cases (h : u = true)
    rw [holds, holds, isWord_eq hbefore]
  | wordEndHalf u =>
    cases (h : u = true)
    rw [holds, holds, isWord_eq hafter]

end Assertion

/-! ## §4 Patterns -/

namespace Pattern

/-- A pattern is built from sets and assertions without regard to case. -/
def Caseless : Pattern → Prop
  | empty => True
  | set s => s.Caseless
  | assertion a => a.Caseless
  | group _ p => p.Caseless
  | concat p q => p.Caseless ∧ q.Caseless
  | alternate p q => p.Caseless ∧ q.Caseless
  | repeated p _ _ _ => p.Caseless

/-- At every place of a text in another case is the character in another case. -/
theorem rel_getElem? {t t' : List Char} (h : List.Forall₂ SameFold t t') (i : Nat) :
    Option.Rel SameFold t[i]? t'[i]? := by
  induction h generalizing i with
  | nil => exact .none
  | cons hc _ ih =>
    cases i with
    | zero => exact .some hc
    | succ i => exact ih i

theorem rel_charBefore {t t' : List Char} (h : List.Forall₂ SameFold t t') (i : Nat) :
    Option.Rel SameFold (charBefore t i) (charBefore t' i) := by
  cases i with
  | zero => exact .none
  | succ i => exact rel_getElem? h i

/-- A match of a pattern without regard to case stays one in another case. -/
theorem Spans.caseless {t t' : List Char} (h : List.Forall₂ SameFold t t') {p : Pattern} {i j : Nat}
    (hp : p.Caseless) (hspans : Spans t p i j) : Spans t' p i j := by
  induction hspans with
  | empty hle => exact .empty (h.length_eq ▸ hle)
  | @set i c s hc hmem =>
    have hrel := rel_getElem? h i
    rw [hc] at hrel
    generalize hd : t'[i]? = d at hrel
    cases hrel with
    | some hsame => exact .set hd ((hp c _ hsame).symm.trans hmem)
  | assertion hle hholds =>
    exact .assertion (h.length_eq ▸ hle)
      ((hp (rel_charBefore h _) (rel_getElem? h _)).symm.trans hholds)
  | group _ ih => exact .group (ih hp)
  | concat _ _ ihp ihq => exact .concat (ihp hp.1) (ihq hp.2)
  | left _ ih => exact .left (ih hp.1)
  | right _ ih => exact .right (ih hp.2)
  | done hle => exact .done (h.length_eq ▸ hle)
  | needed _ _ ihp ihrest => exact .needed (ihp hp) (ihrest hp)
  | further _ _ ihp ihrest => exact .further (ihp hp) (ihrest hp)
  | always _ _ ihp ihrest => exact .always (ihp hp) (ihrest hp)

/-- A pattern without regard to case matches a text as a whole in any case or in none. -/
theorem matchesWhole_iff_of_sameFold {p : Pattern} (hp : p.Caseless) {t t' : List Char}
    (h : List.Forall₂ SameFold t t') : p.MatchesWhole t ↔ p.MatchesWhole t' := by
  have hback : List.Forall₂ SameFold t' t := (h.imp fun _ _ => Text.SameFold.symm).flip
  rw [MatchesWhole, MatchesWhole, ← h.length_eq]
  exact ⟨Spans.caseless h hp, Spans.caseless hback hp⟩

/-! ## §5 What patterns are put together by -/

/-- A row or a choice has no regard to case when neither of its parts has. -/
theorem hereditary_caseless : Hereditary Pattern.Caseless where
  empty := trivial
  concat_iff := Iff.rfl
  alternate_iff := Iff.rfl

theorem caseless_times {p : Pattern} (h : p.Caseless) (least : Nat) (most : Option Nat) (greedy : Bool) :
    (p.times least most greedy).Caseless := by
  unfold times
  split
  · trivial
  · split
    · exact h
    · exact h

end Pattern

end AggregateNaming
