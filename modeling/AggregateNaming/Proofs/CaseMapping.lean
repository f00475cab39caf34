import AggregateNaming.Casing
import AggregateNaming.Proofs.CodePoints
import Mathlib.Data.List.Forall2

/-!
# Full case mapping and case folding

The upper-case and the lower-case form of a text may be longer than the text, while characters that are
the same up to case stand one for one. So a form of a text is the same up to case as the text only if no
character becomes several. In lower case that is all there is to it; in upper case one more character
makes a difference, the `ı` without a dot, whose upper-case form is the same up to case as `i` only.

## Main definitions

- `CaseRun.keepsKey` : a run of a case map stays within what is the same up to case.
- `Casing.Preserves` : a policy writes a text so that it stays the same up to case.

## Main statements

- `Text.forall₂_sameFold_toUpper_iff`, `Text.forall₂_sameFold_toLower_iff` : the two forms.
- `Casing.forall₂_sameFold_foldChars_iff` : all policies.
-/

namespace AggregateNaming

namespace Text

/-! ## §1 Runs of the case maps -/

namespace CaseRun

/-- A run moves characters to characters that are the same up to case: its source and its image are
folded to the same stretch, and there are characters in it. -/
def keepsKey (r : CaseRun) : Bool :=
  Nat.blt 0 r.step &&
    (Nat.blt (r.target + (r.last - r.first)) 0xD800 ||
      Nat.blt 0xDFFF r.target && Nat.blt (r.target + (r.last - r.first)) 0x110000) &&
    r.source.foldStart?.isSome && r.source.foldStart? == r.image.foldStart?

/-- A character that such a run moves stays the same up to case. -/
theorem sameFold_of_keepsKey {r : CaseRun} (h : r.keepsKey = true) {c : Char} {m : Nat}
    (hmoved : r.image? c.toNat = some m) : SameFold c (Char.ofNat m) := by
  simp only [keepsKey, Bool.and_eq_true, Bool.or_eq_true, Nat.blt_eq, beq_iff_eq] at h
  obtain ⟨⟨⟨hstep, hchars⟩, hsome⟩, hstart⟩ := h
  obtain ⟨k, hk⟩ := Option.isSome_iff_exists.mp hsome
  have hsource := (image?_eq_some_iff.mp hmoved).1
  have himage := contains_image hmoved
  have htoNat : (Char.ofNat m).toNat = m := by
    obtain ⟨hfirst, hlast, -⟩ := CharRange.contains_iff.mp himage
    change r.target ≤ m at hfirst
    change m ≤ r.target + (r.last - r.first) at hlast
    have hvalid : m.isValidChar := by
      unfold Nat.isValidChar
      omega
    rw [Char.ofNat, dif_pos hvalid]
    rfl
  have hfrom : foldKey c = k + (c.toNat - r.first) :=
    CharRange.applyAll_eq_of_foldStart? hstep hk hsource
  have hto : foldKey (Char.ofNat m) = k + (m - r.target) := by
    rw [foldKey, htoNat]
    exact CharRange.applyAll_eq_of_foldStart? hstep (hstart ▸ hk) himage
  rw [SameFold, hfrom, hto, ← (image?_eq_some_iff.mp hmoved).2, Nat.add_sub_cancel_left]

/-- Where all runs keep characters the same up to case, so does what they make together. -/
theorem sameFold_applyAll {runs : List CaseRun} {c : Char}
    (h : ∀ r ∈ runs, r.source.contains c.toNat = true → r.keepsKey = true) :
    SameFold c (Char.ofNat (applyAll runs c.toNat)) := by
  rcases applyAll_cases runs c.toNat with hstay | ⟨r, hr, hmoved⟩
  · rw [hstay, Char.ofNat_toNat]
    exact .refl c
  · exact sameFold_of_keepsKey (h r hr (image?_eq_some_iff.mp hmoved).1) hmoved

end CaseRun

/-- Only one run of the map to upper case leaves what is the same up to case: that of the `ı`. -/
theorem upperRuns_keepsKey : ∀ r ∈ upperRuns, r = ⟨0x131, 0x131, 1, 0x49⟩ ∨ r.keepsKey = true := by
  decide +kernel

theorem lowerRuns_keepsKey : ∀ r ∈ lowerRuns, r.keepsKey = true := by decide +kernel

/-! ## §2 Upper case -/

/-- An upper-case form that stands in the table of longer ones is longer. -/
theorem length_upperSequences {n : Nat} {ns : List Nat} (h : upperSequences.lookup n = some ns) :
    2 ≤ ns.length := by
  have hall : ∀ row ∈ upperSequences, 2 ≤ row.2.length := by decide +kernel
  obtain ⟨rows, rows', hrows, -⟩ := List.lookup_eq_some_iff.mp h
  exact hall (n, ns) (hrows ▸ List.mem_append_right rows List.mem_cons_self)

theorem upperChars_ne_nil (c : Char) : upperChars c ≠ [] := by
  unfold upperChars
  split
  next ns hns =>
    have hlong := length_upperSequences hns
    intro hnil
    rw [List.map_eq_nil_iff.mp hnil] at hlong
    cases hlong
  next => exact nofun

/-- The upper-case form of a character is the same up to case if and only if it is one character, and
the character is not the `ı` without a dot. -/
theorem sameFold_upperChars_iff {c : Char} :
    (∃ d, upperChars c = [d] ∧ SameFold c d) ↔ (upperChars c).length = 1 ∧ c ≠ 'ı' := by
  constructor
  · rintro ⟨d, hd, hsame⟩
    refine ⟨by rw [hd]; rfl, ?_⟩
    rintro rfl
    rw [show upperChars 'ı' = ['I'] by decide +kernel] at hd
    cases hd
    exact absurd hsame (by decide +kernel)
  · rintro ⟨hlength, hdot⟩
    unfold upperChars at hlength ⊢
    split at hlength
    next ns hns =>
      have hlong := length_upperSequences hns
      rw [List.length_map] at hlength
      omega
    next =>
      refine ⟨_, rfl, CaseRun.sameFold_applyAll fun r hr hmoved => ?_⟩
      rcases upperRuns_keepsKey r hr with rfl | hkeeps
      · obtain ⟨hfirst, hlast, -⟩ := CharRange.contains_iff.mp hmoved
        have hcode : c.toNat = 0x131 := Nat.le_antisymm hlast hfirst
        exact absurd (by rw [← Char.ofNat_toNat c, hcode]) hdot
      · exact hkeeps

/-- A text is related to what its characters become if and only if each of them becomes one, and is
related to that. -/
theorem forall₂_flatMap_iff {R : Char → Char → Prop} {f : Char → List Char} (hf : ∀ c, f c ≠ [])
    {cs : List Char} :
    List.Forall₂ R cs (cs.flatMap f) ↔ ∀ c ∈ cs, ∃ d, f c = [d] ∧ R c d := by
  have hlong : ∀ cs : List Char, cs.length ≤ (cs.flatMap f).length := by
    intro cs
    induction cs with
    | nil => exact Nat.zero_le _
    | cons c cs ih =>
      have hpos := List.length_pos_iff.mpr (hf c)
      rw [List.flatMap_cons, List.length_append, List.length_cons]
      omega
  induction cs with
  | nil => simp
  | cons c cs ih =>
    rw [List.flatMap_cons, List.forall_mem_cons]
    obtain ⟨d, ds, hd⟩ := List.exists_cons_of_ne_nil (hf c)
    rw [hd, List.cons_append, List.forall₂_cons]
    constructor
    · rintro ⟨hR, hrest⟩
      -- there is no room for more than one character
      have hlength := hrest.length_eq
      have hle := hlong cs
      rw [List.length_append] at hlength
      have hds : ds = [] := List.eq_nil_of_length_eq_zero (by omega)
      subst hds
      exact ⟨⟨d, rfl, hR⟩, ih.mp hrest⟩
    · rintro ⟨⟨d', hd', hR⟩, hrest⟩
      cases hd'
      exact ⟨hR, ih.mpr hrest⟩

theorem forall₂_sameFold_toUpper_iff {cs : List Char} :
    List.Forall₂ SameFold cs (toUpper cs) ↔ ∀ c ∈ cs, (upperChars c).length = 1 ∧ c ≠ 'ı' :=
  (forall₂_flatMap_iff upperChars_ne_nil).trans (forall₂_congr fun _ _ => sameFold_upperChars_iff)

/-! ## §3 Lower case -/

/-- The lower-case form of a character between others is one character that is the same up to case,
unless the character is the `İ` with a dot, which becomes two. -/
theorem toLowerAfter_cons (before : List Char) {c : Char} (cs : List Char) (hdot : c ≠ 'İ') :
    ∃ d, SameFold c d ∧ toLowerAfter before (c :: cs) = d :: toLowerAfter (c :: before) cs := by
  rw [toLowerAfter]
  by_cases hsigma : c = 'Σ'
  · subst hsigma
    by_cases hfinal : isFinalSigma before cs = true
    · exact ⟨'ς', by decide +kernel, by simp [hfinal]⟩
    · exact ⟨'σ', by decide +kernel, by simp [hfinal]⟩
  · refine ⟨Char.ofNat (CaseRun.applyAll lowerRuns c.toNat), CaseRun.sameFold_applyAll
      fun r hr _ => lowerRuns_keepsKey r hr, ?_⟩
    have hne : (c == '\u0130') = false := beq_false_of_ne hdot
    simp [hsigma, lowerChars, hne]

/-- The lower-case form of a text is longer than the text by the number of its `İ`s. -/
theorem length_toLowerAfter (before cs : List Char) :
    (toLowerAfter before cs).length = cs.length + cs.count 'İ' := by
  induction cs generalizing before with
  | nil => rfl
  | cons c cs ih =>
    by_cases hdot : c = 'İ'
    · subst hdot
      have hform : toLowerAfter before ('İ' :: cs) =
          'i' :: '\u0307' :: toLowerAfter ('İ' :: before) cs := rfl
      rw [hform, List.length_cons, List.length_cons, ih, List.length_cons, List.count_cons_self]
      omega
    · obtain ⟨d, -, hd⟩ := toLowerAfter_cons before cs hdot
      rw [hd, List.length_cons, ih, List.length_cons, List.count_cons_of_ne hdot]
      omega

theorem forall₂_sameFold_toLower_iff {cs : List Char} :
    List.Forall₂ SameFold cs (toLower cs) ↔ 'İ' ∉ cs := by
  constructor
  · intro h
    have hlength := h.length_eq
    rw [toLower, length_toLowerAfter] at hlength
    exact List.count_eq_zero.mp (by omega)
  · suffices hall : ∀ before, 'İ' ∉ cs → List.Forall₂ SameFold cs (toLowerAfter before cs) from hall []
    induction cs with
    | nil => exact fun _ _ => .nil
    | cons c cs ih =>
      intro before hdot
      rw [List.mem_cons, not_or] at hdot
      obtain ⟨d, hsame, hd⟩ := toLowerAfter_cons before cs (Ne.symm hdot.1)
      rw [hd]
      exact .cons hsame (ih (c :: before) hdot.2)

end Text

/-! ## §4 Policies -/

/-- A policy writes a text so that it stays the same up to case. -/
def Casing.Preserves : Casing → List Char → Prop
  | .ignore, _ | .exact, _ => True
  | .upper, cs => ∀ c ∈ cs, (Text.upperChars c).length = 1 ∧ c ≠ 'ı'
  | .lower, cs => 'İ' ∉ cs

instance : (casing : Casing) → (cs : List Char) → Decidable (casing.Preserves cs)
  | .ignore, _ | .exact, _ => inferInstanceAs (Decidable True)
  -- over the characters of the text, where a search for an instance may come upon all characters
  | .upper, cs => List.decidableBAll (fun c => (Text.upperChars c).length = 1 ∧ c ≠ 'ı') cs
  | .lower, cs => inferInstanceAs (Decidable ('İ' ∉ cs))

theorem Casing.forall₂_sameFold_foldChars_iff (casing : Casing) {cs : List Char} :
    List.Forall₂ Text.SameFold cs (casing.foldChars cs) ↔ casing.Preserves cs := by
  have hself : List.Forall₂ Text.SameFold cs cs := List.forall₂_same.mpr fun c _ => .refl c
  cases casing with
  | ignore => exact iff_of_true hself trivial
  | exact => exact iff_of_true hself trivial
  | upper => exact Text.forall₂_sameFold_toUpper_iff
  | lower => exact Text.forall₂_sameFold_toLower_iff

end AggregateNaming
