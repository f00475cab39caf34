import AggregateNaming.Pattern.CharSet

/-!
# Characters up to case

Being the same up to case is an equivalence, and the characters that a pattern lists for one character
are all that are the same up to case as it: what case folding moves to the same place is found again
by going back through the runs of its table.

- `SameFold.refl`, `SameFold.symm`, `SameFold.trans` : an equivalence.
- `CaseRun.preimage?_image?` : a run is gone back through.
- `mem_caseVariants_iff` : the characters listed for a character.
- `CharSet.mem_sameUpToCase_iff` : the set of them.
-/

namespace AggregateNaming

namespace Text

/-! ## §1 Same up to case -/

theorem SameFold.refl (c : Char) : SameFold c c := rfl

theorem SameFold.symm {c d : Char} (h : SameFold c d) : SameFold d c := Eq.symm h

theorem SameFold.trans {c d e : Char} (h : SameFold c d) (h' : SameFold d e) : SameFold c e :=
  Eq.trans h h'

/-! ## §2 Back through the runs -/

/-- A run is gone back through from where it has moved a code point. -/
theorem CaseRun.preimage?_image? {r : CaseRun} {n m : Nat} (h : r.image? n = some m) :
    r.preimage? m = some n := by
  unfold CaseRun.image? at h
  split at h
  next hmoved =>
    obtain ⟨hfirst, hlast, hstep⟩ := hmoved
    cases h
    have hdistance : r.target + (n - r.first) - r.target = n - r.first := Nat.add_sub_cancel_left ..
    have hback : r.first + (n - r.first) = n := Nat.add_sub_cancel' hfirst
    unfold CaseRun.preimage?
    simp only [hdistance, hback]
    rw [if_pos ⟨Nat.le_add_right _ _, hlast, hstep⟩]
  next => cases h

/-- What is moved somewhere is there already, or some run moves it there. -/
theorem CaseRun.applyAll_cases (runs : List CaseRun) (n : Nat) :
    applyAll runs n = n ∨ ∃ r ∈ runs, r.image? n = some (applyAll runs n) := by
  unfold applyAll
  cases hfind : runs.findSome? (·.image? n) with
  | none => exact .inl rfl
  | some m =>
    obtain ⟨r, hr, him⟩ := List.exists_of_findSome?_eq_some hfind
    exact .inr ⟨r, hr, him⟩

/-- The characters listed for a character are those that are the same up to case. -/
theorem mem_caseVariants_iff {c d : Char} : d ∈ caseVariants c ↔ SameFold c d := by
  unfold caseVariants variantsOfKey
  rw [List.mem_filter, beq_iff_eq]
  constructor
  · rintro ⟨-, hkey⟩
    exact hkey.symm
  · intro h
    refine ⟨List.mem_map.mpr ⟨d.toNat, ?_, Char.ofNat_toNat d⟩, h.symm⟩
    rw [List.mem_cons, List.mem_filterMap]
    change foldKey c = foldKey d at h
    rw [h]
    rcases CaseRun.applyAll_cases foldRuns d.toNat with hstay | ⟨r, hr, hmoved⟩
    · exact .inl hstay.symm
    · exact .inr ⟨r, hr, CaseRun.preimage?_image? hmoved⟩

end Text

/-! ## §3 Sets -/

namespace CharSet

theorem mem_ofList_iff {cs : List Char} {c : Char} : (ofList cs).mem c = true ↔ c ∈ cs := by
  induction cs with
  | nil => exact iff_of_false nofun nofun
  | cons d cs ih =>
    change (mem (.single d) c || (ofList cs).mem c) = true ↔ _
    rw [Bool.or_eq_true, ih, List.mem_cons, mem, beq_iff_eq]

/-- The set of the characters that are the same up to case as one. -/
theorem mem_sameUpToCase_iff {c d : Char} :
    (sameUpToCase c).mem d = true ↔ Text.SameFold c d :=
  mem_ofList_iff.trans Text.mem_caseVariants_iff

end CharSet

end AggregateNaming
