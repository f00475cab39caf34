import AggregateNaming.Proofs.CaseMapping
import AggregateNaming.Proofs.Recognition

/-!
# Names in another case

Where case does not count, a name in upper or in lower case should be as good as the name itself. It is
whenever writing it so keeps it the same up to case, and never otherwise: a pattern without regard to
case compares characters one for one, while full case mapping may make several of one.

## Main statements

- `Casing.forall_meets_iff` : when what a policy takes for a name is taken for it without regard to case.
- `ignore_accepts_iff_preserves` : names as patterns, fixed names and derived names.
- `sharp_s_refused` : names that are refused in another case.
-/

namespace AggregateNaming

open Pattern

/-- What two texts have in common at both ends does not count. -/
theorem forall₂_sameFold_between_iff (u v : List Char) {w w' : List Char} :
    List.Forall₂ Text.SameFold (u ++ w ++ v) (u ++ w' ++ v) ↔ List.Forall₂ Text.SameFold w w' := by
  have hself : ∀ cs : List Char, List.Forall₂ Text.SameFold cs cs :=
    fun cs => List.forall₂_same.mpr fun c _ => .refl c
  constructor
  · intro h
    have hlength := h.length_eq
    simp only [List.length_append] at hlength
    have hinner := List.forall₂_take_append _ _ _ h
    rw [List.take_left' (by simp only [List.length_append]; omega)] at hinner
    have hmiddle := List.forall₂_drop_append _ _ _ hinner
    rwa [List.drop_left] at hmiddle
  · exact fun h => List.rel_append (List.rel_append (hself u) h) (hself v)

/-- What a policy takes for a text with a name in it is taken for it without regard to case if and only
if the policy keeps the name the same up to case. -/
theorem Casing.forall_meets_iff (casing : Casing) {u w v : List Char} :
    (∀ name : String, casing.Meets (u ++ casing.foldChars w ++ v) name.toList →
      Casing.ignore.Meets (u ++ w ++ v) name.toList) ↔ casing.Preserves w := by
  have hexact : (∀ name : String, name.toList = u ++ casing.foldChars w ++ v →
      Casing.ignore.Meets (u ++ w ++ v) name.toList) ↔ casing.Preserves w := by
    rw [← casing.forall₂_sameFold_foldChars_iff, ← forall₂_sameFold_between_iff u v]
    constructor
    · intro h
      have hname := h (.ofList (u ++ casing.foldChars w ++ v)) String.toList_ofList
      rwa [String.toList_ofList] at hname
    · intro h name hname
      rw [hname]
      exact h
  cases casing with
  | ignore => exact iff_of_true (fun _ h => h) trivial
  | exact => exact hexact
  | upper => exact hexact
  | lower => exact hexact

/-- Names derived from a name with a base name are those built around the base name. -/
theorem DerivedName.recognizer_of_base? {o : DerivedName} {name base : String}
    (h : o.base? name = some base) : o.recognizer name = o.recognizerWith base none := by
  unfold DerivedName.base? at h
  unfold DerivedName.recognizer
  cases htext : o.basename with
  | none =>
    rw [htext] at h
    cases h
    rfl
  | some text =>
    rw [htext] at h
    dsimp only at h ⊢
    cases hread : Basename.compile text with
    | error e =>
      rw [hread] at h
      cases h
    | ok b =>
      rw [hread] at h
      have hbase : derive? name (some b) = some base := h
      change o.recognizerWith name (some b) = _
      unfold DerivedName.recognizerWith Recognizer.derived
      rw [hbase]
      rfl

/-- The pattern of a name without regard to case accepts the name as a policy wants it written if and
only if the policy keeps it the same up to case. Under the same condition, a rule for one name takes
without regard to case whatever it takes under the policy, and so does a rule for derived names with
plain texts around them. -/
theorem ignore_accepts_iff_preserves (casing : Casing) :
    (∀ text : String, ∃ p, NamePattern.compile .ignore (Casing.ignore.literal text) = .ok p ∧
      (p.accepts (casing.fold text) = true ↔ casing.Preserves text.toList)) ∧
    (∀ (o : FixedName) (expected : String), ∃ r r',
      FixedName.recognizerFor { o with casing } expected = .ok r ∧
      FixedName.recognizerFor { o with casing := .ignore } expected = .ok r' ∧
      ((∀ name, r.recognizes name = true → r'.recognizes name = true) ↔
        casing.Preserves expected.toList)) ∧
    ∀ (o : DerivedName) (name base : String), o.base? name = some base →
      Pattern.escape (o.before.getD "") = o.before.getD "" →
      Pattern.escape (o.after.getD "") = o.after.getD "" → ∃ r r',
        DerivedName.recognizer { o with casing } name = .ok r ∧
        DerivedName.recognizer { o with casing := .ignore } name = .ok r' ∧
        ((∀ name', r.recognizes name' = true → r'.recognizes name' = true) ↔
          casing.Preserves base.toList) := by
  refine ⟨fun text => ?_, fun o expected => ?_, fun o name base hbase hbefore hafter => ?_⟩
  · obtain ⟨p, hp, haccepts⟩ := NamePattern.accepts_escapeChars .ignore text.toList
    refine ⟨p, hp, (haccepts _).trans ?_⟩
    rw [Casing.fold, String.toList_ofList]
    exact casing.forall₂_sameFold_foldChars_iff
  · obtain ⟨r, hr, hmeets⟩ := FixedName.recognizerFor_plain { o with casing } expected
    obtain ⟨r', hr', hmeets'⟩ := FixedName.recognizerFor_plain { o with casing := .ignore } expected
    refine ⟨r, r', hr, hr', ?_⟩
    have h := casing.forall_meets_iff (u := []) (w := expected.toList) (v := [])
    simp only [List.nil_append, List.append_nil] at h
    simp only [hmeets, hmeets']
    exact h
  · obtain ⟨r, hr, hmeets⟩ := Recognizer.derived_plain o.id base casing hbefore hafter
    obtain ⟨r', hr', hmeets'⟩ := Recognizer.derived_plain o.id base .ignore hbefore hafter
    have hr := (DerivedName.recognizer_of_base? (o := { o with casing }) hbase).trans hr
    have hr' := (DerivedName.recognizer_of_base? (o := { o with casing := .ignore }) hbase).trans hr'
    refine ⟨r, r', hr, hr', ?_⟩
    simp only [hmeets, hmeets']
    exact casing.forall_meets_iff

/-- An aggregate table is taken without regard to case if it is taken in upper case. -/
theorem sales_in_upper_case : ∃ r r',
    DerivedName.recognizer { before := some "agg_", casing := .upper } "sales" = .ok r ∧
    DerivedName.recognizer { before := some "agg_" } "sales" = .ok r' ∧
    ∀ name, r.recognizes name = true → r'.recognizes name = true := by
  obtain ⟨r, r', hr, hr', hiff⟩ :=
    (ignore_accepts_iff_preserves .upper).2.2 { before := some "agg_" } "sales" "sales" rfl rfl rfl
  exact ⟨r, r', hr, hr', hiff.mpr (by decide +kernel)⟩

/-- Neither the upper-case form of `ß` nor the lower-case form of `İ` is taken without regard to case. -/
theorem sharp_s_refused :
    (∃ p, NamePattern.compile .ignore (Casing.ignore.literal "ß") = .ok p ∧
      p.accepts (Casing.upper.fold "ß") = false) ∧
    ∃ p, NamePattern.compile .ignore (Casing.ignore.literal "İ") = .ok p ∧
      p.accepts (Casing.lower.fold "İ") = false :=
  ⟨⟨_, rfl, by decide +kernel⟩, _, rfl, by decide +kernel⟩

end AggregateNaming
