import AggregateNaming.Object
import AggregateNaming.Proofs.Pattern.Capture
import AggregateNaming.Proofs.Pattern.Whole

/-!
# Taking base names out of names

A pattern for base names has one group, and the base name is what the group matches. It is a piece of
the name that it is taken from. Where there is none, the name need not have been refused: a pattern
may match a name and leave its group out. No names are derived then either.

## Main statements

- `Basename.extract?_eq_none_iff` : when there is no base name.
- `Basename.exists_piece_of_extract?` : where a base name comes from.
- `DerivedName.isNever_recognizer_iff` : when no names are derived.
- `base_name_missing_iff` : all of this together.
-/

namespace AggregateNaming

open Pattern

/-- There is no base name in a name that is refused, nor in one whose preferred match leaves the group
out. -/
theorem Basename.extract?_eq_none_iff (b : Basename) (name : String) :
    b.extract? name = none ↔ b.pattern.accepts name = false ∨
      ∃ w i j, b.pattern.pattern.find name.toList = some w ∧
        SpansVia name.toList b.pattern.pattern w i j ∧ ∀ s ∈ w, s.group ≠ 1 := by
  rw [NamePattern.accepts, ← isSome_find_eq_accepts, extract?]
  cases hfind : b.pattern.pattern.find name.toList with
  | none => exact iff_of_true rfl (.inl rfl)
  | some w =>
    obtain ⟨i, j, hvia⟩ := exists_spansVia_of_find hfind
    have hnone : w.captured? 1 = none ↔ ∀ s ∈ w, s.group ≠ 1 := Way.captured?_eq_none_iff
    cases hcaptured : w.captured? 1 with
    | none =>
      refine iff_of_true ?_ (.inr ⟨w, i, j, rfl, hvia, hnone.mp hcaptured⟩)
      simp [hcaptured]
    | some s =>
      refine iff_of_false (by simp [hcaptured]) ?_
      rintro (h | ⟨w', -, -, hw, -, hleft⟩)
      · cases h
      · cases hw
        rw [hnone.mpr hleft] at hcaptured
        cases hcaptured

/-- A base name is a piece of the name that it is taken from: a stretch that the group matched. -/
theorem Basename.exists_piece_of_extract? {b : Basename} {name base : String}
    (h : b.extract? name = some base) :
    ∃ w i j, SpansVia name.toList b.pattern.pattern w i j ∧ ∃ s ∈ w, s.group = 1 ∧
      name.toList = name.toList.take s.start ++ base.toList ++ name.toList.drop s.stop := by
  obtain ⟨w, hfind, h⟩ := Option.bind_eq_some_iff.mp h
  obtain ⟨s, hcaptured, h⟩ := Option.bind_eq_some_iff.mp h
  cases h
  obtain ⟨i, j, hvia⟩ := exists_spansVia_of_find hfind
  obtain ⟨hs, hgroup⟩ := Way.mem_of_captured? hcaptured
  obtain ⟨-, hle, -⟩ := hvia.bounds_of_mem hs
  refine ⟨w, i, j, hvia, s, hs, hgroup, ?_⟩
  have hstart : (name.toList.take s.stop).take s.start = name.toList.take s.start := by
    rw [List.take_take, Nat.min_eq_left hle]
  rw [String.toList_ofList, ← hstart, List.take_append_drop, List.take_append_drop]

/-- No names are derived from a name exactly when a pattern for base names is given and there is no base
name in it. -/
theorem DerivedName.isNever_recognizer_iff (o : DerivedName) (name : String) :
    (∃ r, o.recognizer name = .ok r ∧ r.isNever = true) ↔
      ∃ body b, o.basename = some body ∧ Basename.compile body = .ok b ∧
        b.extract? name = none := by
  -- a recognizer that is made for a base name has a pattern
  have hderived : ∀ b : Option Basename,
      (∃ r, o.recognizerWith name b = .ok r ∧ r.isNever = true) ↔ derive? name b = none := by
    intro b
    unfold DerivedName.recognizerWith Recognizer.derived
    cases derive? name b with
    | none => exact iff_of_true ⟨.never, rfl, rfl⟩ rfl
    | some base =>
      refine iff_of_false ?_ nofun
      rintro ⟨r, hr, hnever⟩
      dsimp only at hr
      split at hr
      · cases hr
        cases hnever
      · cases hr
  unfold DerivedName.recognizer
  cases o.basename with
  | none =>
    refine iff_of_false ?_ nofun
    intro h
    cases (hderived none).mp h
  | some text =>
    dsimp only
    cases hcompile : Basename.compile text with
    | error cause =>
      refine iff_of_false ?_ ?_
      · rintro ⟨r, hr, -⟩
        cases hr
      · rintro ⟨body, b, hbody, hb, -⟩
        cases hbody
        rw [hcompile] at hb
        cases hb
    | ok b =>
      have hextract : (∃ r, o.recognizerWith name (some b) = .ok r ∧ r.isNever = true) ↔
          b.extract? name = none := hderived (some b)
      refine Iff.trans hextract ⟨fun h => ⟨text, b, rfl, hcompile, h⟩, ?_⟩
      rintro ⟨body, b', hbody, hb, h⟩
      cases hbody
      rw [hcompile] at hb
      cases hb
      exact h

/-- There is no base name in a name exactly when the pattern for base names refuses it or its preferred
match leaves the group out, which cannot happen where the group is in every alternative and in no
repetition that needs no turn. To accept a name means that what the author has written matches the
whole of it. A base name is a piece of the name that the group matched. And no names are derived from
a name exactly when there is a pattern for base names and no base name. -/
theorem base_name_missing_iff {body : String} {b : Basename} (hcompile : Basename.compile body = .ok b)
    (name : String) :
    (∀ p, Pattern.read { caseInsensitive := true } body.toList = .ok p →
      (b.pattern.accepts name = true ↔ p.MatchesWhole name.toList)) ∧
    (b.extract? name = none ↔ b.pattern.accepts name = false ∨
      ∃ w i j, b.pattern.pattern.find name.toList = some w ∧
        SpansVia name.toList b.pattern.pattern w i j ∧ ∀ s ∈ w, s.group ≠ 1) ∧
    (b.pattern.pattern.takes 1 = true →
      (b.extract? name = none ↔ b.pattern.accepts name = false)) ∧
    (∀ base, b.extract? name = some base →
      ∃ w i j, SpansVia name.toList b.pattern.pattern w i j ∧ ∃ s ∈ w, s.group = 1 ∧
        name.toList = name.toList.take s.start ++ base.toList ++ name.toList.drop s.stop) ∧
    ∀ o : DerivedName, (∃ r, o.recognizer name = .ok r ∧ r.isNever = true) ↔
      ∃ body b, o.basename = some body ∧ Basename.compile body = .ok b ∧
        b.extract? name = none := by
  refine ⟨fun p hread => ?_, b.extract?_eq_none_iff name, fun htakes => ?_,
    fun base => Basename.exists_piece_of_extract?, fun o => o.isNever_recognizer_iff name⟩
  · have hignore : Pattern.read { caseInsensitive := Casing.ignore.isInsensitive } body.toList =
        .ok p := hread
    rw [NamePattern.accepts, NamePattern.pattern_of_compile hignore (Basename.compile_eq_ok hcompile),
      accepts_marked_iff]
  · rw [b.extract?_eq_none_iff, or_iff_left]
    rintro ⟨w, i, j, -, hvia, hleft⟩
    obtain ⟨s, hs, hgroup⟩ := hvia.exists_mem htakes
    exact hleft s hs hgroup

/-- A group that is in every match of its pattern. -/
theorem warehouse_base_name : ∃ b, Basename.compile "RF_(.*)_TABLE" = .ok b ∧
    b.pattern.pattern.takes 1 = true ∧
    (b.extract? "WAREHOUSE" = none ↔ b.pattern.accepts "WAREHOUSE" = false) := by
  obtain ⟨b, hb⟩ : ∃ b, Basename.compile "RF_(.*)_TABLE" = .ok b := ⟨_, rfl⟩
  have htakes : b.pattern.pattern.takes 1 = true := by
    cases hb
    rfl
  exact ⟨b, hb, htakes, (base_name_missing_iff hb "WAREHOUSE").2.2.1 htakes⟩

/-- A group that need not match: the name is accepted, there is no base name in it, and no names are
derived from it. -/
theorem left_out_base_name : ∃ b, Basename.compile "(RF_)?X" = .ok b ∧
    b.pattern.accepts "X" = true ∧ b.extract? "X" = none ∧
    DerivedName.recognizer { basename := some "(RF_)?X" } "X" = .ok .never :=
  ⟨_, rfl, by decide +kernel, by decide +kernel, by decide +kernel⟩

end AggregateNaming
