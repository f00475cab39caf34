import AggregateNaming.Proofs.Pattern.CaselessRead
import AggregateNaming.Proofs.RoundTrip
import Mathlib.Data.List.Find

/-!
# Names without regard to case

Where case does not count, a name is recognized in any case or in none, and by the same pattern. This
holds of all text of an author that is a pattern by itself and turns no switches. Names that are put
into it are escaped, and never turn any.

## Main definitions

- `Pattern.StandsAlone` : a text is a pattern by itself and turns no switches.
- `Recognizer.Caseless` : all patterns of a recognizer accept names in any case or in none.

## Main statements

- `NamePattern.accepts_eq_of_sameFold` : patterns.
- `ignore_accepts_any_case` : patterns, and the recognizers of all objects.
-/

namespace AggregateNaming

open Pattern
open Text (SameFold)

/-! ## §1 Patterns and recognizers -/

/-- A text is a pattern by itself where case does not count, and it turns no switches. -/
structure Pattern.StandsAlone (text : String) : Prop where
  valid : ∃ p, Pattern.read { caseInsensitive := true } text.toList = .ok p
  switchless : Switchless text.toList

/-- An escaped text is a pattern by itself. -/
theorem Pattern.standsAlone_escapeChars (w : List Char) :
    StandsAlone (.ofList (escapeChars w)) where
  valid := by
    rw [String.toList_ofList]
    exact ⟨_, read_escapeChars rfl w⟩
  switchless := by
    rw [String.toList_ofList]
    exact switchless_escapeChars w

/-- A pattern where case does not count accepts a name in any case or in none. -/
theorem NamePattern.accepts_eq_of_sameFold {body : String} {pat : NamePattern}
    (hbody : Pattern.StandsAlone body) (h : NamePattern.compile .ignore body = .ok pat)
    {c d : String} (hsame : List.Forall₂ SameFold c.toList d.toList) :
    pat.accepts c = pat.accepts d := by
  obtain ⟨p, hp⟩ := hbody.valid
  have hcaseless : p.Caseless := caseless_of_read hbody.switchless hp
  have hpattern : pat.pattern = p.marked := @NamePattern.pattern_of_compile .ignore body p pat hp h
  rw [Bool.eq_iff_iff, NamePattern.accepts, NamePattern.accepts, hpattern, accepts_marked_iff,
    accepts_marked_iff]
  exact matchesWhole_iff_of_sameFold hcaseless hsame

/-- Every pattern of a recognizer is made without regard to case from a text that is a pattern by
itself. -/
def Recognizer.Caseless (r : Recognizer) : Prop :=
  ∀ p ∈ r.patterns, ∃ body, Pattern.StandsAlone body ∧ NamePattern.compile .ignore body = .ok p.pattern

namespace Recognizer.Caseless

theorem never : Recognizer.never.Caseless := nofun

theorem single {id body : String} {pat : NamePattern} (hbody : Pattern.StandsAlone body)
    (h : NamePattern.compile .ignore body = .ok pat) : (Recognizer.single id pat).Caseless := by
  intro p hp
  cases List.mem_singleton.mp hp
  exact ⟨body, hbody, h⟩

/-- The first pattern that accepts a name is the first that accepts it in another case. -/
theorem firstMatch?_eq {r : Recognizer} (h : r.Caseless) {c d : String}
    (hsame : List.Forall₂ SameFold c.toList d.toList) : r.firstMatch? c = r.firstMatch? d := by
  have haccepts : ∀ p ∈ r.patterns, p.pattern.accepts c = p.pattern.accepts d := by
    intro p hp
    obtain ⟨body, hbody, hcompile⟩ := h p hp
    exact NamePattern.accepts_eq_of_sameFold hbody hcompile hsame
  rw [firstMatch?, firstMatch?, List.find?_congr haccepts]

theorem recognizes_eq {r : Recognizer} (h : r.Caseless) {c d : String}
    (hsame : List.Forall₂ SameFold c.toList d.toList) : r.recognizes c = r.recognizes d := by
  rw [recognizes, recognizes, h.firstMatch?_eq hsame]

end Recognizer.Caseless

/-! ## §2 Rule objects -/

/-- A name is escaped, whatever it is. -/
theorem FixedName.caseless_of_recognizerFor {o : FixedName} {expected : String} {r : Recognizer}
    (hcasing : o.casing = .ignore) (h : o.recognizerFor expected = .ok r) : r.Caseless := by
  unfold FixedName.recognizerFor at h
  rw [hcasing] at h
  split at h
  next p hp =>
    cases h
    exact .single (standsAlone_escapeChars _) hp
  next => cases h

/-- Names derived from a name without a base name have no pattern. -/
theorem DerivedName.recognizer_of_base?_eq_none {o : DerivedName} {name : String} {r : Recognizer}
    (hbase : o.base? name = none) (h : o.recognizer name = .ok r) : r = .never := by
  unfold DerivedName.base? at hbase
  unfold DerivedName.recognizer at h
  cases htext : o.basename with
  | none =>
    rw [htext] at hbase
    cases hbase
  | some text =>
    rw [htext] at hbase h
    dsimp only at hbase h
    obtain ⟨b, hb, h⟩ := bind_eq_ok_iff.mp h
    rw [hb] at hbase
    have hderive : derive? name (some b) = none := hbase
    unfold DerivedName.recognizerWith Recognizer.derived at h
    rw [hderive] at h
    cases h
    rfl

/-- The texts around a base name must stand alone with the base name between them. -/
theorem DerivedName.caseless_of_recognizer {o : DerivedName} {name : String} {r : Recognizer}
    (hcasing : o.casing = .ignore)
    (hbody : ∀ base, o.base? name = some base → Pattern.StandsAlone
      (o.before.getD "" ++ Casing.ignore.literal base ++ o.after.getD ""))
    (h : o.recognizer name = .ok r) : r.Caseless := by
  cases hbase : o.base? name with
  | some base =>
    rw [DerivedName.recognizer_of_base? hbase] at h
    unfold DerivedName.recognizerWith Recognizer.derived at h
    rw [hcasing] at h
    dsimp only [derive?] at h
    split at h
    next p hp =>
      cases h
      exact .single (hbody base hbase) hp
    next => cases h
  | none =>
    rw [DerivedName.recognizer_of_base?_eq_none hbase h]
    exact .never

/-- The texts that the templates in use make of the values must stand alone. -/
theorem TemplateMap.caseless_of_recognizer {o : TemplateMap} {values : List (String × String)}
    {r : Recognizer}
    (hbody : ∀ t ∈ o.templates, t.enabled = true → t.casingIn o.casingInForce = .ignore ∧
      ∀ text, t.render o.casingInForce values = .ok text → Pattern.StandsAlone text)
    (h : o.recognizer values = .ok r) : r.Caseless := by
  obtain ⟨patterns, hpatterns, h⟩ := bind_eq_ok_iff.mp h
  cases h
  intro p hp
  obtain ⟨t, ht, hcompile⟩ := exists_of_mem_of_mapM_eq_ok hpatterns p hp
  obtain ⟨hmem, henabled⟩ := List.mem_filter.mp ht
  obtain ⟨hcasing, hstands⟩ := hbody t hmem henabled
  obtain ⟨text, htext, hcompile⟩ := bind_eq_ok_iff.mp hcompile
  rw [hcasing] at hcompile
  split at hcompile
  next pat hpat =>
    cases hcompile
    exact ⟨text, hstands text htext, hpat⟩
  next => cases hcompile

/-- Where case does not count, two names that are the same up to case are accepted together or not at
all: by every pattern made from a text that stands alone, and by the objects whose texts do, for which
it is the same pattern that accepts them. -/
theorem ignore_accepts_any_case {c d : String} (hsame : List.Forall₂ SameFold c.toList d.toList) :
    (∀ (body : String) (pat : NamePattern), Pattern.StandsAlone body →
      NamePattern.compile .ignore body = .ok pat → pat.accepts c = pat.accepts d) ∧
    (∀ (o : TemplateMap) (values : List (String × String)) (r : Recognizer),
      (∀ t ∈ o.templates, t.enabled = true → t.casingIn o.casingInForce = .ignore ∧
        ∀ text, t.render o.casingInForce values = .ok text → Pattern.StandsAlone text) →
      o.recognizer values = .ok r →
      r.recognizes c = r.recognizes d ∧ r.firstMatch? c = r.firstMatch? d) ∧
    (∀ (o : DerivedName) (name : String) (r : Recognizer), o.casing = .ignore →
      (∀ base, o.base? name = some base → Pattern.StandsAlone
        (o.before.getD "" ++ Casing.ignore.literal base ++ o.after.getD "")) →
      o.recognizer name = .ok r →
      r.recognizes c = r.recognizes d ∧ r.firstMatch? c = r.firstMatch? d) ∧
    ∀ (o : FixedName) (expected : String) (r : Recognizer), o.casing = .ignore →
      o.recognizerFor expected = .ok r →
      r.recognizes c = r.recognizes d ∧ r.firstMatch? c = r.firstMatch? d := by
  have hrecognizer : ∀ r : Recognizer, r.Caseless →
      r.recognizes c = r.recognizes d ∧ r.firstMatch? c = r.firstMatch? d :=
    fun r hr => ⟨hr.recognizes_eq hsame, hr.firstMatch?_eq hsame⟩
  refine ⟨fun body pat hbody h => NamePattern.accepts_eq_of_sameFold hbody h hsame,
    fun o values r hbody h => ?_, fun o name r hcasing hbody h => ?_, fun o expected r hcasing h => ?_⟩
  · exact hrecognizer r (TemplateMap.caseless_of_recognizer hbody h)
  · exact hrecognizer r (DerivedName.caseless_of_recognizer hcasing hbody h)
  · exact hrecognizer r (FixedName.caseless_of_recognizerFor hcasing h)

/-- The Kelvin sign is a `k` in upper case, also behind a class of other letters. -/
theorem kelvin_sign_accepted : ∃ pat r r' r'',
    NamePattern.compile .ignore "[^a]k" = .ok pat ∧
    TemplateMap.recognizer { templates := [{ id := "t", text := "[^a]${level_name}" }] }
      [("level_name", "k")] = .ok r ∧
    DerivedName.recognizer { before := some "[^a]" } "k" = .ok r' ∧
    FixedName.recognizerFor {} "bk" = .ok r'' ∧
    pat.accepts "B\u212a" = true ∧ r.firstMatch? "B\u212a" = some "t" ∧
    r'.recognizes "B\u212a" = true ∧ r''.recognizes "B\u212a" = true := by
  have hsame : List.Forall₂ SameFold "bk".toList "B\u212a".toList := by decide +kernel
  have hstands : Pattern.StandsAlone "[^a]k" :=
    ⟨⟨_, rfl⟩, .token rfl rfl (.token rfl rfl .nil)⟩
  obtain ⟨hpattern, htemplates, hderived, hfixed⟩ := ignore_accepts_any_case hsame
  refine ⟨_, _, _, _, rfl, rfl, rfl, rfl, ?_, ?_, ?_, ?_⟩
  · rw [← hpattern "[^a]k" _ hstands rfl]
    decide +kernel
  · rw [← (htemplates { templates := [{ id := "t", text := "[^a]${level_name}" }] }
      [("level_name", "k")] _ ?_ rfl).2]
    · decide +kernel
    · intro t ht _
      cases List.mem_singleton.mp ht
      refine ⟨rfl, fun text htext => ?_⟩
      cases htext
      exact hstands
  · rw [← (hderived { before := some "[^a]" } "k" _ rfl ?_ rfl).1]
    · decide +kernel
    · intro base hbase
      cases hbase
      exact hstands
  · rw [← (hfixed {} "bk" _ rfl rfl).1]
    decide +kernel

end AggregateNaming
