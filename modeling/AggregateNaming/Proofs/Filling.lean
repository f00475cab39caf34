import AggregateNaming.Proofs.Fallible
import AggregateNaming.Proofs.Validity
import AggregateNaming.Proofs.Pattern.Literal

/-!
# Filling templates

What can still go wrong when an object that is in order is asked for a recognizer. Every placeholder
of a kind has a value in the requests of that kind, so that nothing but a pattern can be refused.

## Main definitions

- `Covers` : values are there for a list of placeholders.

## Main statements

- `Template.render_eq_ok` : a template whose placeholders have values is filled.
- `TemplateMap.recognizer_eq_error`, `DerivedName.recognizer_eq_error` : valid objects fail for
  refused patterns only.
- `FixedName.recognizerFor_eq_ok`, `TemplateMap.recognizer_ignore_eq_ok` : objects of two kinds
  never fail.
-/

namespace AggregateNaming

/-! ## §1 Values for placeholders -/

/-- Values are there for a list of placeholders. -/
def Covers (values : List (String × String)) (names : List String) : Prop :=
  ∀ name ∈ names, ∃ value, values.lookup name = some value

/-- The names of a level are values for all placeholders of levels. -/
theorem LevelNames.covers (n : LevelNames) : Covers n.values Kind.level.placeholders := by
  simp [Covers, LevelNames.values, Kind.placeholders, List.lookup_cons]

/-- The names of a measure are values for all placeholders of measures. -/
theorem MeasureNames.covers (n : MeasureNames) : Covers n.values Kind.measure.placeholders := by
  simp [Covers, MeasureNames.values, Kind.placeholders, List.lookup_cons]

/-! ## §2 Templates -/

/-- A template is filled part by part. -/
theorem Template.render_of_texts {t : Template} {inherited : Casing}
    {values : List (String × String)} {parts : List TemplatePart} {texts : List String}
    (hparse : Template.parse t.text = .ok parts)
    (htexts : parts.mapM (t.renderPart inherited values) = .ok texts) :
    t.render inherited values = .ok (String.join texts) := by
  have hmapped : (Template.parse t.text >>= fun parts =>
      parts.mapM (t.renderPart inherited values)) = .ok texts := by
    rw [hparse]
    exact htexts
  unfold Template.render
  rw [hmapped]

/-- The text of a filled template makes its pattern. -/
theorem Template.compile_of_ok {t : Template} {inherited : Casing}
    {values : List (String × String)} {text : String} (h : t.render inherited values = .ok text)
    {p : NamePattern} (hp : NamePattern.compile (t.casingIn inherited) text = .ok p) :
    t.compile inherited values = .ok ⟨t.id, p⟩ := by
  unfold Template.compile
  simp only [h, bind, Except.bind, hp]
  rfl

/-- A refused pattern is why a filled template makes none. -/
theorem Template.compile_of_error {t : Template} {inherited : Casing}
    {values : List (String × String)} {text : String} (h : t.render inherited values = .ok text)
    {cause : PatternError}
    (hp : NamePattern.compile (t.casingIn inherited) text = .error cause) :
    t.compile inherited values = .error (.pattern cause) := by
  unfold Template.compile
  simp only [h, bind, Except.bind, hp]

/-- A template whose placeholders have values is filled. -/
theorem Template.render_eq_ok {k : Kind} {inherited : Casing} {t : Template}
    (hvalid : t.Valid k inherited) {values : List (String × String)}
    (hvalues : Covers values k.placeholders) : ∃ text, t.render inherited values = .ok text := by
  obtain ⟨parts, hparse, hlegal⟩ := hvalid.legal
  have hparts : ∀ part ∈ parts, ∃ text, t.renderPart inherited values part = .ok text := by
    intro part hpart
    cases part with
    | literal text => exact ⟨text, rfl⟩
    | placeholder name =>
      obtain ⟨value, hvalue⟩ := hvalues name (hlegal name hpart)
      exact ⟨(t.casingIn inherited).literal (t.mark value), by
        simp only [Template.renderPart, hvalue]⟩
  obtain ⟨texts, htexts⟩ := mapM_eq_ok_of_forall hparts
  exact ⟨String.join texts, Template.render_of_texts hparse htexts⟩

/-- A valid template fails for a refused pattern only. -/
theorem Template.compile_eq_error {k : Kind} {inherited : Casing} {t : Template}
    (hvalid : t.Valid k inherited) {values : List (String × String)}
    (hvalues : Covers values k.placeholders) {e : RuleError}
    (h : t.compile inherited values = .error e) : ∃ cause, e = .pattern cause := by
  obtain ⟨text, htext⟩ := Template.render_eq_ok hvalid hvalues
  cases hp : NamePattern.compile (t.casingIn inherited) text with
  | ok p =>
    rw [Template.compile_of_ok htext hp] at h
    cases h
  | error cause =>
    rw [Template.compile_of_error htext hp] at h
    cases h
    exact ⟨cause, rfl⟩

/-! ## §3 Objects -/

/-- A map with templates succeeds when all its enabled templates do. -/
theorem TemplateMap.recognizer_eq_ok {o : TemplateMap} {values : List (String × String)}
    (h : ∀ t ∈ o.templates, t.enabled = true → ∃ p, t.compile o.casingInForce values = .ok p) :
    ∃ r, o.recognizer values = .ok r := by
  have hon : ∀ t ∈ o.templates.filter fun t => t.enabled,
      ∃ p, t.compile o.casingInForce values = .ok p := by
    intro t ht
    rw [List.mem_filter] at ht
    exact h t ht.1 ht.2
  obtain ⟨ps, hps⟩ := mapM_eq_ok_of_forall hon
  refine ⟨⟨ps⟩, ?_⟩
  unfold TemplateMap.recognizer
  rw [hps]
  rfl

/-- Where a map with templates fails, an enabled template does. -/
theorem TemplateMap.exists_of_recognizer_eq_error {o : TemplateMap}
    {values : List (String × String)} {e : RuleError} (h : o.recognizer values = .error e) :
    ∃ t ∈ o.templates, t.enabled = true ∧ t.compile o.casingInForce values = .error e := by
  unfold TemplateMap.recognizer at h
  cases hm : (o.templates.filter fun t => t.enabled).mapM
      fun t => t.compile o.casingInForce values with
  | ok ps =>
    rw [hm] at h
    cases h
  | error e' =>
    rw [hm] at h
    cases h
    obtain ⟨t, ht, hfail⟩ := exists_of_mapM_eq_error hm
    rw [List.mem_filter] at ht
    exact ⟨t, ht.1, ht.2, hfail⟩

/-- A valid map with templates fails for a refused pattern only. -/
theorem TemplateMap.recognizer_eq_error {k : Kind} {o : TemplateMap} (hvalid : o.Valid k)
    {values : List (String × String)} (hvalues : Covers values k.placeholders) {e : RuleError}
    (h : o.recognizer values = .error e) : ∃ cause, e = .pattern cause := by
  obtain ⟨t, ht, -, hfail⟩ := TemplateMap.exists_of_recognizer_eq_error h
  exact Template.compile_eq_error (hvalid t ht) hvalues hfail

/-- A valid map that leaves names alone never fails: it has no placeholders, so that what is filled
is what has been tried. -/
theorem TemplateMap.recognizer_ignore_eq_ok {o : TemplateMap} (hvalid : o.Valid .ignore) :
    ∃ r, o.recognizer [] = .ok r :=
  TemplateMap.recognizer_eq_ok fun t ht _ => (hvalid t ht).compiles

/-- The recognizer of a name never fails. -/
theorem FixedName.recognizerFor_eq_ok (o : FixedName) (name : String) :
    ∃ r, o.recognizerFor name = .ok r := by
  obtain ⟨p, hp⟩ := NamePattern.compile_literal o.casing name
  exact ⟨.single o.id p, by simp only [FixedName.recognizerFor, hp]⟩

/-- Names built around a base name fail for a refused pattern only. -/
theorem DerivedName.recognizerWith_eq_error {o : DerivedName} {name : String}
    {basename : Option Basename} {e : RuleError} (h : o.recognizerWith name basename = .error e) :
    ∃ cause, e = .pattern cause := by
  unfold DerivedName.recognizerWith Recognizer.derived at h
  split at h
  · cases h
  · split at h
    · cases h
    next cause _ =>
      cases h
      exact ⟨cause, rfl⟩

/-- Valid derived names fail for a refused pattern only. -/
theorem DerivedName.recognizer_eq_error {o : DerivedName} (hvalid : o.Valid) {name : String}
    {e : RuleError} (h : o.recognizer name = .error e) : ∃ cause, e = .pattern cause := by
  unfold DerivedName.recognizer at h
  split at h
  · exact DerivedName.recognizerWith_eq_error h
  next text htext =>
    obtain ⟨b, hb⟩ := hvalid.basename text htext
    rw [hb] at h
    exact DerivedName.recognizerWith_eq_error h

end AggregateNaming
