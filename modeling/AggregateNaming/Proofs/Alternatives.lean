import AggregateNaming.Object
import AggregateNaming.Proofs.Filling
import AggregateNaming.Proofs.Tracing

/-!
# Templates as alternatives

The recognizer of a map is its enabled templates side by side, each as it would be alone under the
policy that counts for it. All that the map adds is the order: the first template that fails says why
there is no recognizer, and the first that accepts a name says what the name is.

## Main definitions

- `Recognizer.append` : two recognizers side by side.
- `TemplateMap.alternatives` : the enabled templates of a map.
- `Template.accepts` : whether the pattern of a template alone accepts a name.
- `Template.withPolicy` : a template that inherits nothing.

## Main statements

- `TemplateMap.recognizer_eq_error_iff_first`, `TemplateMap.recognizer_eq_ok_iff_patterns` : what the
  recognizer of a map is.
- `Template.firstMatch?_of_patterns` : the first pattern that accepts a name is that of the first
  template that does.
- `TemplateMap.recognizer_of_alternatives` : all of it, and what it does not depend on.
-/

namespace AggregateNaming

/-! ## §1 Recognizers side by side -/

namespace Recognizer

/-- The patterns of a recognizer, and then those of another one. -/
def append (r r' : Recognizer) : Recognizer := ⟨r.patterns ++ r'.patterns⟩

/-- The second of two recognizers is asked for the names that the first does not accept. -/
@[simp] theorem firstMatch?_append (r r' : Recognizer) (name : String) :
    (r.append r').firstMatch? name = (r.firstMatch? name).or (r'.firstMatch? name) := by
  simp only [firstMatch?, append, List.find?_append, Option.map_or]

/-- Two recognizers side by side recognize what one of them does. -/
theorem recognizes_append (r r' : Recognizer) (name : String) :
    (r.append r').recognizes name = (r.recognizes name || r'.recognizes name) := by
  simp only [recognizes, firstMatch?_append, Option.isSome_or]

end Recognizer

/-! ## §2 Single templates -/

namespace Template

/-- The template with a policy of its own: the one that it has, or the given one where it has none. -/
def withPolicy (t : Template) (policy : Casing) : Template :=
  { t with casing := some (t.casing.getD policy) }

/-- A template with a policy of its own is filled the same whatever it would inherit. -/
theorem compile_withPolicy (t : Template) (policy other : Casing) (values : List (String × String)) :
    (t.withPolicy policy).compile other values = t.compile policy values := rfl

/-- The pattern of a template has the id of the template. -/
theorem id_of_compile {t : Template} {inherited : Casing} {values : List (String × String)}
    {p : NamedPattern} (h : t.compile inherited values = .ok p) : p.id = t.id := by
  unfold compile at h
  obtain ⟨text, -, h⟩ := bind_eq_ok_iff.mp h
  split at h
  · cases h
    rfl
  · cases h

/-- Whether there is a pattern of the template, and it accepts a name. -/
def accepts (t : Template) (inherited : Casing) (values : List (String × String)) (name : String) :
    Bool :=
  match t.compile inherited values with
  | .ok p => p.pattern.accepts name
  | .error _ => false

section Patterns

variable {inherited : Casing} {values : List (String × String)} {ts : List Template}
  {ps : List NamedPattern}

/-- The patterns of templates have the ids of the templates. -/
theorem map_id_of_patterns (h : List.Forall₂ (fun t p => t.compile inherited values = .ok p) ts ps) :
    ps.map (·.id) = ts.map (·.id) := by
  induction h with
  | nil => rfl
  | cons hp _ ih => rw [List.map_cons, List.map_cons, id_of_compile hp, ih]

/-- The first pattern that accepts a name is that of the first template that does. -/
theorem firstMatch?_of_patterns
    (h : List.Forall₂ (fun t p => t.compile inherited values = .ok p) ts ps) (name : String) :
    (⟨ps⟩ : Recognizer).firstMatch? name =
      (ts.find? (·.accepts inherited values name)).map (·.id) := by
  simp only [Recognizer.firstMatch?]
  -- on the templates along with their patterns: the first of them accepts the name, or the rest decide
  induction h with
  | nil => rfl
  | @cons t p ts ps hp _ ih =>
    have haccepts : t.accepts inherited values name = p.pattern.accepts name := by
      simp only [accepts, hp]
    rw [List.find?_cons, List.find?_cons, haccepts]
    cases p.pattern.accepts name with
    | true => exact congrArg some (id_of_compile hp)
    | false => exact ih

end Patterns

end Template

/-! ## §3 Maps -/

namespace TemplateMap

variable {o : TemplateMap} {values : List (String × String)}

/-- The enabled templates of a map, in order of preference. -/
def alternatives (o : TemplateMap) : List Template := o.templates.filter (·.enabled)

/-- A map has no recognizer for the reason that the first enabled template without a pattern has none
for. -/
theorem recognizer_eq_error_iff_first {e : RuleError} :
    o.recognizer values = .error e ↔ ∃ before t after, o.alternatives = before ++ t :: after ∧
      (∀ u ∈ before, ∃ p, u.compile o.casingInForce values = .ok p) ∧
      t.compile o.casingInForce values = .error e := by
  rw [← mapM_eq_error_iff, recognizer, bind_eq_error_iff]
  -- making a recognizer of the patterns does not fail
  exact or_iff_left fun ⟨ps, _, hps⟩ => nomatch hps

/-- The recognizer of a map has the pattern of every enabled template, in order. -/
theorem recognizer_eq_ok_iff_patterns {r : Recognizer} :
    o.recognizer values = .ok r ↔
      List.Forall₂ (fun t p => t.compile o.casingInForce values = .ok p) o.alternatives r.patterns := by
  rw [← mapM_eq_ok_iff, recognizer, bind_eq_ok_iff]
  constructor
  · rintro ⟨ps, hps, h⟩
    cases h
    exact hps
  · exact fun h => ⟨r.patterns, h, rfl⟩

/-- Some enabled template has no pattern where a map has no recognizer, and the other way around. -/
theorem exists_recognizer_eq_error_iff :
    (∃ e, o.recognizer values = .error e) ↔ ∃ t ∈ o.templates, t.enabled = true ∧
      ∃ e, t.compile o.casingInForce values = .error e := by
  constructor
  · rintro ⟨e, h⟩
    obtain ⟨t, hmem, hon, ht⟩ := exists_of_recognizer_eq_error h
    exact ⟨t, hmem, hon, e, ht⟩
  · rintro ⟨t, hmem, hon, e, ht⟩
    cases h : o.recognizer values with
    | error e' => exact ⟨e', rfl⟩
    | ok r =>
      -- otherwise all enabled templates would have patterns, this one too
      obtain ⟨p, hp⟩ := forall_of_mapM_eq_ok (mapM_eq_ok_iff.mpr (recognizer_eq_ok_iff_patterns.mp h))
        t (List.mem_filter.mpr ⟨hmem, hon⟩)
      rw [ht] at hp
      cases hp

/-- A name is recognized where some enabled template accepts it, and under the id of the first that
does. -/
theorem firstMatch?_recognizer {r : Recognizer} (h : o.recognizer values = .ok r) (name : String) :
    r.firstMatch? name =
      (o.alternatives.find? (·.accepts o.casingInForce values name)).map (·.id) :=
  Template.firstMatch?_of_patterns (recognizer_eq_ok_iff_patterns.mp h) name

/-- Two lists of templates one after the other make two recognizers side by side. -/
theorem recognizer_append (o : TemplateMap) (values : List (String × String)) (us vs : List Template) :
    ({ o with templates := us ++ vs } : TemplateMap).recognizer values = (do
      let r ← ({ o with templates := us } : TemplateMap).recognizer values
      let r' ← ({ o with templates := vs } : TemplateMap).recognizer values
      return r.append r') := by
  simp only [recognizer, List.filter_append, List.mapM_append, bind_assoc, pure_bind]
  rfl

/-- A map has a recognizer if and only if every enabled template has a pattern under the policy that
counts for it, its own or that of the map, which is not to heed case where the map has none; the first
template without a pattern says why there is no recognizer. The recognizer has these patterns, one for
each enabled template in order, recognizes what one of them accepts, and answers with the id of the
first that does. So templates that are not enabled may be left out, and all templates may be given the
policies that count for them, after which that of the map does not matter; and the recognizer of a list
of templates is that of its first part beside that of the rest. -/
theorem recognizer_of_alternatives (o : TemplateMap) (values : List (String × String)) :
    ((∃ e, o.recognizer values = .error e) ↔ ∃ t ∈ o.templates, t.enabled = true ∧
      ∃ e, t.compile (o.casing.getD .ignore) values = .error e) ∧
    (∀ e, o.recognizer values = .error e ↔ ∃ before t after,
      o.templates.filter (·.enabled) = before ++ t :: after ∧
      (∀ u ∈ before, ∃ p, u.compile (o.casing.getD .ignore) values = .ok p) ∧
      t.compile (o.casing.getD .ignore) values = .error e) ∧
    (∀ r, o.recognizer values = .ok r ↔
      List.Forall₂ (fun t p => t.compile (o.casing.getD .ignore) values = .ok p)
        (o.templates.filter (·.enabled)) r.patterns) ∧
    (∀ r, o.recognizer values = .ok r →
      r.patterns.map (·.id) = (o.templates.filter (·.enabled)).map (·.id) ∧ ∀ name,
        (r.recognizes name = true ↔ ∃ t ∈ o.templates, t.enabled = true ∧
          t.accepts (o.casing.getD .ignore) values name = true) ∧
        r.firstMatch? name = ((o.templates.filter (·.enabled)).find?
          (·.accepts (o.casing.getD .ignore) values name)).map (·.id)) ∧
    ({ o with templates := o.templates.filter (·.enabled) } : TemplateMap).recognizer values =
      o.recognizer values ∧
    (∀ policy, ({ o with
        casing := policy,
        templates := o.templates.map (·.withPolicy (o.casing.getD .ignore)) } : TemplateMap).recognizer
          values = o.recognizer values) ∧
    ∀ us vs, ({ o with templates := us ++ vs } : TemplateMap).recognizer values = (do
        let r ← ({ o with templates := us } : TemplateMap).recognizer values
        let r' ← ({ o with templates := vs } : TemplateMap).recognizer values
        return r.append r') ∧
      ∀ r r' : Recognizer, ∀ name,
        (r.append r').recognizes name = (r.recognizes name || r'.recognizes name) ∧
        (r.append r').firstMatch? name = (r.firstMatch? name).or (r'.firstMatch? name) := by
  refine ⟨exists_recognizer_eq_error_iff, fun e => recognizer_eq_error_iff_first,
    fun r => recognizer_eq_ok_iff_patterns, fun r h => ?_, ?_, fun policy => ?_, fun us vs => ?_⟩
  · have hpatterns := recognizer_eq_ok_iff_patterns.mp h
    refine ⟨Template.map_id_of_patterns hpatterns, fun name => ⟨?_, firstMatch?_recognizer h name⟩⟩
    rw [Recognizer.recognizes, firstMatch?_recognizer h name, Option.isSome_map, List.find?_isSome]
    simp only [alternatives, List.mem_filter, and_assoc]
    rfl
  · simp only [recognizer, List.filter_filter, Bool.and_self]
    rfl
  · -- the switch of a template is not touched, and neither is what it is filled with
    simp only [recognizer, List.filter_map, List.mapM_map, Function.comp_def,
      Template.compile_withPolicy]
    rfl
  · exact ⟨recognizer_append o values us vs, fun r r' name =>
      ⟨Recognizer.recognizes_append r r' name, Recognizer.firstMatch?_append r r' name⟩⟩

/-- A map whose first template is broken, and not enabled unless wanted. The others have different
policies. -/
def mixed (wanted : Bool) : TemplateMap where
  casing := some .upper
  templates := [{ id := "off", enabled := wanted, text := "(" },
    { id := "own", casing := some .exact, text := "m_$\x7bx\x7d" },
    { id := "up", text := "$\x7bx\x7d_n" }]

/-- The value is in upper case only where the template inherits that. The broken template is the reason
why there is no recognizer when it is enabled. -/
theorem recognizer_of_mixed :
    (∃ r, (mixed false).recognizer [("x", "a")] = .ok r ∧ r.patterns.map (·.id) = ["own", "up"] ∧
      r.firstMatch? "m_a" = some "own" ∧ r.firstMatch? "A_n" = some "up" ∧
      r.recognizes "a_n" = false) ∧
    ∃ e, (mixed true).recognizer [("x", "a")] = .error e ∧
      Template.compile { id := "off", text := "(" } .upper [("x", "a")] = .error e := by
  obtain ⟨r, hr⟩ : ∃ r, (mixed false).recognizer [("x", "a")] = .ok r := ⟨_, rfl⟩
  obtain ⟨e, he⟩ : ∃ e, Template.compile { id := "off", text := "(" } .upper [("x", "a")] = .error e :=
    ⟨_, rfl⟩
  have hanswers := (recognizer_of_alternatives (mixed false) [("x", "a")]).2.2.2.1 r hr
  -- the templates are asked one by one, and not the recognizer of the map
  have hnone : r.recognizes "a_n" = false := by
    rw [Recognizer.recognizes, (hanswers.2 "a_n").2]
    decide +kernel
  refine ⟨⟨r, hr, hanswers.1, (hanswers.2 "m_a").2.trans (by decide +kernel),
    (hanswers.2 "A_n").2.trans (by decide +kernel), hnone⟩, e, ?_, he⟩
  exact ((recognizer_of_alternatives (mixed true) [("x", "a")]).2.1 e).mpr
    ⟨[], _, _, rfl, List.forall_mem_nil _, he⟩

end TemplateMap

end AggregateNaming
