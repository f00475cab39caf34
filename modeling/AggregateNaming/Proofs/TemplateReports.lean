import AggregateNaming.Proofs.Transparency
import AggregateNaming.Proofs.Validity

/-!
# What is reported about templates

Validation looks at the templates of a map one after another and has something to say about each of
them in two places: about its id from outside, because others may have come before it with the same,
and about its text from inside. What it says inside does not depend on the other templates: it is what
would be said about a map with this template alone.

## Main definitions

- `Template.reports` : the diagnostics about a template that is alone in its map.
- `Template.Reported` : which diagnostics these are, by what is the matter with the template.
- `Template.repetition` : the warning about an id that an earlier template has.

## Main statements

- `Template.reports_eq_iff` : there are four kinds of reports about a template alone, which exclude
  each other.
- `TemplateMap.reportsIn_checkTemplates` : the reports about templates, those about one after those
  about the other.
- `TemplateMap.reports_template_by_template` : all that is reported about a map.
-/

namespace AggregateNaming

open Check (reportsIn Transparent)

/-! ## §1 One template -/

namespace Template

/-- The diagnostics about a template that is the only one of a map with a casing policy. -/
def reports (k : Kind) (policy : Casing) (t : Template) : List Diagnostic :=
  ((TemplateMap.check k { casing := some policy, templates := [t] }).run {}).2.diagnostics

/-- A diagnostic at the place of a template. -/
def diagnostic (t : Template) (level : Level) (message : String) : Diagnostic :=
  ⟨level, s!"Regex[{t.id}]", message⟩

/-- The error for a part that templates of a kind may not have. -/
def illegalUse (k : Kind) (t : Template) : TemplatePart → List Diagnostic
  | .literal _ => []
  | .placeholder name =>
    if name ∈ k.placeholders then []
    else [t.diagnostic .error (TemplateMap.illegalNameMessage k name)]

/-- The diagnostics about a template, by what is the matter with it. -/
inductive Reported (k : Kind) (policy : Casing) (t : Template) : List Diagnostic → Prop where
  /-- The text cannot be read. -/
  | unreadable {cause : TemplateError} (hparse : parse t.text = .error cause) :
      Reported k policy t [t.diagnostic .error (RuleError.template cause).message]
  /-- Some placeholders are none of the kind. Every use of one is an error. -/
  | illegal {parts : List TemplatePart} {name : String} (hparse : parse t.text = .ok parts)
      (huse : .placeholder name ∈ parts) (hillegal : name ∉ k.placeholders) :
      Reported k policy t (parts.flatMap (t.illegalUse k))
  /-- The placeholders are those of the kind, and filling them with the probe does not make a
  pattern. -/
  | refused {parts : List TemplatePart} {cause : RuleError} (hparse : parse t.text = .ok parts)
      (hlegal : ∀ name, .placeholder name ∈ parts → name ∈ k.placeholders)
      (hcompile : t.compile policy (k.placeholders.map (·, TemplateMap.probe)) = .error cause) :
      Reported k policy t [t.diagnostic .error s!"template does not compile: {cause.message}"]
  /-- The template is in order. A text that is empty is worth a warning. -/
  | accepted (hvalid : t.Valid k policy) :
      Reported k policy t
        (if t.text = "" then
          [t.diagnostic .warn "template is empty; it only matches an empty name"] else [])

variable {k : Kind} {policy : Casing} {t : Template}

/-- What is reported about a template alone is what the check of the template reports in its place. -/
theorem reports_eq_reportsIn :
    t.reports k policy = reportsIn [s!"Regex[{t.id}]"] (TemplateMap.checkTemplate k policy t) := rfl

/-- Every use of a placeholder that is none of the kind is an error, in the order of the text. -/
theorem flatMap_illegalUse (parts : List TemplatePart) :
    parts.flatMap (t.illegalUse k) = (TemplateMap.illegalNames k parts).map fun name =>
      t.diagnostic .error (TemplateMap.illegalNameMessage k name) := by
  induction parts with
  | nil => rfl
  | cons part parts ih =>
    rw [List.flatMap_cons, ih]
    cases part with
    | literal text => rfl
    | placeholder name =>
      by_cases hlegal : name ∈ k.placeholders <;>
        simp [illegalUse, TemplateMap.illegalNames, TemplatePart.name?, hlegal]

/-- One error after the other is reported for a list of names. -/
theorem reportsIn_illegalNames (k : Kind) (path : List String) (names : List String) :
    reportsIn path (names.forM fun name => Check.error (TemplateMap.illegalNameMessage k name)) =
      names.map fun name =>
        ⟨.error, Recorder.renderPath path, TemplateMap.illegalNameMessage k name⟩ := by
  induction names with
  | nil => rfl
  | cons name names ih =>
    have herror := Transparent.report .error (TemplateMap.illegalNameMessage k name)
    have hrest := TemplateMap.reportIllegal_transparent k names
    refine (herror.reportsIn_bind fun _ => hrest).trans ?_
    rw [Check.reportsIn_report, ih, List.map_cons, List.singleton_append]

/-- In each case there are the reports of the case. -/
theorem Reported.reports_eq {ds : List Diagnostic} (h : t.Reported k policy ds) :
    t.reports k policy = ds := by
  rw [reports_eq_reportsIn, TemplateMap.checkTemplate]
  cases h with
  | unreadable hparse =>
    simp only [hparse]
    rfl
  | @illegal parts name hparse huse hillegal =>
    simp only [hparse, flatMap_illegalUse]
    cases hnames : TemplateMap.illegalNames k parts with
    | nil => exact absurd ((TemplateMap.illegalNames_eq_nil_iff k parts).mp hnames name huse) hillegal
    | cons first names =>
      -- the refusal after the errors reports nothing
      have herrors := TemplateMap.reportIllegal_transparent k (first :: names)
      refine (herrors.reportsIn_bind fun _ => Transparent.pure false).trans ?_
      rw [reportsIn_illegalNames, Check.reportsIn_pure, List.append_nil]
      rfl
  | @refused parts cause hparse hlegal hcompile =>
    have hnames := (TemplateMap.illegalNames_eq_nil_iff k parts).mpr hlegal
    simp only [hparse, hnames, hcompile]
    rfl
  | accepted hvalid =>
    obtain ⟨⟨parts, hparse, hlegal⟩, p, hcompile⟩ := hvalid
    have hnames := (TemplateMap.illegalNames_eq_nil_iff k parts).mpr hlegal
    simp only [hparse, hnames, hcompile, ← String.isEmpty_iff]
    split_ifs <;> rfl

/-- Every template is one of the cases. -/
theorem exists_reported (k : Kind) (policy : Casing) (t : Template) :
    ∃ ds, t.Reported k policy ds := by
  cases hparse : parse t.text with
  | error cause => exact ⟨_, .unreadable hparse⟩
  | ok parts =>
    by_cases hlegal : ∀ name, .placeholder name ∈ parts → name ∈ k.placeholders
    · cases hcompile : t.compile policy (k.placeholders.map (·, TemplateMap.probe)) with
      | error cause => exact ⟨_, .refused hparse hlegal hcompile⟩
      | ok p => exact ⟨_, .accepted ⟨⟨parts, hparse, hlegal⟩, p, hcompile⟩⟩
    · obtain ⟨name, hname⟩ := not_forall.mp hlegal
      obtain ⟨huse, hillegal⟩ := Classical.not_imp.mp hname
      exact ⟨_, .illegal hparse huse hillegal⟩

/-- What is reported about a template alone is what belongs to one of the cases, so that there are no
two of them with different reports. -/
theorem reports_eq_iff {ds : List Diagnostic} :
    t.reports k policy = ds ↔ t.Reported k policy ds := by
  refine ⟨?_, Reported.reports_eq⟩
  rintro rfl
  obtain ⟨ds, h⟩ := exists_reported k policy t
  rwa [h.reports_eq]

/-! ## §2 Templates one after another -/

/-- The warning about the id of a template when others come before it. -/
def repetition (earlier : List Template) (t : Template) : List Diagnostic :=
  if ∃ u ∈ earlier, u.id = t.id then [⟨.warn, "", s!"duplicate template id '{t.id}'"⟩] else []

end Template

namespace TemplateMap

/-- The reports about the first template come before those about the others. -/
theorem reportsIn_checkTemplates_cons (k : Kind) (policy : Casing) (earlier : List Template)
    (t : Template) (ts : List Template) :
    reportsIn [] (checkTemplates k policy (earlier.map (·.id)).reverse (t :: ts)) =
      t.repetition earlier ++ t.reports k policy ++
        reportsIn [] (checkTemplates k policy ((earlier ++ [t]).map (·.id)).reverse ts) := by
  have hseen : ((earlier ++ [t]).map (·.id)).reverse = t.id :: (earlier.map (·.id)).reverse := by simp
  have hinside := (checkTemplate_transparent k policy t).inside
    (append_bracket_ne_empty "Regex[" t.id)
  have hrest := checkTemplates_transparent k policy (t.id :: (earlier.map (·.id)).reverse) ts
  rw [hseen, List.append_assoc]
  refine ((hinside.and hrest).reportsIn_reportWhen _ _ _).trans (congrArg₂ (· ++ ·) ?_ ?_)
  · simp [Template.repetition, Recorder.renderPath]
  · -- inside its own part there is nothing around the template
    rw [hinside.reportsIn_and hrest, Check.reportsIn_inside, List.nil_append,
      Template.reports_eq_reportsIn]
    rfl

/-- The reports about templates, when others come before them: for one after the other its id, and then
what is reported about it alone. -/
theorem reportsIn_checkTemplates (k : Kind) (policy : Casing) (earlier ts : List Template) :
    reportsIn [] (checkTemplates k policy (earlier.map (·.id)).reverse ts) =
      (ts.zipIdx earlier.length).flatMap fun (t, place) =>
        t.repetition ((earlier ++ ts).take place) ++ t.reports k policy := by
  induction ts generalizing earlier with
  | nil => rfl
  | cons t ts ih =>
    -- the first template is one of the earlier ones for all the others
    have hrest := ih (earlier ++ [t])
    rw [List.append_assoc, List.singleton_append, List.length_append, List.length_singleton] at hrest
    rw [reportsIn_checkTemplates_cons, hrest, List.zipIdx_cons, List.flatMap_cons]
    dsimp only
    rw [List.take_left]

/-- Validation says something about the templates of a map of any kind one after another, the ones that
are not enabled too. Where there are none it says so, unless the kind leaves names alone. Before it looks
at a template it warns of an id that an earlier one has; then it reports, in the place of the template,
what it would report if there were no other, which is one error for a text that cannot be read, or else
one for every use of an illegal name, or else one for a pattern that is refused, or else no error. -/
theorem reports_template_by_template (k : Kind) (o : TemplateMap) :
    ((TemplateMap.check k o).run {}).2.diagnostics =
      (if o.templates = [] ∧ k ≠ .ignore then
        [⟨.warn, "", "no templates; this map matches nothing"⟩] else []) ++
      o.templates.zipIdx.flatMap (fun (t, place) =>
        t.repetition (o.templates.take place) ++ t.reports k o.casingInForce) ∧
    ∀ (t : Template) (ds : List Diagnostic),
      t.reports k o.casingInForce = ds ↔ t.Reported k o.casingInForce ds := by
  refine ⟨?_, fun t ds => Template.reports_eq_iff⟩
  have htemplates := checkTemplates_transparent k o.casingInForce [] o.templates
  have hreports := reportsIn_checkTemplates k o.casingInForce [] o.templates
  refine (htemplates.reportsIn_reportWhen _ _ _).trans (congrArg₂ (· ++ ·) ?_ hreports)
  cases k <;> simp [Kind.isMandatory, Recorder.renderPath]

-- A name is reported as often as it is used, and the text that cannot be read under its own id only.
example : ((check .ignore { templates :=
      [{ id := "a", text := "$\x7bx\x7d$\x7by\x7d$\x7bx\x7d" }, { id := "b", text := "$\x7b" },
        { id := "a", text := "", enabled := false }] }).run {}).2.diagnostics =
    [⟨.error, "Regex[a]", "illegal template name 'x': IgnoreMap templates take no names"⟩,
      ⟨.error, "Regex[a]", "illegal template name 'y': IgnoreMap templates take no names"⟩,
      ⟨.error, "Regex[a]", "illegal template name 'x': IgnoreMap templates take no names"⟩,
      ⟨.error, "Regex[b]", "template error: unclosed placeholder in '$\x7b': missing '\x7d'"⟩,
      ⟨.warn, "", "duplicate template id 'a'"⟩,
      ⟨.warn, "Regex[a]", "template is empty; it only matches an empty name"⟩] := by
  decide +kernel

end TemplateMap

end AggregateNaming
