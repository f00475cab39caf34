import AggregateNaming.Object
import AggregateNaming.Proofs.Filling
import AggregateNaming.Proofs.Pattern.ReadFill
import AggregateNaming.Rule

/-!
# Trying objects with probes

Validation fills templates with one value, so that an object that has passed it can still meet
values that its patterns do not agree with. Here is how much trying would be enough: an object that
accepts all probes as values accepts all values.

## Main definitions

- `MadeOf` : the texts that are probes.
- `TemplatePart.symbols`, `Template.filling` : templates as texts with holes.
- `TemplateMap.Refuses`, `DerivedName.Refuses` : an object that refuses a pattern.

## Main statements

- `Template.render_eq` : a template is filled as a text with holes.
- `TemplateMap.recognizer_of_probes`, `DerivedName.recognizerWith_of_probes` : what succeeds with
  all probes as values succeeds with all values.
- `refuses_iff_refuses_probe` : when an object that has passed validation refuses a pattern.
-/

namespace AggregateNaming

open Pattern

/-! ## §1 Probes as values -/

/-- A text of at most two characters out of a list. -/
def MadeOf (chars : List Char) (text : String) : Prop :=
  text.toList.length ≤ 2 ∧ ∀ c ∈ text.toList, c ∈ chars

/-- The characters that probes are made of are no letters. -/
theorem upperChars_probe {c : Char} (h : c ∈ probeChars) : Text.upperChars c = [c] := by
  simp only [probeChars, List.mem_cons, List.not_mem_nil, or_false] at h
  rcases h with rfl | rfl | rfl
  · rfl
  · rfl
  · rfl

theorem lowerChars_probe {c : Char} (h : c ∈ probeChars) :
    c ≠ 'Σ' ∧ Text.lowerChars c = [c] := by
  simp only [probeChars, List.mem_cons, List.not_mem_nil, or_false] at h
  rcases h with rfl | rfl | rfl
  · exact ⟨by decide, rfl⟩
  · exact ⟨by decide, rfl⟩
  · exact ⟨by decide, rfl⟩

/-- No policy changes the characters that probes are made of. -/
theorem Casing.foldChars_probe (casing : Casing) {cs : List Char} (h : ∀ c ∈ cs, c ∈ probeChars) :
    casing.foldChars cs = cs := by
  cases casing with
  | ignore => rfl
  | exact => rfl
  | upper =>
    show cs.flatMap Text.upperChars = cs
    rw [List.flatMap_congr fun c hc => upperChars_probe (h c hc)]
    exact List.flatMap_singleton' cs
  | lower =>
    -- only a sigma looks at what comes before it
    have hafter : ∀ before, Text.toLowerAfter before cs = cs := by
      induction cs with
      | nil => exact fun _ => rfl
      | cons c cs ih =>
        intro before
        obtain ⟨hsigma, hlower⟩ := lowerChars_probe (h c List.mem_cons_self)
        have hrest := ih (fun d hd => h d (List.mem_cons_of_mem _ hd)) (c :: before)
        simp [Text.toLowerAfter, hsigma, hlower, hrest]
    exact hafter []

/-- Nothing is replaced in a text without the character that is replaced. -/
theorem Template.replaceChar_of_notMem {c : Char} (marker : List Char) {cs : List Char}
    (h : c ∉ cs) : Template.replaceChar c marker cs = cs := by
  have hone : ∀ d ∈ cs, (if d == c then marker else [d]) = [d] := by
    intro d hd
    have hne : d ≠ c := fun heq => h (heq ▸ hd)
    simp [hne]
  unfold Template.replaceChar
  rw [List.flatMap_congr hone]
  exact List.flatMap_singleton' cs

/-- Nothing is replaced in probes. -/
theorem Template.mark_probe (t : Template) {text : String}
    (h : ∀ c ∈ text.toList, c ∈ probeChars) : t.mark text = text := by
  have hne : ∀ {c}, c ∉ probeChars → c ∉ text.toList := fun hc hmem => hc (h _ hmem)
  unfold Template.mark
  rw [replaceChar_of_notMem _ (hne (by decide)), replaceChar_of_notMem _ (hne (by decide)),
    String.ofList_toList]

/-! ## §2 Templates as texts with holes -/

/-- The text with holes of a part. -/
def TemplatePart.symbols : TemplatePart → List Symbol
  | .literal text => text.toList.map .char
  | .placeholder name => [.hole name]

/-- What values put into the holes of a template, before it is escaped. -/
def Template.filling (t : Template) (inherited : Casing) (values : List (String × String)) :
    Filling := fun name =>
  (t.casingIn inherited).foldChars (t.mark ((values.lookup name).getD "")).toList

/-- A template is filled as a text with holes. -/
theorem Template.render_eq {t : Template} {inherited : Casing} {values : List (String × String)}
    {parts : List TemplatePart} (hparse : Template.parse t.text = .ok parts)
    (hcovers : ∀ name, .placeholder name ∈ parts → ∃ value, values.lookup name = some value) :
    t.render inherited values =
      .ok (.ofList (fill (t.filling inherited values) (parts.flatMap TemplatePart.symbols))) := by
  have hparts : ∀ parts : List TemplatePart,
      (∀ name, .placeholder name ∈ parts → ∃ value, values.lookup name = some value) →
      ∃ texts, parts.mapM (t.renderPart inherited values) = .ok texts ∧ String.join texts =
        .ofList (fill (t.filling inherited values) (parts.flatMap TemplatePart.symbols)) := by
    intro parts hcovers
    induction parts with
    | nil => exact ⟨[], rfl, rfl⟩
    | cons part parts ih =>
      obtain ⟨texts, htexts, hjoin⟩ := ih fun name hname =>
        hcovers name (List.mem_cons_of_mem _ hname)
      obtain ⟨text, htext, hfill⟩ : ∃ text, t.renderPart inherited values part = .ok text ∧
          text.toList = fill (t.filling inherited values) part.symbols := by
        cases part with
        | literal text => exact ⟨text, rfl, by simp [TemplatePart.symbols]⟩
        | placeholder name =>
          obtain ⟨value, hvalue⟩ := hcovers name List.mem_cons_self
          refine ⟨(t.casingIn inherited).literal (t.mark value), ?_, ?_⟩
          · simp only [renderPart, hvalue]
          · simp [TemplatePart.symbols, Template.filling, hvalue, Casing.literal]
      refine ⟨text :: texts, ?_, ?_⟩
      · rw [List.mapM_cons, htext, htexts]
        rfl
      · have hcons : String.join (text :: texts) = text ++ String.join texts := by
          simp
        rw [hcons, hjoin, List.flatMap_cons, fill_append, ← hfill, String.ofList_append,
          String.ofList_toList]
  obtain ⟨texts, htexts, hjoin⟩ := hparts parts hcovers
  rw [Template.render_of_texts hparse htexts, hjoin]

/-! ## §3 Templates with probes in their placeholders -/

/-- The placeholders of a kind with values. -/
def Kind.valuesOf (k : Kind) (v : String → String) : List (String × String) :=
  k.placeholders.map fun name => (name, v name)

/-- A placeholder of a kind has its value, and no other name has one. -/
theorem Kind.lookup_valuesOf (k : Kind) (v : String → String) (name : String) :
    (k.valuesOf v).lookup name = if name ∈ k.placeholders then some (v name) else none := by
  unfold Kind.valuesOf
  induction k.placeholders with
  | nil => rfl
  | cons first rest ih =>
    by_cases hname : name = first
    · subst hname
      simp
    · have hbeq : (name == first) = false := by simpa using hname
      rw [List.map_cons, List.lookup_cons, hbeq]
      simpa [hname] using ih

theorem Kind.covers_valuesOf (k : Kind) (v : String → String) :
    Covers (k.valuesOf v) k.placeholders := fun name hname =>
  ⟨v name, by rw [k.lookup_valuesOf, if_pos hname]⟩

/-- A template that is filled makes a pattern when its text does. -/
theorem Template.compile_eq_ok_iff {t : Template} {inherited : Casing}
    {values : List (String × String)} {text : String} (h : t.render inherited values = .ok text) :
    (∃ p, t.compile inherited values = .ok p) ↔
      ∃ p, NamePattern.compile (t.casingIn inherited) text = .ok p := by
  cases hp : NamePattern.compile (t.casingIn inherited) text with
  | ok p => exact iff_of_true ⟨_, Template.compile_of_ok h hp⟩ ⟨p, rfl⟩
  | error cause =>
    rw [Template.compile_of_error h hp]
    simp

/-- Whether blanks count in the pattern of a template with its placeholders filled. -/
def Template.blanksCount (t : Template) (inherited : Casing) (values : List (String × String)) :
    Bool :=
  match t.render inherited values with
  | .ok text => NamePattern.blanksCount (t.casingIn inherited) text
  | .error _ => true

/-- Nothing is put into the hole of a name without a value. -/
theorem Template.filling_of_notMem (t : Template) (inherited : Casing) {k : Kind}
    (v : String → String) {name : String} (hname : name ∉ k.placeholders) :
    t.filling inherited (k.valuesOf v) name = [] := by
  unfold Template.filling
  rw [k.lookup_valuesOf, if_neg hname]
  have hmark : (t.mark "").toList = [] := by simp [mark, replaceChar]
  show (t.casingIn inherited).foldChars (t.mark "").toList = []
  rw [hmark]
  exact Casing.foldChars_probe _ nofun

/-- Probes as values are put into the holes as they are. -/
theorem Template.filling_probe (t : Template) (inherited : Casing) {k : Kind} {τ : Filling}
    (hchars : ∀ name, ∀ c ∈ τ name, c ∈ probeChars)
    (hempty : ∀ name, name ∉ k.placeholders → τ name = []) :
    t.filling inherited (k.valuesOf fun name => .ofList (τ name)) = τ := by
  funext name
  by_cases hname : name ∈ k.placeholders
  · unfold Template.filling
    rw [k.lookup_valuesOf, if_pos hname, Option.getD_some, t.mark_probe, String.toList_ofList]
    · exact Casing.foldChars_probe _ (hchars name)
    · rw [String.toList_ofList]
      exact hchars name
  · rw [t.filling_of_notMem inherited _ hname, hempty name hname]

/-- A template makes a pattern with all values if it does with all probes, and blanks count in it
with percent signs as values. -/
theorem Template.compile_of_probes {k : Kind} {t : Template} {inherited : Casing}
    (hvalid : t.Valid k inherited)
    (hprobes : ∀ v : String → String, (∀ name, MadeOf probeChars (v name)) →
      ∃ p, t.compile inherited (k.valuesOf v) = .ok p)
    (hblanks : ∀ v : String → String, (∀ name, MadeOf ['%'] (v name)) →
      t.blanksCount inherited (k.valuesOf v) = true)
    (v : String → String) : ∃ p, t.compile inherited (k.valuesOf v) = .ok p := by
  obtain ⟨parts, hparse, hlegal⟩ := hvalid.legal
  have hrender : ∀ v : String → String, t.render inherited (k.valuesOf v) =
      .ok (.ofList (fill (t.filling inherited (k.valuesOf v))
        (parts.flatMap TemplatePart.symbols))) := fun v =>
    Template.render_eq hparse fun name hname => k.covers_valuesOf v name (hlegal name hname)
  have hcompile : ∀ v : String → String, (∃ p, t.compile inherited (k.valuesOf v) = .ok p) ↔
      ∃ p, NamePattern.compile (t.casingIn inherited) (.ofList (fill
        (t.filling inherited (k.valuesOf v)) (parts.flatMap TemplatePart.symbols))) = .ok p :=
    fun v => Template.compile_eq_ok_iff (hrender v)
  -- a probe of what the values put into the holes is put there by values of its own
  have hfilling : ∀ τ, (t.filling inherited (k.valuesOf v)).Probes τ →
      t.filling inherited (k.valuesOf fun name => .ofList (τ name)) = τ := by
    intro τ hτ
    refine t.filling_probe inherited hτ.chars fun name hname => ?_
    have hlength := hτ.length name
    rw [t.filling_of_notMem inherited v hname] at hlength
    simpa using hlength
  have hshort : ∀ τ, (t.filling inherited (k.valuesOf v)).Probes τ →
      ∀ name, (τ name).length ≤ 2 := by
    intro τ hτ name
    rw [hτ.length name]
    omega
  rw [hcompile v]
  refine NamePattern.compile_fill (fun τ hτ => ?_) ?_
  · have hp := (hcompile _).mp (hprobes (fun name => .ofList (τ name)) fun name => by
      unfold MadeOf
      rw [String.toList_ofList]
      exact ⟨hshort τ hτ name, hτ.chars name⟩)
    rwa [hfilling τ hτ] at hp
  · have hτ := (t.filling inherited (k.valuesOf v)).probes_percent
    have hb := hblanks (fun name => .ofList ((t.filling inherited (k.valuesOf v)).copies '%' name))
      fun name => by
        unfold MadeOf
        rw [String.toList_ofList]
        exact ⟨hshort _ hτ name, fun c hc => by simp [List.eq_of_mem_replicate hc]⟩
    unfold Template.blanksCount at hb
    rw [hrender, hfilling _ hτ] at hb
    exact hb

/-! ## §4 Objects -/

/-- Whether blanks count in the patterns of all enabled templates. -/
def TemplateMap.blanksCount (o : TemplateMap) (values : List (String × String)) : Bool :=
  (o.templates.filter (·.enabled)).all (·.blanksCount o.casingInForce values)

/-- A map with templates has a recognizer for all values if it has one for all probes, and blanks
count in it with percent signs as values. -/
theorem TemplateMap.recognizer_of_probes {k : Kind} {o : TemplateMap} (hvalid : o.Valid k)
    (hprobes : ∀ v : String → String, (∀ name, MadeOf probeChars (v name)) →
      ∃ r, o.recognizer (k.valuesOf v) = .ok r)
    (hblanks : ∀ v : String → String, (∀ name, MadeOf ['%'] (v name)) →
      o.blanksCount (k.valuesOf v) = true)
    (v : String → String) : ∃ r, o.recognizer (k.valuesOf v) = .ok r := by
  refine TemplateMap.recognizer_eq_ok fun t ht hon => ?_
  have hmem : t ∈ o.templates.filter fun t => t.enabled := List.mem_filter.mpr ⟨ht, hon⟩
  refine Template.compile_of_probes (hvalid t ht) (fun v hv => ?_) (fun v hv => ?_) v
  · obtain ⟨r, hr⟩ := hprobes v hv
    unfold TemplateMap.recognizer at hr
    obtain ⟨ps, hps, -⟩ := bind_eq_ok_iff.mp hr
    exact forall_of_mapM_eq_ok hps t hmem
  · have hall := hblanks v hv
    rw [TemplateMap.blanksCount, List.all_eq_true] at hall
    exact hall t hmem

/-- Whether blanks count in the pattern of the names built around a base name. -/
def DerivedName.blanksCount (o : DerivedName) (base : String) : Bool :=
  NamePattern.blanksCount o.casing (o.before.getD "" ++ o.casing.literal base ++ o.after.getD "")

/-- Names are built around all base names if they are around all probes, and blanks count with
percent signs as base names. -/
theorem DerivedName.recognizerWith_of_probes {o : DerivedName}
    (hprobes : ∀ base, MadeOf probeChars base → ∃ r, o.recognizerWith base none = .ok r)
    (hblanks : ∀ base, MadeOf ['%'] base → o.blanksCount base = true) (base : String) :
    ∃ r, o.recognizerWith base none = .ok r := by
  -- the name is a text with one hole, in which the base name is put after its case is changed
  let S : List Symbol := (o.before.getD "").toList.map .char ++ [.hole ""] ++
    (o.after.getD "").toList.map .char
  have htext : ∀ (w : List Char) (base : String), o.casing.foldChars base.toList = w →
      o.before.getD "" ++ o.casing.literal base ++ o.after.getD "" =
        .ofList (fill (fun _ => w) S) := by
    rintro w base rfl
    simp [S, Casing.literal, String.ofList_append, String.append_assoc]
  have hcompile : ∀ base, (∃ r, o.recognizerWith base none = .ok r) ↔
      ∃ p, NamePattern.compile o.casing
        (o.before.getD "" ++ o.casing.literal base ++ o.after.getD "") = .ok p := by
    intro base
    rw [DerivedName.recognizerWith_none]
    cases NamePattern.compile o.casing
        (o.before.getD "" ++ o.casing.literal base ++ o.after.getD "") with
    | ok p => exact iff_of_true ⟨_, rfl⟩ ⟨p, rfl⟩
    | error cause => exact iff_of_false nofun nofun
  have hfill : ∀ τ : Filling, fill (fun _ => τ "") S = fill τ S := fun τ => by simp [S]
  -- the probe of a base name as a base name of its own
  have hprobe : ∀ τ : Filling, Filling.Probes (fun _ => o.casing.foldChars base.toList) τ →
      (String.ofList (τ "")).toList.length ≤ 2 ∧
        o.casing.foldChars (String.ofList (τ "")).toList = τ "" := by
    intro τ hτ
    rw [String.toList_ofList, hτ.length ""]
    exact ⟨by omega, Casing.foldChars_probe _ (hτ.chars "")⟩
  rw [hcompile, htext _ base rfl]
  refine NamePattern.compile_fill (fun τ hτ => ?_) ?_
  · obtain ⟨hlength, hfold⟩ := hprobe τ hτ
    obtain ⟨p, hp⟩ := (hcompile _).mp (hprobes (.ofList (τ "")) ⟨hlength, fun c hc => by
      rw [String.toList_ofList] at hc
      exact hτ.chars "" c hc⟩)
    rw [htext _ _ hfold, hfill] at hp
    exact ⟨p, hp⟩
  · have hτ := Filling.probes_percent fun _ => o.casing.foldChars base.toList
    obtain ⟨hlength, hfold⟩ := hprobe _ hτ
    have hb := hblanks _ ⟨hlength, fun c hc => by
      rw [String.toList_ofList] at hc
      simp [List.eq_of_mem_replicate hc]⟩
    rw [DerivedName.blanksCount, htext _ _ hfold, hfill] at hb
    exact hb

/-! ## §5 Refusals after validation -/

/-- An error that says that a pattern is refused. -/
def RuleError.IsRefusal : RuleError → Prop
  | .pattern _ => True
  | .basename _ _ => True
  | .basenameGroups _ _ => True
  | _ => False

/-- A map with templates has no recognizer for values because a pattern is refused. -/
def TemplateMap.Refuses (o : TemplateMap) (values : List (String × String)) : Prop :=
  ∃ e, o.recognizer values = .error e ∧ e.IsRefusal

/-- Derived names have no recognizer for a name because a pattern is refused. -/
def DerivedName.Refuses (o : DerivedName) (name : String) : Prop :=
  ∃ e, o.recognizer name = .error e ∧ e.IsRefusal

/-- No names are built around a base name because their pattern is refused. -/
def DerivedName.RefusesBase (o : DerivedName) (base : String) : Prop :=
  ∃ e, o.recognizerWith base none = .error e ∧ e.IsRefusal

/-- The base name of a name, if it has one. -/
def DerivedName.base? (o : DerivedName) (name : String) : Option String :=
  match o.basename with
  | none => some name
  | some text =>
    match Basename.compile text with
    | .ok b => b.extract? name
    | .error _ => none

/-- Whatever is refused is refused with probes as values. The values are those of `Names`, which are
all values for the placeholders of a kind. -/
theorem TemplateMap.refuses_iff {k : Kind} {o : TemplateMap} (hvalid : o.Valid k) {Names : Type}
    {values : Names → List (String × String)} (hto : ∀ n, ∃ v, values n = k.valuesOf v)
    (hfrom : ∀ v, ∃ n, values n = k.valuesOf v)
    (hblanks : ∀ n, (∀ p ∈ values n, MadeOf ['%'] p.2) → o.blanksCount (values n) = true) :
    (∃ n, o.Refuses (values n)) ↔
      ∃ n, (∀ p ∈ values n, MadeOf probeChars p.2) ∧ o.Refuses (values n) := by
  have hmade : ∀ {chars : List Char} {v : String → String}, (∀ name, MadeOf chars (v name)) →
      ∀ p ∈ k.valuesOf v, MadeOf chars p.2 := by
    intro chars v hv p hp
    obtain ⟨name, -, rfl⟩ := List.mem_map.mp hp
    exact hv name
  constructor
  · -- with no refusal among the probes there would be none at all
    rintro ⟨n, e, he, -⟩
    by_contra hnone
    obtain ⟨v, hv⟩ := hto n
    have hok := TemplateMap.recognizer_of_probes hvalid (fun w hw => ?_) (fun w hw => ?_) v
    · rw [← hv, he] at hok
      obtain ⟨r, hr⟩ := hok
      cases hr
    · obtain ⟨m, hm⟩ := hfrom w
      cases hr : o.recognizer (k.valuesOf w) with
      | ok r => exact ⟨r, rfl⟩
      | error e' =>
        obtain ⟨cause, rfl⟩ := TemplateMap.recognizer_eq_error hvalid (k.covers_valuesOf w) hr
        have hprobes := hmade hw
        rw [← hm] at hprobes hr
        exact absurd ⟨m, hprobes, .pattern cause, hr, trivial⟩ hnone
    · obtain ⟨m, hm⟩ := hfrom w
      have hpercent := hmade hw
      rw [← hm] at hpercent ⊢
      exact hblanks m hpercent
  · rintro ⟨n, -, hn⟩
    exact ⟨n, hn⟩

/-- The names of levels give all values for the placeholders of levels. -/
theorem LevelNames.exists_values (v : String → String) :
    ∃ n : LevelNames, n.values = Kind.level.valuesOf v :=
  ⟨⟨some (v "usage_prefix"), v "hierarchy_name", v "level_name", v "level_column_name"⟩, rfl⟩

theorem LevelNames.exists_valuesOf (n : LevelNames) : ∃ v, n.values = Kind.level.valuesOf v :=
  ⟨fun name => (n.values.lookup name).getD "", rfl⟩

/-- The names of measures give all values for the placeholders of measures. -/
theorem MeasureNames.exists_values (v : String → String) :
    ∃ n : MeasureNames, n.values = Kind.measure.valuesOf v :=
  ⟨⟨v "measure_name", v "measure_column_name", v "aggregate_name"⟩, rfl⟩

theorem MeasureNames.exists_valuesOf (n : MeasureNames) : ∃ v, n.values = Kind.measure.valuesOf v :=
  ⟨fun name => (n.values.lookup name).getD "", rfl⟩

/-- Derived names are refused where the names around their base name are. -/
theorem DerivedName.refuses_iff {o : DerivedName} (hvalid : o.Valid) (name : String) :
    o.Refuses name ↔ ∃ base, o.base? name = some base ∧ o.RefusesBase base := by
  have hwith : ∀ b : Option Basename, (∃ e, o.recognizerWith name b = .error e ∧ e.IsRefusal) ↔
      ∃ base, derive? name b = some base ∧ o.RefusesBase base := by
    intro b
    have heq : o.recognizerWith name b =
        match derive? name b with
        | none => .ok .never
        | some base => o.recognizerWith base none := rfl
    rw [heq]
    cases derive? name b with
    | none => exact iff_of_false nofun nofun
    | some base => exact ⟨fun h => ⟨base, rfl, h⟩, fun ⟨_, hbase, h⟩ => by cases hbase; exact h⟩
  unfold DerivedName.Refuses DerivedName.recognizer DerivedName.base?
  cases htext : o.basename with
  | none => exact hwith none
  | some text =>
    obtain ⟨b, hb⟩ := hvalid.basename text htext
    dsimp only
    rw [hb]
    exact hwith (some b)

/-- Whatever base name is refused, a probe is refused as well. -/
theorem DerivedName.refusesBase_iff {o : DerivedName}
    (hblanks : ∀ base, MadeOf ['%'] base → o.blanksCount base = true) :
    (∃ base, o.RefusesBase base) ↔ ∃ base, MadeOf probeChars base ∧ o.RefusesBase base := by
  constructor
  · rintro ⟨base, e, he, -⟩
    by_contra hnone
    have hok := DerivedName.recognizerWith_of_probes (o := o) (fun probe hprobe => ?_) hblanks base
    · obtain ⟨r, hr⟩ := hok
      rw [he] at hr
      cases hr
    · cases hr : o.recognizerWith probe none with
      | ok r => exact ⟨r, rfl⟩
      | error e' =>
        obtain ⟨cause, rfl⟩ := DerivedName.recognizerWith_eq_error hr
        exact absurd ⟨probe, hprobe, .pattern cause, hr, trivial⟩ hnone
  · rintro ⟨base, -, h⟩
    exact ⟨base, h⟩

/-- When an object that has passed validation refuses a pattern later on. A map that leaves names
alone never does. All others do for some names if and only if they do for some names of at most two
of the characters that probes are made of, provided that blanks count in their patterns. For derived
names with a pattern for base names, these are the names that have such a base name. -/
theorem refuses_iff_refuses_probe (o : TemplateMap) (d : DerivedName) (recorder : Recorder) :
    (((TemplateMap.check .level o).run recorder).1 = true →
      (∀ n : LevelNames, (∀ p ∈ n.values, MadeOf ['%'] p.2) → o.blanksCount n.values = true) →
      ((∃ n : LevelNames, o.Refuses n.values) ↔
        ∃ n : LevelNames, (∀ p ∈ n.values, MadeOf probeChars p.2) ∧ o.Refuses n.values)) ∧
    (((TemplateMap.check .measure o).run recorder).1 = true →
      (∀ n : MeasureNames, (∀ p ∈ n.values, MadeOf ['%'] p.2) → o.blanksCount n.values = true) →
      ((∃ n : MeasureNames, o.Refuses n.values) ↔
        ∃ n : MeasureNames, (∀ p ∈ n.values, MadeOf probeChars p.2) ∧ o.Refuses n.values)) ∧
    (((TemplateMap.check .ignore o).run recorder).1 = true → ∃ r, o.recognizer [] = .ok r) ∧
    ((d.check.run recorder).1 = true →
      (∀ name, d.Refuses name ↔ ∃ base, d.base? name = some base ∧ d.RefusesBase base) ∧
      ((∀ base, MadeOf ['%'] base → d.blanksCount base = true) →
        ((∃ base, d.RefusesBase base) ↔
          ∃ base, MadeOf probeChars base ∧ d.RefusesBase base))) := by
  refine ⟨fun hok hblanks => ?_, fun hok hblanks => ?_, fun hok => ?_, fun hok => ⟨?_, ?_⟩⟩
  · exact TemplateMap.refuses_iff ((o.check_decides .level recorder).mp hok)
      LevelNames.exists_valuesOf LevelNames.exists_values hblanks
  · exact TemplateMap.refuses_iff ((o.check_decides .measure recorder).mp hok)
      MeasureNames.exists_valuesOf MeasureNames.exists_values hblanks
  · exact TemplateMap.recognizer_ignore_eq_ok ((o.check_decides .ignore recorder).mp hok)
  · exact DerivedName.refuses_iff ((d.check_decides recorder).mp hok)
  · exact DerivedName.refusesBase_iff

/-- A map whose one template has a question mark after a placeholder. -/
def questioned : TemplateMap where
  id := "m"
  templates := [{ id := "t", text := "$\x7busage_prefix\x7d?$\x7blevel_name\x7d" }]

/-- Names with a question mark after the base name. -/
def questionedName : DerivedName where
  after := some "?"

/-- Validation does not see every pattern that is refused later: the question mark has nothing to
follow where there is no prefix. -/
theorem questioned_refuses :
    ¬∀ (o : TemplateMap) (recorder : Recorder) (n : LevelNames),
      ((TemplateMap.check .level o).run recorder).1 = true → ¬o.Refuses n.values := by
  intro h
  exact h questioned {} ⟨none, "h", "city", "c"⟩ rfl
    ⟨.pattern .repetitionWithoutPattern, rfl, trivial⟩

/-- The texts of at most two percent signs. -/
theorem MadeOf.eq_of_percent {text : String} (h : MadeOf ['%'] text) :
    text = "" ∨ text = "%" ∨ text = "%%" := by
  obtain ⟨hlength, hchars⟩ := h
  have htext : text = .ofList text.toList := String.ofList_toList.symm
  rw [htext]
  generalize text.toList = cs at *
  rcases cs with _ | ⟨c, _ | ⟨d, _ | ⟨e, cs⟩⟩⟩
  · exact Or.inl rfl
  · obtain rfl : c = '%' := by simpa using hchars c (by simp)
    exact Or.inr (Or.inl rfl)
  · obtain rfl : c = '%' := by simpa using hchars c (by simp)
    obtain rfl : d = '%' := by simpa using hchars d (by simp)
    exact Or.inr (Or.inr rfl)
  · simp only [List.length_cons] at hlength
    omega

/-- Blanks count around a question mark. -/
theorem questioned_blanksCount (n : LevelNames) (hn : ∀ p ∈ n.values, MadeOf ['%'] p.2) :
    questioned.blanksCount n.values = true := by
  have htext : questioned.blanksCount n.values =
      (NamePattern.blanksCount .ignore (String.join
        [Casing.ignore.literal
            (({ id := "t", text := "" } : Template).mark (n.usagePrefix.getD "")),
          "?", Casing.ignore.literal (({ id := "t", text := "" } : Template).mark n.level)]) &&
        true) := rfl
  rw [htext]
  have hprefix : MadeOf ['%'] (n.usagePrefix.getD "") := hn _ List.mem_cons_self
  have hlevel : MadeOf ['%'] n.level := hn ("level_name", _) (by simp [LevelNames.values])
  generalize n.usagePrefix.getD "" = before at hprefix ⊢
  generalize n.level = level at hlevel ⊢
  rcases hprefix.eq_of_percent with rfl | rfl | rfl <;>
    rcases hlevel.eq_of_percent with rfl | rfl | rfl <;> decide +kernel

theorem questionedName_blanksCount (base : String) (h : MadeOf ['%'] base) :
    questionedName.blanksCount base = true := by
  rcases h.eq_of_percent with rfl | rfl | rfl <;> decide +kernel

/-- Objects that pass validation and are found out by probes. -/
theorem questioned_refuses_probe :
    (∃ n : LevelNames, (∀ p ∈ n.values, MadeOf probeChars p.2) ∧ questioned.Refuses n.values) ∧
    ∃ base, MadeOf probeChars base ∧ questionedName.RefusesBase base := by
  obtain ⟨hlevel, -, -, hderived⟩ := refuses_iff_refuses_probe questioned questionedName {}
  constructor
  · exact (hlevel rfl questioned_blanksCount).mp
      ⟨⟨none, "h", "city", "c"⟩, .pattern .repetitionWithoutPattern, rfl, trivial⟩
  · exact ((hderived rfl).2 questionedName_blanksCount).mp
      ⟨"", .pattern .repetitionWithoutPattern, rfl, trivial⟩

end AggregateNaming
