import AggregateNaming.RuleSet
import Mathlib.Tactic.SplitIfs

/-!
# What a check does to a recorder

A check says what it has found wherever it runs, and stands at the end where it stood at the beginning.
What it finds does not depend on the recorder: all that the recorder gives to it is the path that goes
before the places of what is found.

## Main definitions

- `Finding` : what a computation has found, with the place as the computation sees it.
- `Check.Finds` : the answer of a computation and all that it has found, for every recorder.
- `Check.reportsIn` : the diagnostics of a computation inside the parts of a path.
- `Diagnostic.below`, `Diagnostic.inside` : a diagnostic with a path before its place.

## Main statements

- `Check.Finds.bind`, `Check.Finds.inside` : what composed computations find.
- `Kind.check_transparent`, `Slot.check_transparent`, `Rule.check_transparent`,
  `RuleSet.check_transparent` : checks find the same for every recorder.
- `RuleSet.validation_leaves_recorder` : what validations and checks of objects do to a recorder.
-/

namespace AggregateNaming

/-! ## §1 Findings -/

/-- What a computation has found. -/
structure Finding where
  level : Level
  /-- The parts around the place, outermost first, that the computation itself has entered. -/
  path : List String
  message : String

namespace Finding

/-- The diagnostic of a finding when the computation runs inside the parts of a path. -/
def diagnostic (path : List String) (f : Finding) : Diagnostic :=
  ⟨f.level, Recorder.renderPath (path ++ f.path), f.message⟩

/-- A finding inside the part called `name`. -/
def within (name : String) (f : Finding) : Finding := { f with path := name :: f.path }

end Finding

namespace Check

/-- The answer of a computation is `a`, and `fs` is what it has found, whatever the recorder holds when
it begins. At the end the recorder is where it was. -/
def Finds (c : Check α) (a : α) (fs : List Finding) : Prop :=
  ∀ r : Recorder,
    c.run r = (a, { r with diagnostics := r.diagnostics ++ fs.map (·.diagnostic r.path) })

namespace Finds

variable {c : Check α} {a : α} {fs : List Finding}

/-- An answer without a walk. -/
theorem pure (a : α) : Finds (Pure.pure a) a [] := by
  intro r
  simp only [List.map_nil, List.append_nil]
  rfl

/-- A report is found where the computation is. -/
theorem report (level : Level) (message : String) :
    Finds (Check.report level message) () [⟨level, [], message⟩] := by
  intro r
  simp only [List.map_cons, List.map_nil, Finding.diagnostic, List.append_nil]
  rfl

/-- One computation after another finds what both find, in this order. -/
theorem bind {next : α → Check β} {b : β} {gs : List Finding} (hc : Finds c a fs)
    (hnext : Finds (next a) b gs) : Finds (c >>= next) b (fs ++ gs) := by
  intro r
  have hrun : (c >>= next).run r = (next (c.run r).1).run (c.run r).2 := rfl
  -- the first has left the path as it was, so that the second finds its places from the same one
  rw [hrun, hc r, hnext]
  simp only [List.map_append, List.append_assoc]

/-- What is found inside a part is found with the part before its place. -/
theorem inside (name : String) (hc : Finds c a fs) :
    Finds (Check.inside name c) a (fs.map (·.within name)) := by
  intro r
  have hrun : (Check.inside name c).run r =
      ((c.run (r.push name)).1, (c.run (r.push name)).2.pop) := rfl
  rw [hrun, hc]
  -- the part is entered and left, and its name is where the own path of a finding begins
  have hplaces : (fs.map (·.within name)).map (·.diagnostic r.path) =
      fs.map (·.diagnostic (r.path ++ [name])) := by
    simp only [List.map_map, Function.comp_def, Finding.diagnostic, Finding.within,
      List.append_assoc, List.cons_append, List.nil_append]
  simp only [Recorder.push, Recorder.pop, List.dropLast_concat, hplaces]

end Finds

/-! ## §2 Transparent checks -/

/-- A computation finds the same whatever the recorder holds when it begins, in parts that have
names. -/
def Transparent (c : Check α) : Prop :=
  ∃ a fs, c.Finds a fs ∧ ∀ f ∈ fs, "" ∉ f.path

namespace Transparent

variable {c : Check α}

theorem pure (a : α) : Transparent (Pure.pure a : Check α) :=
  ⟨a, [], Finds.pure a, by simp⟩

theorem report (level : Level) (message : String) : Transparent (Check.report level message) :=
  ⟨(), _, Finds.report level message, by simp⟩

/-- One computation after another is transparent when both are. -/
theorem bind {next : α → Check β} (hc : Transparent c) (hnext : ∀ a, Transparent (next a)) :
    Transparent (c >>= next) := by
  obtain ⟨a, fs, hfinds, hnamed⟩ := hc
  obtain ⟨b, gs, hfinds', hnamed'⟩ := hnext a
  refine ⟨b, fs ++ gs, hfinds.bind hfinds', fun f hf => ?_⟩
  rcases List.mem_append.mp hf with hf | hf
  · exact hnamed f hf
  · exact hnamed' f hf

/-- A transparent computation is one inside of a part, too. -/
theorem inside {name : String} (hname : name ≠ "") (hc : Transparent c) :
    Transparent (Check.inside name c) := by
  obtain ⟨a, fs, hfinds, hnamed⟩ := hc
  refine ⟨a, _, hfinds.inside name, fun f hf => ?_⟩
  obtain ⟨f', hf', rfl⟩ := List.mem_map.mp hf
  simpa [Finding.within, hname.symm] using hnamed f' hf'

/-- A report, and then an answer. -/
theorem reportThen (level : Level) (message : String) (a : α) :
    Transparent (Check.report level message >>= fun _ => Pure.pure a) :=
  (report level message).bind fun _ => pure a

/-- What is reported before a computation in some cases. -/
theorem reportWhen (b : Bool) (level : Level) (message : String) (hc : Transparent c) :
    Transparent (if b = true then Check.report level message >>= fun _ => c else c) := by
  split_ifs
  · exact (report level message).bind fun _ => hc
  · exact hc

/-- Two checks one after the other. -/
theorem and {c d : Check Bool} (hc : Transparent c) (hd : Transparent d) :
    Transparent (do let a ← c; let b ← d; return a && b) :=
  hc.bind fun _ => hd.bind fun _ => pure _

/-- A check on every member of a list. -/
theorem every {check : α → Check Bool} (h : ∀ a, Transparent (check a)) :
    ∀ l : List α, Transparent (Check.every check l)
  | [] => pure true
  | a :: l => (h a).and (every h l)

end Transparent

/-- The diagnostics of a computation inside the parts of a path, where there were none before. -/
def reportsIn (path : List String) (c : Check α) : List Diagnostic :=
  (c.run ⟨path, []⟩).2.diagnostics

section Reports

variable {path : List String}

@[simp] theorem reportsIn_pure (a : α) : reportsIn path (Pure.pure a : Check α) = [] := rfl

@[simp] theorem reportsIn_report (level : Level) (message : String) :
    reportsIn path (Check.report level message) =
      [⟨level, Recorder.renderPath path, message⟩] := rfl

/-- Inside a part, diagnostics are reported below it. -/
@[simp] theorem reportsIn_inside (name : String) (c : Check α) :
    reportsIn path (Check.inside name c) = reportsIn (path ++ [name]) c := rfl

/-- The diagnostics of a computation are those of what it has found. -/
theorem Finds.reportsIn_eq {c : Check α} {a : α} {fs : List Finding} (h : c.Finds a fs) :
    reportsIn path c = fs.map (·.diagnostic path) := by
  simp only [reportsIn, h ⟨path, []⟩, List.nil_append]

/-- One computation after another reports what both report, in this order. -/
theorem Transparent.reportsIn_bind {c : Check α} {next : α → Check β} (hc : Transparent c)
    (hnext : ∀ a, Transparent (next a)) :
    reportsIn path (c >>= next) =
      reportsIn path c ++ reportsIn path (next (c.run ⟨path, []⟩).1) := by
  obtain ⟨a, fs, hfinds, -⟩ := hc
  obtain ⟨b, gs, hfinds', -⟩ := hnext a
  -- what the first one has found does not matter to the second, its answer does
  have hanswer : (c.run ⟨path, []⟩).1 = a := by rw [hfinds]
  rw [hanswer, (hfinds.bind hfinds').reportsIn_eq, hfinds.reportsIn_eq, hfinds'.reportsIn_eq,
    List.map_append]

/-- What is reported before a computation in some cases. -/
theorem Transparent.reportsIn_reportWhen {c : Check α} (hc : Transparent c) (b : Bool) (level : Level)
    (message : String) :
    reportsIn path (if b = true then Check.report level message >>= fun _ => c else c) =
      (if b = true then [⟨level, Recorder.renderPath path, message⟩] else []) ++
        reportsIn path c := by
  split_ifs
  · rw [(Transparent.report level message).reportsIn_bind fun _ => hc, reportsIn_report]
  · rfl

/-- Two checks, one after the other, report what both report. -/
theorem Transparent.reportsIn_and {c d : Check Bool} (hc : Transparent c) (hd : Transparent d) :
    reportsIn path (do let a ← c; let b ← d; return a && b) =
      reportsIn path c ++ reportsIn path d := by
  rw [hc.reportsIn_bind fun _ => hd.bind fun _ => pure _, hd.reportsIn_bind fun _ => pure _,
    reportsIn_pure, List.append_nil]

end Reports

end Check

/-! ## §3 Objects -/

open Check (Finds Transparent)

/-- A name in brackets is not empty, whatever is in them. -/
theorem append_bracket_ne_empty (opening name : String) : opening ++ name ++ "]" ≠ "" := by
  simp

theorem Kind.label_ne_empty (k : Kind) : k.label ≠ "" := by
  cases k <;> decide

theorem FixedName.check_transparent (o : FixedName) : Transparent o.check := by
  unfold FixedName.check
  split
  · exact Transparent.reportThen _ _ _
  · exact Transparent.pure _

theorem DerivedName.checkBasename_transparent (o : DerivedName) : Transparent o.checkBasename := by
  unfold DerivedName.checkBasename
  split
  · exact Transparent.pure _
  · split
    · exact Transparent.pure _
    · exact Transparent.reportThen _ _ _

theorem DerivedName.checkAround_transparent (o : DerivedName) : Transparent o.checkAround := by
  unfold DerivedName.checkAround
  split
  · exact Transparent.pure _
  · exact Transparent.reportThen _ _ _

theorem DerivedName.check_transparent (o : DerivedName) : Transparent o.check :=
  o.checkBasename_transparent.and o.checkAround_transparent

/-- The illegal names of a template are reported one after the other. -/
theorem TemplateMap.reportIllegal_transparent (k : Kind) (names : List String) :
    Transparent (names.forM fun name => Check.error (TemplateMap.illegalNameMessage k name)) := by
  induction names with
  | nil => exact Transparent.pure ()
  | cons name names ih => exact (Transparent.report _ _).bind fun _ => ih

theorem TemplateMap.checkTemplate_transparent (k : Kind) (inherited : Casing) (t : Template) :
    Transparent (TemplateMap.checkTemplate k inherited t) := by
  unfold TemplateMap.checkTemplate
  split
  · exact Transparent.reportThen _ _ _
  · split
    · split
      · exact Transparent.reportThen _ _ _
      · exact Transparent.reportWhen _ _ _ (Transparent.pure _)
    · exact (TemplateMap.reportIllegal_transparent k _).bind fun _ => Transparent.pure _

theorem TemplateMap.checkTemplates_transparent (k : Kind) (inherited : Casing)
    (seen : List String) (ts : List Template) :
    Transparent (TemplateMap.checkTemplates k inherited seen ts) := by
  induction ts generalizing seen with
  | nil => exact Transparent.pure _
  | cons t ts ih =>
    have hhead := (TemplateMap.checkTemplate_transparent k inherited t).inside
      (append_bracket_ne_empty "Regex[" t.id)
    exact Transparent.reportWhen _ _ _ (hhead.and (ih (t.id :: seen)))

theorem TemplateMap.check_transparent (k : Kind) (o : TemplateMap) :
    Transparent (TemplateMap.check k o) :=
  Transparent.reportWhen _ _ _ (TemplateMap.checkTemplates_transparent k _ [] _)

/-- What is found of an object does not depend on the recorder. -/
theorem Kind.check_transparent : (k : Kind) → (o : k.Object) → Transparent (k.check o)
  | .factCount, o => FixedName.check_transparent o
  | .foreignKey, o => DerivedName.check_transparent o
  | .table, o => DerivedName.check_transparent o
  | .level, o => TemplateMap.check_transparent .level o
  | .measure, o => TemplateMap.check_transparent .measure o
  | .ignore, o => TemplateMap.check_transparent .ignore o

/-! ## §4 Slots, rules and rule sets -/

theorem Slot.checkReference_transparent (k : Kind) (lookup : String → Option k.Object)
    (r : Reference) : Transparent (Slot.checkReference k lookup r) := by
  unfold Slot.checkReference
  split
  · exact Transparent.reportThen _ _ _
  · split
    · exact Transparent.reportWhen _ _ _ (Transparent.pure _)
    · exact Transparent.reportThen _ _ _

theorem Slot.check_transparent {k : Kind} (lookup : String → Option k.Object) (s : Slot k) :
    Transparent (s.check lookup) := by
  refine Transparent.inside k.label_ne_empty ?_
  split
  · exact Transparent.reportThen _ _ _
  · split
    · exact Transparent.reportThen _ _ _
    · exact Transparent.pure _
  · exact k.check_transparent _
  · exact Slot.checkReference_transparent k lookup _

theorem Rule.checkCountColumn_transparent (r : Rule) : Transparent r.checkCountColumn := by
  unfold Rule.checkCountColumn
  split
  · exact Transparent.reportThen _ _ _
  · exact Transparent.pure _

theorem Rule.check_transparent (lookup : (k : Kind) → String → Option k.Object) (r : Rule) :
    Transparent (r.check lookup) :=
  (Transparent.every (fun k => (r.slots k).check_transparent (lookup k)) Kind.slotOrder).and
    r.checkCountColumn_transparent

theorem Pool.check_transparent {k : Kind} (p : Pool k) : Transparent p.check :=
  Transparent.every (fun o => (k.check_transparent o).inside
    (append_bracket_ne_empty (k.label ++ "[") (k.idOf o))) p.objects

namespace RuleSet

theorem checkTags_transparent (seen : List String) (rs : List Rule) :
    Transparent (checkTags seen rs) := by
  induction rs generalizing seen with
  | nil => exact Transparent.pure _
  | cons r rs ih =>
    unfold checkTags
    -- a tag is reported or not, and the others are looked at in any case
    split
    · exact (Transparent.report _ _).bind fun _ => (ih seen).bind fun _ => Transparent.pure _
    · split
      · exact (Transparent.report _ _).bind fun _ => (ih seen).bind fun _ => Transparent.pure _
      · exact ih (r.tag :: seen)

theorem checkDefault_transparent (rs : List Rule) : Transparent (checkDefault rs) := by
  unfold checkDefault
  split
  · exact Transparent.reportThen _ _ _
  · exact Transparent.pure _
  · exact Transparent.reportThen _ _ _

theorem checkRule_transparent (s : RuleSet) (r : Rule) : Transparent (s.checkRule r) := by
  unfold checkRule
  split
  · exact (r.check_transparent s.lookup).inside (append_bracket_ne_empty "AggRule[" r.tag)
  · exact Transparent.reportThen _ _ _

/-- What is found of a rule set is found inside the part that the rule set is, and does not depend on
the recorder. -/
theorem validate_finds (s : RuleSet) : ∃ ok fs, s.validate.Finds (ok, s.resolve) fs ∧
    ∀ f ∈ fs, ∃ parts, f.path = s!"AggRules[{s.tag}]" :: parts := by
  have hbody := (Transparent.every (fun k => (s.pools k).check_transparent) Kind.all).bind
    fun poolsOk => (checkTags_transparent [] s.rules).bind
    fun tagsOk => (checkDefault_transparent s.rules).bind
    fun defaultOk => (Transparent.every s.checkRule_transparent s.rules).bind
    fun rulesOk => Transparent.pure (poolsOk && tagsOk && defaultOk && rulesOk)
  obtain ⟨ok, fs, hfinds, -⟩ := hbody
  -- binding the slots afterwards finds nothing
  refine ⟨ok, _, (hfinds.inside _).bind (Finds.pure _), fun f hf => ?_⟩
  rw [List.append_nil] at hf
  obtain ⟨f', -, rfl⟩ := List.mem_map.mp hf
  exact ⟨f'.path, rfl⟩

end RuleSet

/-! ## §5 Places from outside -/

namespace Diagnostic

/-- A diagnostic with the parts of a path before its place. -/
def below (path : List String) (d : Diagnostic) : Diagnostic :=
  { d with context := Recorder.renderPath path ++ (if path = [] then "" else " > ") ++ d.context }

/-- A diagnostic with the parts of a path around its place, which has no name where the diagnostic is
about the whole. -/
def inside (path : List String) (d : Diagnostic) : Diagnostic :=
  if d.context = "" then { d with context := Recorder.renderPath path } else d.below path

end Diagnostic

/-- The parts of a path after the parts of another. -/
theorem Recorder.renderPath_append (path : List String) {inner : List String} (h : inner ≠ []) :
    renderPath (path ++ inner) =
      renderPath path ++ (if path = [] then "" else " > ") ++ renderPath inner := by
  by_cases hpath : path = []
  · simp [hpath, renderPath]
  · rw [if_neg hpath]
    exact String.intercalate_append_of_ne_nil hpath h

/-- A path of parts with names has no empty text. -/
theorem Recorder.renderPath_ne_empty {path : List String} (h : path ≠ []) (hnamed : "" ∉ path) :
    renderPath path ≠ "" := by
  match path with
  | [name] => simpa [renderPath, eq_comm] using hnamed
  | name :: name' :: rest =>
    rw [renderPath, String.intercalate_cons_cons]
    simp

namespace Finding

/-- A finding with a place of its own, seen from outside. -/
theorem diagnostic_eq_below (path : List String) {f : Finding} (h : f.path ≠ []) :
    f.diagnostic path = (f.diagnostic []).below path := by
  rw [diagnostic, Recorder.renderPath_append path h]
  rfl

/-- A finding seen from outside. -/
theorem diagnostic_eq_inside (path : List String) {f : Finding} (hnamed : "" ∉ f.path) :
    f.diagnostic path = (f.diagnostic []).inside path := by
  unfold Diagnostic.inside
  by_cases h : f.path = []
  · simp [diagnostic, h, Recorder.renderPath]
  · have hcontext : (f.diagnostic []).context ≠ "" := Recorder.renderPath_ne_empty h hnamed
    rw [if_neg hcontext, diagnostic_eq_below path h]

end Finding

/-- What a computation does to a recorder, said by what it does to a new one and by how a diagnostic of
that one is `seen` from outside. -/
theorem Check.Finds.run_eq {c : Check α} {a : α} {fs : List Finding} (h : c.Finds a fs)
    (r : Recorder) {seen : Diagnostic → Diagnostic}
    (hseen : ∀ f ∈ fs, f.diagnostic r.path = seen (f.diagnostic [])) :
    c.run r = ((c.run {}).1,
      { r with diagnostics := r.diagnostics ++ (c.run {}).2.diagnostics.map seen }) := by
  have hplaces : fs.map (·.diagnostic r.path) = (fs.map (·.diagnostic [])).map seen := by
    rw [List.map_map]
    exact List.map_congr_left hseen
  rw [h r, h {}, hplaces]
  rfl

namespace RuleSet

/-- Neither a validation nor a check of an object does anything to a recorder but add what it would
report to a new one, at the places there with the path of the recorder before them. In a validation
these begin with the rule set; what is about an object as a whole has no place of its own, and so gets
the path alone. -/
theorem validation_leaves_recorder :
    (∀ (s : RuleSet) (r : Recorder),
      s.validate.run r = ((s.validate.run {}).1, { r with
        diagnostics := r.diagnostics ++ (s.validate.run {}).2.diagnostics.map (·.below r.path) }) ∧
      ∀ d ∈ (s.validate.run {}).2.diagnostics, ∃ parts,
        d.context = Recorder.renderPath (s!"AggRules[{s.tag}]" :: parts)) ∧
    ∀ (k : Kind) (o : k.Object) (r : Recorder),
      (k.check o).run r = (((k.check o).run {}).1, { r with
        diagnostics := r.diagnostics ++ ((k.check o).run {}).2.diagnostics.map (·.inside r.path) }) := by
  refine ⟨fun s r => ?_, fun k o r => ?_⟩
  · obtain ⟨ok, fs, hfinds, hplace⟩ := s.validate_finds
    refine ⟨hfinds.run_eq r fun f hf => ?_, fun d hd => ?_⟩
    · obtain ⟨parts, hpath⟩ := hplace f hf
      exact Finding.diagnostic_eq_below r.path (by simp [hpath])
    · rw [hfinds {}] at hd
      obtain ⟨f, hf, rfl⟩ := List.mem_map.mp hd
      obtain ⟨parts, hpath⟩ := hplace f hf
      exact ⟨parts, by rw [← hpath]; rfl⟩
  · obtain ⟨ok, fs, hfinds, hnamed⟩ := k.check_transparent o
    exact hfinds.run_eq r fun f hf => Finding.diagnostic_eq_inside r.path (hnamed f hf)

/-- What is reported about an object as a whole is not placed below the parts around it: a name that is
blank is reported at the path alone, which nothing is put after. -/
theorem blank_name_not_below :
    ((Kind.factCount.check { id := "f", name := " " }).run
        ⟨["AggRules[t]", "FactCountMatch[f]"], []⟩).2.diagnostics ≠
      ((Kind.factCount.check { id := "f", name := " " }).run {}).2.diagnostics.map
        (·.below ["AggRules[t]", "FactCountMatch[f]"]) := by
  decide

end RuleSet

end AggregateNaming
