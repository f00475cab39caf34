import AggregateNaming.Proofs.Verdict
import AggregateNaming.RuleSet
import Mathlib.Data.List.Nodup

/-!
# Validity of rule sets

What it takes for a rule set to be in order, said on its own and part by part, and that validation
finds exactly this out.

## Main definitions

- `Kind.Valid` : an object is in order by itself.
- `Slot.Valid` : the declaration of a slot is in order, given the pool of its kind.
- `Rule.Valid`, `RuleSet.Valid` : rules and rule sets.

## Main statements

- `Kind.check_decides`, `Slot.check_decides`, `Rule.check_decides` : the verdicts of the parts.
- `RuleSet.validate_eq_true_iff_valid` : validation is passed by the valid rule sets and no others.
-/

namespace AggregateNaming

/-! ## §1 Objects -/

/-- One name is in order when it is not blank. -/
def FixedName.Valid (o : FixedName) : Prop :=
  Text.isBlankText o.name = false

/-- Derived names are in order when their patterns are. -/
structure DerivedName.Valid (o : DerivedName) : Prop where
  /-- Where there is a pattern for base names, it is accepted. -/
  basename : ∀ text, o.basename = some text → ∃ b, Basename.compile text = .ok b
  /-- The texts around the base name make a pattern with the probe between them. -/
  around : ∃ p, NamePattern.compile o.casing
    (o.before.getD "" ++ o.casing.literal DerivedName.probe ++ o.after.getD "") = .ok p

/-- A template is in order when it can be read, uses the placeholders of its kind only, and makes a
pattern once all of them are filled with the probe. -/
structure Template.Valid (k : Kind) (inherited : Casing) (t : Template) : Prop where
  legal : ∃ parts, Template.parse t.text = .ok parts ∧
    ∀ name, TemplatePart.placeholder name ∈ parts → name ∈ k.placeholders
  compiles : ∃ p, t.compile inherited (k.placeholders.map (·, TemplateMap.probe)) = .ok p

/-- Names by templates are in order when all templates are, those that are not enabled too. -/
def TemplateMap.Valid (k : Kind) (o : TemplateMap) : Prop :=
  ∀ t ∈ o.templates, t.Valid k o.casingInForce

/-- An object is in order by itself. -/
def Kind.Valid : (k : Kind) → k.Object → Prop
  | .factCount, o => FixedName.Valid o
  | .foreignKey, o => DerivedName.Valid o
  | .table, o => DerivedName.Valid o
  | .level, o => TemplateMap.Valid .level o
  | .measure, o => TemplateMap.Valid .measure o
  | .ignore, o => TemplateMap.Valid .ignore o

/-! ## §2 Slots, rules and rule sets -/

/-- The declaration of a slot is in order, given the pool of its kind. -/
structure Slot.Valid {k : Kind} (pool : Pool k) (s : Slot k) : Prop where
  /-- No more than one side counts. -/
  notBoth : ∀ o r, s.inlined = some o → s.reference = some r →
    ¬(k.isEnabled o = true ∧ r.enabled = true)
  /-- One side counts, unless the rule can do without. -/
  given : k ≠ .ignore → (∃ o, s.inlined = some o ∧ k.isEnabled o = true) ∨
    ∃ r, s.reference = some r ∧ r.enabled = true
  /-- An object that counts is in order. -/
  inlined : ∀ o, s.inlined = some o → k.isEnabled o = true → k.Valid o
  /-- A reference that counts has an id, and there is an object under it. -/
  reference : ∀ r, s.reference = some r → r.enabled = true →
    Text.isBlankText r.id = false ∧ ∃ o ∈ pool.objects, k.idOf o = r.id

/-- A rule is in order, given the pools. -/
structure Rule.Valid (pools : (k : Kind) → Pool k) (r : Rule) : Prop where
  slots : ∀ k, (r.slots k).Valid (pools k)
  /-- A name for the column that counts facts is not blank. -/
  countColumn : ∀ column, r.countColumn = some column → Text.isBlankText column = false

/-- A rule set is in order. -/
structure RuleSet.Valid (s : RuleSet) : Prop where
  pooled : ∀ k, ∀ o ∈ (s.pools k).objects, k.Valid o
  /-- Every rule has a tag, those that are not enabled too. -/
  tagged : ∀ r ∈ s.rules, Text.isBlankText r.tag = false
  distinct : (s.rules.map (·.tag)).Nodup
  /-- Exactly one enabled rule is the one where no tag is given. -/
  oneDefault : s.rules.countP (fun r => r.enabled && r.isDefault) = 1
  rules : ∀ r ∈ s.rules, r.enabled = true → r.Valid s.pools

/-! ## §3 Verdicts on objects -/

open Check (Decides)

/-- The verdict on one name. -/
theorem FixedName.check_decides (o : FixedName) : Decides o.check o.Valid := by
  unfold FixedName.check FixedName.Valid
  split
  next hblank =>
    refine Decides.refuse _ ?_
    simp [hblank]
  next hblank => exact Decides.accept (by simpa using hblank)

/-- The verdict on the pattern for base names. -/
theorem DerivedName.checkBasename_decides (o : DerivedName) :
    Decides o.checkBasename
      (∀ text, o.basename = some text → ∃ b, Basename.compile text = .ok b) := by
  unfold DerivedName.checkBasename
  cases ho : o.basename with
  | none => exact Decides.accept (by simp)
  | some text =>
    dsimp only
    cases hc : Basename.compile text with
    | ok b =>
      refine Decides.accept ?_
      simp [hc]
    | error cause =>
      refine Decides.refuse _ ?_
      simp [hc]

/-- The recognizer for the probe is there when the texts around it make a pattern. -/
theorem DerivedName.recognizerWith_none (o : DerivedName) (name : String) :
    o.recognizerWith name none =
      match NamePattern.compile o.casing
        (o.before.getD "" ++ o.casing.literal name ++ o.after.getD "") with
      | .ok p => .ok (.single o.id p)
      | .error cause => .error (.pattern cause) := rfl

/-- The verdict on the texts around the base name. -/
theorem DerivedName.checkAround_decides (o : DerivedName) :
    Decides o.checkAround (∃ p, NamePattern.compile o.casing
      (o.before.getD "" ++ o.casing.literal DerivedName.probe ++ o.after.getD "") = .ok p) := by
  unfold DerivedName.checkAround
  rw [DerivedName.recognizerWith_none]
  cases hc : NamePattern.compile o.casing
      (o.before.getD "" ++ o.casing.literal DerivedName.probe ++ o.after.getD "") with
  | ok p => exact Decides.accept ⟨p, rfl⟩
  | error cause =>
    refine Decides.refuse _ ?_
    simp

/-- The verdict on derived names. -/
theorem DerivedName.check_decides (o : DerivedName) : Decides o.check o.Valid :=
  (o.checkBasename_decides.and o.checkAround_decides).of_iff
    ⟨fun h => ⟨h.1, h.2⟩, fun h => ⟨h.basename, h.around⟩⟩

/-- No placeholder is illegal when every placeholder is one of the kind. -/
theorem TemplateMap.illegalNames_eq_nil_iff (k : Kind) (parts : List TemplatePart) :
    TemplateMap.illegalNames k parts = [] ↔
      ∀ name, TemplatePart.placeholder name ∈ parts → name ∈ k.placeholders := by
  have hname : ∀ part name, TemplatePart.name? part = some name ↔ part = .placeholder name := by
    intro part name
    cases part <;> simp [TemplatePart.name?]
  simp only [TemplateMap.illegalNames, List.filter_eq_nil_iff, List.mem_filterMap, hname]
  constructor
  · intro h name hmem
    simpa using h name ⟨_, hmem, rfl⟩
  · rintro h name ⟨part, hmem, rfl⟩
    simpa using h name hmem

/-- The verdict on a template. -/
theorem TemplateMap.checkTemplate_decides (k : Kind) (inherited : Casing) (t : Template) :
    Decides (TemplateMap.checkTemplate k inherited t) (t.Valid k inherited) := by
  unfold TemplateMap.checkTemplate
  -- there are three ways to be refused, each of which is against one part of validity
  cases hparse : Template.parse t.text with
  | error cause =>
    refine Decides.refuse _ fun hvalid => ?_
    obtain ⟨parts, hok, -⟩ := hvalid.legal
    simp [hparse] at hok
  | ok parts =>
    have hlegal := TemplateMap.illegalNames_eq_nil_iff k parts
    dsimp only
    cases hill : TemplateMap.illegalNames k parts with
    | cons name names =>
      refine Decides.refuse _ fun hvalid => ?_
      obtain ⟨parts', hok, hnames⟩ := hvalid.legal
      rw [hparse] at hok
      cases hok
      simp [hlegal.mpr hnames] at hill
    | nil =>
      dsimp only
      cases hc : t.compile inherited (k.placeholders.map (·, TemplateMap.probe)) with
      | error cause =>
        refine Decides.refuse _ fun hvalid => ?_
        obtain ⟨p, hok⟩ := hvalid.compiles
        simp [hc] at hok
      | ok p =>
        have hvalid : t.Valid k inherited := ⟨⟨parts, hparse, hlegal.mp hill⟩, p, hc⟩
        exact Decides.afterWhen _ _ (Decides.accept hvalid)

/-- The verdict on the templates of a map. The ids seen before matter for warnings only. -/
theorem TemplateMap.checkTemplates_decides (k : Kind) (inherited : Casing) (seen : List String)
    (ts : List Template) :
    Decides (TemplateMap.checkTemplates k inherited seen ts)
      (∀ t ∈ ts, t.Valid k inherited) := by
  induction ts generalizing seen with
  | nil => exact Decides.accept (by simp)
  | cons t ts ih =>
    have hhead := (TemplateMap.checkTemplate_decides k inherited t).inside s!"Regex[{t.id}]"
    exact Decides.afterWhen _ _ ((hhead.and (ih (t.id :: seen))).of_iff (by simp))

/-- The verdict on names by templates. -/
theorem TemplateMap.check_decides (k : Kind) (o : TemplateMap) :
    Decides (TemplateMap.check k o) (o.Valid k) :=
  Decides.afterWhen _ _ (TemplateMap.checkTemplates_decides k o.casingInForce [] o.templates)

/-- The verdict on an object. -/
theorem Kind.check_decides : (k : Kind) → (o : k.Object) → Decides (k.check o) (k.Valid o)
  | .factCount, o => FixedName.check_decides o
  | .foreignKey, o => DerivedName.check_decides o
  | .table, o => DerivedName.check_decides o
  | .level, o => TemplateMap.check_decides .level o
  | .measure, o => TemplateMap.check_decides .measure o
  | .ignore, o => TemplateMap.check_decides .ignore o

/-! ## §4 Verdicts on slots and rules -/

/-- An object is found under an id when there is one with that id in the pool. -/
theorem Pool.exists_find?_iff {k : Kind} (pool : Pool k) (id : String) :
    (∃ o, pool.find? id = some o) ↔ ∃ o ∈ pool.objects, k.idOf o = id := by
  rw [← Option.isSome_iff_exists, Pool.find?, List.find?_isSome]
  simp

/-- The verdict on a reference that counts. -/
theorem Slot.checkReference_decides {k : Kind} (pool : Pool k) (r : Reference) :
    Decides (Slot.checkReference k pool.find? r)
      (Text.isBlankText r.id = false ∧ ∃ o ∈ pool.objects, k.idOf o = r.id) := by
  rw [← pool.exists_find?_iff r.id]
  unfold Slot.checkReference
  split
  next hblank =>
    refine Decides.refuse _ ?_
    simp [hblank]
  next hblank =>
    have hnamed : Text.isBlankText r.id = false := by simpa using hblank
    cases hfind : pool.find? r.id with
    | none =>
      refine Decides.refuse _ ?_
      simp
    | some o => exact Decides.afterWhen _ _ (Decides.accept ⟨hnamed, o, rfl⟩)

/-- The side in the slot itself counts when it is there and enabled. -/
theorem Slot.usableInlined_eq_some_iff {k : Kind} {s : Slot k} {o : k.Object} :
    s.usableInlined = some o ↔ s.inlined = some o ∧ k.isEnabled o = true :=
  Option.filter_eq_some_iff

/-- The reference counts when it is there and enabled. -/
theorem Slot.usableReference_eq_some_iff {k : Kind} {s : Slot k} {r : Reference} :
    s.usableReference = some r ↔ s.reference = some r ∧ r.enabled = true :=
  Option.filter_eq_some_iff

/-- The declaration of a slot is in order when the sides that count are as they should be. -/
theorem Slot.valid_iff_usable {k : Kind} (pool : Pool k) (s : Slot k) :
    s.Valid pool ↔
      (∀ o r, s.usableInlined = some o → s.usableReference ≠ some r) ∧
      (k ≠ .ignore → s.usableInlined.isSome ∨ s.usableReference.isSome) ∧
      (∀ o, s.usableInlined = some o → k.Valid o) ∧
      (∀ r, s.usableReference = some r →
        Text.isBlankText r.id = false ∧ ∃ o ∈ pool.objects, k.idOf o = r.id) := by
  simp only [ne_eq, Option.isSome_iff_exists, Slot.usableInlined_eq_some_iff,
    Slot.usableReference_eq_some_iff]
  constructor
  · intro h
    exact ⟨fun o r ho hr => h.notBoth o r ho.1 hr.1 ⟨ho.2, hr.2⟩, h.given,
      fun o ho => h.inlined o ho.1 ho.2, fun r hr => h.reference r hr.1 hr.2⟩
  · rintro ⟨hboth, hgiven, hinlined, hreference⟩
    exact ⟨fun o r ho hr hon => hboth o r ⟨ho, hon.1⟩ ⟨hr, hon.2⟩, hgiven,
      fun o ho hon => hinlined o ⟨ho, hon⟩, fun r hr hon => hreference r ⟨hr, hon⟩⟩

/-- The verdict on a slot. -/
theorem Slot.check_decides {k : Kind} (pool : Pool k) (s : Slot k) :
    Decides (s.check pool.find?) (s.Valid pool) := by
  unfold Slot.check
  refine Decides.inside _ (Decides.of_iff ?_ (s.valid_iff_usable pool).symm)
  unfold Slot.selection
  -- the four selections, by which sides count
  cases hi : s.usableInlined with
  | none =>
    cases hr : s.usableReference with
    | none =>
      dsimp only
      split
      next hmandatory =>
        refine Decides.refuse _ fun h => ?_
        cases k <;> simp_all [Kind.isMandatory]
      next hoptional =>
        refine Decides.accept ?_
        cases k <;> simp_all [Kind.isMandatory]
    | some r => exact (Slot.checkReference_decides pool r).of_iff (by simp)
  | some o =>
    cases hr : s.usableReference with
    | none => exact (k.check_decides o).of_iff (by simp)
    | some r =>
      refine Decides.refuse _ fun h => ?_
      exact h.1 o r rfl rfl

/-- The verdict on the name for the column that counts facts. -/
theorem Rule.checkCountColumn_decides (r : Rule) :
    Decides r.checkCountColumn
      (∀ column, r.countColumn = some column → Text.isBlankText column = false) := by
  unfold Rule.checkCountColumn
  cases hc : r.countColumn with
  | none => exact Decides.accept (by simp)
  | some column =>
    split
    next hblank =>
      refine Decides.refuse _ ?_
      simpa using hblank
    next hblank =>
      refine Decides.accept ?_
      simpa using hblank

/-- Every kind has a slot in a rule. -/
theorem Kind.mem_slotOrder (k : Kind) : k ∈ Kind.slotOrder := by
  cases k <;> decide

/-- The verdict on a rule. -/
theorem Rule.check_decides (pools : (k : Kind) → Pool k) (r : Rule) :
    Decides (r.check fun k => (pools k).find?) (r.Valid pools) := by
  have hslots : Decides
      (Check.every (fun k => (r.slots k).check (pools k).find?) Kind.slotOrder)
      (∀ k ∈ Kind.slotOrder, (r.slots k).Valid (pools k)) :=
    Decides.every fun k _ => (r.slots k).check_decides (pools k)
  refine (hslots.and r.checkCountColumn_decides).of_iff ⟨?_, ?_⟩
  · rintro ⟨hs, hc⟩
    exact ⟨fun k => hs k k.mem_slotOrder, hc⟩
  · intro h
    exact ⟨fun k _ => h.slots k, h.countColumn⟩

/-! ## §5 The verdict on a rule set -/

/-- The verdict on a pool. -/
theorem Pool.check_decides {k : Kind} (pool : Pool k) :
    Decides pool.check (∀ o ∈ pool.objects, k.Valid o) :=
  Decides.every fun o _ => (k.check_decides o).inside _

/-- The verdict on tags, where those in `seen` are taken. -/
theorem RuleSet.checkTags_decides (seen : List String) (rs : List Rule) :
    Decides (RuleSet.checkTags seen rs)
      ((∀ r ∈ rs, Text.isBlankText r.tag = false) ∧ (rs.map (·.tag)).Nodup ∧
        ∀ r ∈ rs, r.tag ∉ seen) := by
  induction rs generalizing seen with
  | nil => exact Decides.accept (by simp)
  | cons r rs ih =>
    unfold RuleSet.checkTags
    split
    next hblank =>
      -- the rest is checked all the same, but the verdict is given
      refine Decides.after _ (Decides.refuse _ fun h => ?_)
      simpa [hblank] using h.1 r (by simp)
    next hblank =>
      split
      next hseen =>
        refine Decides.after _ (Decides.refuse _ fun h => ?_)
        exact h.2.2 r (by simp) (by simpa using hseen)
      next hseen =>
        refine (ih (r.tag :: seen)).of_iff ?_
        have hnamed : Text.isBlankText r.tag = false := by simpa using hblank
        have hnew : r.tag ∉ seen := by simpa using hseen
        simp only [List.map_cons, List.nodup_cons, List.mem_map, List.mem_cons, not_or,
          forall_eq_or_imp, hnamed, hnew, not_false_eq_true, true_and]
        constructor
        · rintro ⟨htagged, hdistinct, hfree⟩
          refine ⟨htagged, ⟨?_, hdistinct⟩, fun r' hr' => (hfree r' hr').2⟩
          rintro ⟨r', hr', htag⟩
          exact (hfree r' hr').1 htag
        · rintro ⟨htagged, ⟨hother, hdistinct⟩, hfree⟩
          refine ⟨htagged, hdistinct, fun r' hr' => ⟨?_, hfree r' hr'⟩⟩
          exact fun htag => hother ⟨r', hr', htag⟩

/-- The verdict on the choice where no tag is given. -/
theorem RuleSet.checkDefault_decides (rs : List Rule) :
    Decides (RuleSet.checkDefault rs)
      (rs.countP (fun r => r.enabled && r.isDefault) = 1) := by
  rw [List.countP_eq_length_filter]
  change Decides _ ((rs.filter (·.isUsableDefault)).length = 1)
  unfold RuleSet.checkDefault
  -- none, one or more of them: only how many there are matters
  generalize rs.filter (·.isUsableDefault) = defaults
  rcases defaults with _ | ⟨r, _ | ⟨r', rest⟩⟩
  · refine Decides.refuse _ ?_
    simp
  · exact Decides.accept rfl
  · refine Decides.refuse _ ?_
    simp

/-- The verdict on a rule of a rule set. -/
theorem RuleSet.checkRule_decides (s : RuleSet) (r : Rule) :
    Decides (s.checkRule r) (r.enabled = true → r.Valid s.pools) := by
  unfold RuleSet.checkRule
  split
  next hon => exact ((r.check_decides s.pools).inside _).of_iff (by simp [hon])
  next hoff => exact Decides.after _ (Decides.accept fun hon => absurd hon hoff)

/-- The verdict on a rule set. -/
theorem RuleSet.check_decides (s : RuleSet) : Decides s.check s.Valid := by
  have hpools : Decides (Check.every (fun k => (s.pools k).check) Kind.all)
      (∀ k ∈ Kind.all, ∀ o ∈ (s.pools k).objects, k.Valid o) :=
    Decides.every fun k _ => (s.pools k).check_decides
  have hrules : Decides (Check.every s.checkRule s.rules)
      (∀ r ∈ s.rules, r.enabled = true → r.Valid s.pools) :=
    Decides.every fun r _ => s.checkRule_decides r
  refine Decides.inside _ ?_
  -- every part is checked, whatever the verdicts on the others are; they come together at the end
  refine hpools.bind fun poolsOk hp => (RuleSet.checkTags_decides [] s.rules).bind fun tagsOk ht =>
    (RuleSet.checkDefault_decides s.rules).bind fun defaultOk hd => hrules.bind fun rulesOk hr =>
      (Decides.pure _).of_iff ?_
  simp only [Bool.and_eq_true, hp, ht, hd, hr]
  constructor
  · rintro ⟨⟨⟨hpooled, htagged, hdistinct, -⟩, hdefault⟩, hrules⟩
    exact ⟨fun k => hpooled k k.mem_all, htagged, hdistinct, hdefault, hrules⟩
  · intro h
    exact ⟨⟨⟨fun k _ => h.pooled k, h.tagged, h.distinct, by simp⟩, h.oneDefault⟩, h.rules⟩

/-- Validation is passed by the valid rule sets and by no others, whatever the recorder holds. -/
theorem RuleSet.validate_eq_true_iff_valid (s : RuleSet) (recorder : Recorder) :
    (s.validate.run recorder).1.1 = true ↔ s.Valid :=
  s.check_decides recorder

end AggregateNaming
