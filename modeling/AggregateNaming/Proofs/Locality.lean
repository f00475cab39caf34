import AggregateNaming.Proofs.Agreement
import AggregateNaming.Proofs.Binding
import AggregateNaming.Proofs.Transparency
import Mathlib.Algebra.BigOperators.Group.List.Basic
import Mathlib.Algebra.Order.Group.Multiset
import Mathlib.Tactic.Abel

/-!
# Where errors come from

What is wrong with a rule set is wrong with its parts: the errors of a validation are those of the
pooled objects, those of the tags and of the choice where no tag is given, and those of the rules. A
pooled object is looked at where it lies, and by the references to it. So one more of them changes no
other error than those of the references to it, which go away.

## Main definitions

- `Check.errorsIn` : the errors of a computation inside the parts of a path.
- `Slot.needsPooled` : a declaration that counts only by its reference to an id.
- `RuleSet.notFound` : the errors of a rule set that are for want of an object.

## Main statements

- `Check.Transparent.errorsIn_bind`, `Check.Transparent.errorsIn_every` : the errors of composed
  computations.
- `RuleSet.errorsIn_check` : the errors of a rule set, part by part.
- `RuleSet.errors_of_register` : what one more pooled object does to the errors of a rule set.
-/

namespace AggregateNaming

/-! ## §1 Errors of computations -/

/-- What is added up for some members of a list is what is made of these members. -/
theorem sum_map_ite_singleton {α β : Type} (p : α → Bool) (f : α → β) (l : List α) :
    (l.map fun a => if p a then ({f a} : Multiset β) else 0).sum = ((l.filter p).map f : List β) := by
  induction l with
  | nil => rfl
  | cons a l ih =>
    rw [List.map_cons, List.sum_cons, ih]
    cases h : p a <;> simp [h]

namespace Check

/-- The errors of a computation inside the parts of a path, as often as they are reported. -/
def errorsIn (path : List String) (c : Check α) : Multiset Diagnostic :=
  (c.run ⟨path, []⟩).2.errors

section Rules

variable {path : List String}

@[simp] theorem errorsIn_pure (a : α) : errorsIn path (Pure.pure a : Check α) = 0 := rfl

/-- Inside a part, errors are reported below it. -/
@[simp] theorem errorsIn_inside (name : String) (c : Check α) :
    errorsIn path (Check.inside name c) = errorsIn (path ++ [name]) c := rfl

end Rules

/-- A check has no errors when it is passed. -/
theorem Agrees.errorsIn_eq_zero_iff {c : Check Bool} (hc : Agrees c) :
    errorsIn [] c = 0 ↔ (c.run {}).1 = true := by
  rw [hc.new_iff]
  exact Multiset.coe_eq_zero _

/-- The errors of a computation are those among its diagnostics. -/
theorem errorsIn_eq_filter_reportsIn (path : List String) (c : Check α) :
    errorsIn path c = ((reportsIn path c).filter (·.isError) : List Diagnostic) := rfl

namespace Transparent

variable {c : Check α} {path : List String}

/-- One computation after another has the errors of both. -/
theorem errorsIn_bind {next : α → Check β} (hc : Transparent c) (hnext : ∀ a, Transparent (next a)) :
    errorsIn path (c >>= next) = errorsIn path c + errorsIn path (next (c.run ⟨path, []⟩).1) := by
  rw [errorsIn_eq_filter_reportsIn, hc.reportsIn_bind hnext, List.filter_append, ← Multiset.coe_add]
  rfl

/-- Two checks, one after the other, have the errors of both. -/
theorem errorsIn_and {c d : Check Bool} (hc : Transparent c) (hd : Transparent d) :
    errorsIn path (do let a ← c; let b ← d; return a && b) = errorsIn path c + errorsIn path d := by
  rw [errorsIn_eq_filter_reportsIn, hc.reportsIn_and hd, List.filter_append, ← Multiset.coe_add]
  rfl

/-- A check on every member of a list has the errors of all of them. -/
theorem errorsIn_every {check : α → Check Bool} (h : ∀ a, Transparent (check a)) (l : List α) :
    errorsIn path (Check.every check l) = (l.map fun a => errorsIn path (check a)).sum := by
  induction l with
  | nil => rfl
  | cons a l ih =>
    rw [List.map_cons, List.sum_cons, ← ih]
    exact (h a).errorsIn_and (every h l)

/-- Inside the parts of a path, the errors of a computation are those of the computation alone, seen
from outside of these parts. -/
theorem errorsIn_eq_map_inside (hc : Transparent c) :
    errorsIn path c = (errorsIn [] c).map (·.inside path) := by
  obtain ⟨a, fs, hfinds, hnamed⟩ := hc
  have hseen : reportsIn path c = (reportsIn [] c).map (·.inside path) := by
    rw [hfinds.reportsIn_eq, hfinds.reportsIn_eq, List.map_map]
    exact List.map_congr_left fun f hf => f.diagnostic_eq_inside path (hnamed f hf)
  have hlevel : (Diagnostic.isError ∘ Diagnostic.inside path) = Diagnostic.isError := by
    funext d
    simp only [Function.comp_apply, Diagnostic.inside]
    split <;> rfl
  rw [errorsIn_eq_filter_reportsIn, errorsIn_eq_filter_reportsIn, hseen, List.filter_map, hlevel,
    Multiset.map_coe]

end Transparent

end Check

open Check (errorsIn Transparent)

/-! ## §2 Errors of parts -/

/-- The errors of a pool are those of its objects, each in the part that it is. -/
theorem Pool.errorsIn_check {k : Kind} (p : Pool k) (path : List String) :
    errorsIn path p.check =
      (p.objects.map fun o => errorsIn (path ++ [s!"{k.label}[{k.idOf o}]"]) (k.check o)).sum :=
  Transparent.errorsIn_every (fun o => (k.check_transparent o).inside
    (append_bracket_ne_empty (k.label ++ "[") (k.idOf o))) p.objects

/-- The errors of a rule are those of its slots and of the name for the column that counts facts. -/
theorem Rule.errorsIn_check (lookup : (k : Kind) → String → Option k.Object) (r : Rule)
    (path : List String) :
    errorsIn path (r.check lookup) =
      (Kind.slotOrder.map fun k => errorsIn path ((r.slots k).check (lookup k))).sum +
        errorsIn path r.checkCountColumn := by
  have hslots : ∀ k, Transparent ((r.slots k).check (lookup k)) :=
    fun k => (r.slots k).check_transparent (lookup k)
  rw [← Transparent.errorsIn_every hslots]
  exact (Transparent.every hslots Kind.slotOrder).errorsIn_and r.checkCountColumn_transparent

namespace RuleSet

/-- A rule that is not enabled has no errors. -/
theorem errorsIn_checkRule (s : RuleSet) (r : Rule) (path : List String) :
    errorsIn path (s.checkRule r) =
      if r.enabled then errorsIn (path ++ [s!"AggRule[{r.tag}]"]) (r.check s.lookup) else 0 := by
  unfold checkRule
  split <;> rfl

/-- The errors of a rule set are those of its pools, of its tags, of the choice where no tag is given,
and of its rules. -/
theorem errorsIn_check (s : RuleSet) (path : List String) :
    errorsIn path s.check =
      let inner := path ++ [s!"AggRules[{s.tag}]"]
      (Kind.all.map fun k => errorsIn inner (s.pools k).check).sum +
        errorsIn inner (checkTags [] s.rules) + errorsIn inner (checkDefault s.rules) +
        (s.rules.map fun r => errorsIn inner (s.checkRule r)).sum := by
  have hpools := Transparent.every (fun k => (s.pools k).check_transparent) Kind.all
  have htags := checkTags_transparent [] s.rules
  have hdefault := checkDefault_transparent s.rules
  have hrules := Transparent.every s.checkRule_transparent s.rules
  rw [check, Check.errorsIn_inside]
  simp only [← Transparent.errorsIn_every s.checkRule_transparent,
    ← Transparent.errorsIn_every fun k => (s.pools k).check_transparent]
  -- the four verdicts are put together at the end, which reports nothing
  rw [hpools.errorsIn_bind fun _ => htags.bind fun _ => hdefault.bind fun _ => hrules.bind
      fun _ => Transparent.pure _,
    htags.errorsIn_bind fun _ => hdefault.bind fun _ => hrules.bind fun _ => Transparent.pure _,
    hdefault.errorsIn_bind fun _ => hrules.bind fun _ => Transparent.pure _,
    hrules.errorsIn_bind fun _ => Transparent.pure _, Check.errorsIn_pure, add_zero]
  simp only [add_assoc]

end RuleSet

/-! ## §3 References to one object -/

namespace Slot

variable {k : Kind} {id : String} {s : Slot k}

/-- The declaration of a slot counts only by a reference to what is under an id. -/
def needsPooled (id : String) (s : Slot k) : Bool :=
  s.inlined.all (!k.isEnabled ·) && s.reference.any fun r => r.enabled && r.id == id

/-- A slot needs what is under an id when a reference to the id is what counts of it. -/
theorem needsPooled_iff : s.needsPooled id = true ↔ ∃ r, s.selection = .reference r ∧ r.id = id := by
  simp only [selection_eq_reference_iff, usableInlined_eq_none_iff, usableReference_eq_some_iff,
    needsPooled, Bool.and_eq_true, Option.all_eq_true, Option.any_eq_true, Bool.not_eq_true',
    beq_iff_eq, and_assoc]
  exact exists_and_left.symm

/-- The errors of a slot that needs what is not there. -/
theorem errorsIn_check_of_missing {lookup : String → Option k.Object} (hneeds : s.needsPooled id = true)
    (hnamed : Text.isBlankText id = false) (hmissing : lookup id = none) (path : List String) :
    errorsIn path (s.check lookup) =
      {⟨.error, Recorder.renderPath (path ++ [k.label]), s!"{k.label} '{id}' not found"⟩} := by
  obtain ⟨r, hselection, rfl⟩ := needsPooled_iff.mp hneeds
  simp only [check, hselection, checkReference, hnamed, hmissing]
  rfl

/-- A slot that needs what is there has no errors. -/
theorem errorsIn_check_of_found {lookup : String → Option k.Object} {o : k.Object}
    (hneeds : s.needsPooled id = true) (hnamed : Text.isBlankText id = false)
    (hfound : lookup id = some o) (path : List String) : errorsIn path (s.check lookup) = 0 := by
  obtain ⟨r, hselection, rfl⟩ := needsPooled_iff.mp hneeds
  simp only [check, hselection, checkReference, hnamed, hfound, Bool.false_eq_true, ite_false]
  -- at most there is a warning
  split <;> rfl

/-- A slot that does not need what is under an id is looked at the same, whatever is there. -/
theorem check_congr {lookup lookup' : String → Option k.Object} (hneeds : s.needsPooled id ≠ true)
    (h : ∀ id', id' ≠ id → lookup' id' = lookup id') : s.check lookup' = s.check lookup := by
  unfold check
  cases hselection : s.selection with
  | reference r =>
    have hid : r.id ≠ id := fun hid => hneeds (needsPooled_iff.mpr ⟨r, hselection, hid⟩)
    simp only [checkReference, h r.id hid]
  | inlined o => rfl
  | both => rfl
  | neither => rfl

end Slot

/-! ## §4 One more pooled object -/

/-- A pool with one more object has the errors of this object, too. -/
theorem Pool.errorsIn_insert {k : Kind} (p : Pool k) (o : k.Object)
    (named : Text.isBlankText (k.idOf o) = false) (isNew : p.find? (k.idOf o) = none)
    (path : List String) :
    errorsIn path (p.insert o named isNew).check =
      errorsIn path p.check + errorsIn (path ++ [s!"{k.label}[{k.idOf o}]"]) (k.check o) := by
  have hperm := (Pool.perm_insertSorted o p.objects).map
    fun o => errorsIn (path ++ [s!"{k.label}[{k.idOf o}]"]) (k.check o)
  rw [Pool.errorsIn_check, Pool.errorsIn_check, add_comm]
  exact hperm.sum_eq

namespace RuleSet

/-- The errors of a rule set for want of an object under an id: one for every enabled rule whose slot
of the kind needs it. -/
def notFound (s : RuleSet) (k : Kind) (id : String) : List Diagnostic :=
  (s.rules.filter fun r => r.enabled && (r.slots k).needsPooled id).map fun r =>
    ⟨.error, Recorder.renderPath [s!"AggRules[{s.tag}]", s!"AggRule[{r.tag}]", k.label],
      s!"{k.label} '{id}' not found"⟩

section Register

variable {s s' : RuleSet} {k : Kind} {o : k.Object}

/-- Registration does not change the tag. -/
theorem tag_register (h : s.register k o = .ok s') : s'.tag = s.tag := by
  obtain ⟨named, isNew, rfl⟩ := exists_insert_of_register h
  rfl

/-- The errors of a pool after a registration. -/
theorem errorsIn_pool_register (h : s.register k o = .ok s') (k' : Kind) (path : List String) :
    errorsIn path (s'.pools k').check = errorsIn path (s.pools k').check +
      if k = k' then errorsIn (path ++ [s!"{k.label}[{k.idOf o}]"]) (k.check o) else 0 := by
  obtain ⟨named, isNew, rfl⟩ := exists_insert_of_register h
  by_cases hk : k = k'
  · subst hk
    simp only [withPool, dif_pos, if_pos]
    exact (s.pools k).errorsIn_insert o named isNew path
  · simp only [withPool, dif_neg hk, if_neg hk, add_zero]

/-- The errors of a slot before a registration. -/
theorem errorsIn_slot_register (h : s.register k o = .ok s') {k' : Kind} (slot : Slot k')
    (path : List String) :
    errorsIn path (slot.check (s.lookup k')) = errorsIn path (slot.check (s'.lookup k')) +
      if k = k' then
        if slot.needsPooled (k.idOf o) then
          {⟨.error, Recorder.renderPath (path ++ [k.label]), s!"{k.label} '{k.idOf o}' not found"⟩}
        else 0
      else 0 := by
  obtain ⟨hnamed, hmissing⟩ := register_succeeds_iff.mp ⟨s', h⟩
  split_ifs with hk hneeds
  · subst hk
    rw [Slot.errorsIn_check_of_missing hneeds hnamed hmissing,
      Slot.errorsIn_check_of_found hneeds hnamed (lookup_register_self h), zero_add]
  · -- under all other ids of the kind there is what was there
    subst hk
    rw [Slot.check_congr hneeds fun id' hid => lookup_register_of_ne h fun _ => hid, add_zero]
  · have hlookup : s'.lookup k' = s.lookup k' :=
      funext fun id => lookup_register_of_ne h fun hk' => absurd hk'.symm hk
    rw [hlookup, add_zero]

/-- The errors of a rule before a registration. -/
theorem errorsIn_rule_register (h : s.register k o = .ok s') (r : Rule) (path : List String) :
    errorsIn path (r.check s.lookup) = errorsIn path (r.check s'.lookup) +
      if (r.slots k).needsPooled (k.idOf o) then
        {⟨.error, Recorder.renderPath (path ++ [k.label]), s!"{k.label} '{k.idOf o}' not found"⟩}
      else 0 := by
  simp only [Rule.errorsIn_check, errorsIn_slot_register h, List.sum_map_add]
  rw [add_right_comm]
  -- the slot of the kind is visited once
  cases k <;> simp [Kind.slotOrder]

/-- The errors of a rule in a rule set before a registration. -/
theorem errorsIn_checkRule_register (h : s.register k o = .ok s') (r : Rule) (path : List String) :
    errorsIn path (s.checkRule r) = errorsIn path (s'.checkRule r) +
      if r.enabled && (r.slots k).needsPooled (k.idOf o) then
        {⟨.error, Recorder.renderPath (path ++ [s!"AggRule[{r.tag}]", k.label]),
          s!"{k.label} '{k.idOf o}' not found"⟩}
      else 0 := by
  rw [errorsIn_checkRule, errorsIn_checkRule, errorsIn_rule_register h]
  cases r.enabled with
  | true => simp
  | false => rfl

end Register

/-- The errors of a rule set before and after a registration have all in common but those for want of
the object before it, and those of the object after it. -/
theorem exists_common_errors_register {s s' : RuleSet} {k : Kind} {o : k.Object}
    (h : s.register k o = .ok s') :
    ∃ common, errorsIn [] s.check = common + s.notFound k (k.idOf o) ∧
      errorsIn [] s'.check = common +
        errorsIn [s!"AggRules[{s.tag}]", s!"{k.label}[{k.idOf o}]"] (k.check o) := by
  let inner := [s!"AggRules[{s.tag}]"]
  -- in common are the errors of the pools before and of the rules after the registration
  refine ⟨(Kind.all.map fun k => errorsIn inner (s.pools k).check).sum +
    errorsIn inner (checkTags [] s.rules) + errorsIn inner (checkDefault s.rules) +
    (s.rules.map fun r => errorsIn inner (s'.checkRule r)).sum, ?_, ?_⟩
  · simp only [errorsIn_check, errorsIn_checkRule_register h, List.sum_map_add,
      sum_map_ite_singleton, add_assoc]
    rfl
  · -- the pool of the kind is visited once
    have hown : ∀ own : Multiset Diagnostic,
        (Kind.all.map fun k' => if k = k' then own else 0).sum = own := by
      intro own
      cases k <;> simp [Kind.all]
    simp only [errorsIn_check, rules_register h, tag_register h, errorsIn_pool_register h,
      List.sum_map_add, hown, List.nil_append, List.cons_append, inner]
    abel

/-- What one more pooled object does to a rule set. The errors of a validation are those from before
without the ones that were for want of the object, all of which were there, and with the errors of the
object itself, at their places there. So an object without errors adds none, and a rule set that was
in order stays so, whether or not a rule refers to the object. -/
theorem errors_of_register (s s' : RuleSet) (k : Kind) (o : k.Object)
    (h : s.register k o = .ok s') :
    ((s'.validate.run {}).2.errors : Multiset Diagnostic) =
      ((s.validate.run {}).2.errors : Multiset Diagnostic) - s.notFound k (k.idOf o) +
        (((k.check o).run {}).2.errors.map
          (·.inside [s!"AggRules[{s.tag}]", s!"{k.label}[{k.idOf o}]"]) : List Diagnostic) ∧
    (s.notFound k (k.idOf o) : Multiset Diagnostic) ≤ (s.validate.run {}).2.errors ∧
    (((k.check o).run {}).1 = true →
      ((s'.validate.run {}).2.errors : Multiset Diagnostic) ≤ (s.validate.run {}).2.errors ∧
      ((s.validate.run {}).1.1 = true → (s'.validate.run {}).1.1 = true)) := by
  -- validation reports what the check does
  change errorsIn [] s'.check = errorsIn [] s.check - s.notFound k (k.idOf o) +
      (errorsIn [] (k.check o)).map (·.inside [s!"AggRules[{s.tag}]", s!"{k.label}[{k.idOf o}]"]) ∧
    (s.notFound k (k.idOf o) : Multiset Diagnostic) ≤ errorsIn [] s.check ∧
    (((k.check o).run {}).1 = true → errorsIn [] s'.check ≤ errorsIn [] s.check ∧
      ((s.check.run {}).1 = true → (s'.check.run {}).1 = true))
  rw [← (k.check_transparent o).errorsIn_eq_map_inside]
  obtain ⟨common, hbefore, hafter⟩ := exists_common_errors_register h
  refine ⟨?_, ?_, fun hok => ?_⟩
  · rw [hbefore, hafter, add_tsub_cancel_right]
  · rw [hbefore]
    exact Multiset.le_add_left _ _
  · have hown : errorsIn [s!"AggRules[{s.tag}]", s!"{k.label}[{k.idOf o}]"] (k.check o) = 0 := by
      rw [(k.check_transparent o).errorsIn_eq_map_inside,
        (k.check_agrees o).errorsIn_eq_zero_iff.mpr hok, Multiset.map_zero]
    have hle : errorsIn [] s'.check ≤ errorsIn [] s.check := by
      rw [hbefore, hafter, hown, add_zero]
      exact Multiset.le_add_right _ _
    -- without errors before there are none after
    refine ⟨hle, fun hvalid => ?_⟩
    have hnone := s.check_agrees.errorsIn_eq_zero_iff.mpr hvalid
    rw [hnone, Multiset.le_zero] at hle
    exact s'.check_agrees.errorsIn_eq_zero_iff.mp hle

/-- A rule set whose only rule refers to a table that is not there. -/
def tableless : RuleSet where
  tag := "d"
  rules := [{ tag := "r", isDefault := true, slots := fun
    | .table => { reference := some { id := "t" } }
    | _ => {} }]

/-- The table that the rule refers to takes an error away, and brings one of its own when it is
broken. -/
theorem errors_of_register_tableless :
    ∃ s', tableless.register .table { id := "t", before := some "(" } = .ok s' ∧
      ((s'.validate.run {}).2.errors : Multiset Diagnostic) =
        ((tableless.validate.run {}).2.errors : Multiset Diagnostic) -
          {⟨.error, "AggRules[d] > AggRule[r] > TableMatch", "TableMatch 't' not found"⟩} +
          {⟨.error, "AggRules[d] > TableMatch[t]",
            "pretemplate/posttemplate do not compile: invalid regex: <regex error>"⟩} := by
  obtain ⟨s', h⟩ : ∃ s', tableless.register .table { id := "t", before := some "(" } = .ok s' :=
    register_succeeds_iff.mpr ⟨by decide, rfl⟩
  refine ⟨s', h, (errors_of_register tableless s' .table _ h).1.trans ?_⟩
  congr 1

end RuleSet

end AggregateNaming
