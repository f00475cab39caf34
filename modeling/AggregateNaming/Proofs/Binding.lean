import AggregateNaming.Proofs.Guarantee
import Mathlib.Data.List.Forall2

/-!
# Binding

Validation binds slots. It can be told as one walk through the rule set, in which a slot is bound at
the place where it is looked at, and the walk goes on whatever it has found there. This walk is the
same as looking at everything first and binding all slots afterwards, so that no fault anywhere in a
rule set keeps a slot elsewhere from being bound.

## Main definitions

- `Slot.visit`, `Rule.visit`, `RuleSet.walk` : validation as one walk.
- `Slot.Selects` : the object that the declaration of a slot comes to, said by its two sides.

## Main statements

- `Slot.visit_eq`, `Rule.visit_eq`, `RuleSet.walk_eq_validate` : the walk is a check, followed by
  binding.
- `RuleSet.validate_binds_selected` : which slots are bound after a validation, and to what.
-/

namespace AggregateNaming

/-! ## §1 Validation as one walk -/

/-- Looks at the members of a list one after the other, whatever it says of them, and changes each.
-/
def Check.visitEvery (visit : α → Check (Bool × α)) : List α → Check (Bool × List α)
  | [] => return (true, [])
  | a :: rest => do
    let (ok, a') ← visit a
    let (restOk, rest') ← visitEvery visit rest
    return (ok && restOk, a' :: rest')

namespace Slot

variable {k : Kind}

/-- The slot, bound to an object unless it has been bound before. -/
def bind (s : Slot k) (o : k.Object) : Slot k := { s with bound := s.bound.or (some o) }

/-- Looks at the reference of a slot, and binds the slot where there is an object under it. -/
def visitReference (lookup : String → Option k.Object) (s : Slot k) (r : Reference) :
    Check (Bool × Slot k) :=
  if Text.isBlankText r.id then do
    Check.error "refid is empty"
    return (false, s)
  else
    match lookup r.id with
    | some o => do
      if !k.isEnabled o then
        Check.warn s!"referenced {k.label} '{r.id}' is disabled"
      return (true, s.bind o)
    | none => do
      Check.error s!"{k.label} '{r.id}' not found"
      return (false, s)

/-- Looks at a slot, and binds it where its declaration comes to an object. -/
def visit (lookup : String → Option k.Object) (s : Slot k) : Check (Bool × Slot k) :=
  Check.inside k.label <|
    match s.selection with
    | .both => do
      Check.error "both base and baseref are ok"
      return (false, s)
    | .neither => do
      if k.isMandatory then
        Check.error "neither base nor baseref is ok"
        return (false, s)
      else return (true, s)
    | .inlined o => do
      let ok ← k.check o
      return (ok, s.bind o)
    | .reference r => s.visitReference lookup r

end Slot

namespace Rule

/-- The rule with another slot of one kind. -/
def withSlot (r : Rule) (k : Kind) (s : Slot k) : Rule :=
  { r with slots := fun k' => if h : k = k' then h ▸ s else r.slots k' }

/-- Looks at the slots of some kinds one after the other, and binds them on the way. -/
def visitSlots (lookup : (k : Kind) → String → Option k.Object) :
    List Kind → Rule → Check (Bool × Rule)
  | [], r => return (true, r)
  | k :: ks, r => do
    let (ok, s) ← (r.slots k).visit (lookup k)
    let (restOk, r') ← visitSlots lookup ks (r.withSlot k s)
    return (ok && restOk, r')

/-- Looks at a rule, and binds its slots on the way. -/
def visit (lookup : (k : Kind) → String → Option k.Object) (r : Rule) : Check (Bool × Rule) := do
  let (slotsOk, r') ← visitSlots lookup Kind.slotOrder r
  let columnOk ← r'.checkCountColumn
  return (slotsOk && columnOk, r')

end Rule

namespace RuleSet

/-- Looks at a rule of a rule set, unless it is not enabled. -/
def visitRule (s : RuleSet) (r : Rule) : Check (Bool × Rule) := do
  if r.enabled then Check.inside s!"AggRule[{r.tag}]" (r.visit s.lookup)
  else
    Check.info s!"AggRule '{r.tag}' is disabled and was not validated"
    return (true, r)

/-- Looks at a rule set, and binds the slots of its enabled rules on the way. -/
def walk (s : RuleSet) : Check (Bool × RuleSet) :=
  Check.inside s!"AggRules[{s.tag}]" do
    let poolsOk ← Check.every (fun k => (s.pools k).check) Kind.all
    let tagsOk ← checkTags [] s.rules
    let defaultOk ← checkDefault s.rules
    let (rulesOk, rules) ← Check.visitEvery s.visitRule s.rules
    return (poolsOk && tagsOk && defaultOk && rulesOk, { s with rules })

end RuleSet

/-! ## §2 The walk through a rule -/

/-- A check that hands on a value besides its verdict. -/
def Check.yielding (c : Check Bool) (b : β) : Check (Bool × β) := do
  let ok ← c
  return (ok, b)

/-- Changing every member of a list on the way is changing all of them afterwards. -/
theorem Check.visitEvery_eq {visit : α → Check (Bool × α)} {check : α → Check Bool} {f : α → α}
    (h : ∀ a, visit a = (check a).yielding (f a)) (l : List α) :
    Check.visitEvery visit l = (Check.every check l).yielding (l.map f) := by
  induction l with
  | nil => rfl
  | cons a l ih =>
    rw [Check.visitEvery, h a, ih]
    rfl

namespace Slot

variable {k : Kind} {lookup : String → Option k.Object}

/-- A slot whose declaration comes to nothing stays as it is. -/
theorem resolve_of_target_none {s : Slot k} (h : s.target? lookup = none) :
    s.resolve lookup = s := by
  rw [resolve, h, Option.or_none]

/-- A slot whose declaration comes to an object is bound to it. -/
theorem resolve_of_target_some {s : Slot k} {o : k.Object} (h : s.target? lookup = some o) :
    s.resolve lookup = s.bind o := by
  rw [resolve, h, bind]

/-- Looking at a reference and binding the slot on the way. -/
theorem visitReference_eq {s : Slot k} {r : Reference} (h : s.selection = .reference r) :
    s.visitReference lookup r = (checkReference k lookup r).yielding (s.resolve lookup) := by
  unfold visitReference checkReference
  -- the reference is followed under the very conditions under which the check accepts it
  have htarget : s.target? lookup = if Text.isBlankText r.id then none else lookup r.id := by
    rw [target?, h]
  split
  next hblank =>
    rw [resolve_of_target_none (by rw [htarget, if_pos hblank])]
    rfl
  next hnamed =>
    rw [if_neg hnamed] at htarget
    cases hfind : lookup r.id with
    | some o =>
      rw [resolve_of_target_some (htarget.trans hfind)]
      dsimp only
      split <;> rfl
    | none =>
      rw [resolve_of_target_none (htarget.trans hfind)]
      rfl

/-- Looking at a slot and binding it on the way is a check, followed by binding. -/
theorem visit_eq (lookup : String → Option k.Object) (s : Slot k) :
    s.visit lookup = (s.check lookup).yielding (s.resolve lookup) := by
  unfold visit check
  -- only two of the selections can come to an object
  cases hsel : s.selection with
  | both =>
    rw [resolve_of_target_none (by rw [target?, hsel])]
    rfl
  | neither =>
    rw [resolve_of_target_none (by rw [target?, hsel])]
    dsimp only
    split <;> rfl
  | inlined o =>
    rw [resolve_of_target_some (by rw [target?, hsel])]
    rfl
  | reference r =>
    dsimp only
    rw [visitReference_eq hsel]
    rfl

/-- Once bound, a slot is not bound anew. -/
@[simp] theorem resolve_resolve (lookup : String → Option k.Object) (s : Slot k) :
    (s.resolve lookup).resolve lookup = s.resolve lookup := by
  change ({ s with bound := (s.bound.or (s.target? lookup)).or (s.target? lookup) } : Slot k) = _
  rw [Option.or_assoc, Option.or_self]
  rfl

end Slot

namespace Rule

variable {lookup : (k : Kind) → String → Option k.Object}

@[simp] theorem slots_withSlot_self (r : Rule) (k : Kind) (s : Slot k) :
    (r.withSlot k s).slots k = s := by
  simp [withSlot]

theorem slots_withSlot_of_ne (r : Rule) {k k' : Kind} (s : Slot k) (h : k ≠ k') :
    (r.withSlot k s).slots k' = r.slots k' := by
  simp [withSlot, h]

/-- The rule with the slots of some kinds bound. -/
def resolveSlots (lookup : (k : Kind) → String → Option k.Object) (ks : List Kind) (r : Rule) :
    Rule :=
  ks.foldl (fun r k => r.withSlot k ((r.slots k).resolve (lookup k))) r

/-- Binding one slot does not change what is said of any slot. -/
theorem check_slots_withSlot_resolve (r : Rule) (k : Kind) :
    (fun k' => ((r.withSlot k ((r.slots k).resolve (lookup k))).slots k').check (lookup k')) =
      fun k' => (r.slots k').check (lookup k') := by
  funext k'
  by_cases h : k = k'
  · subst h
    rw [slots_withSlot_self]
    rfl
  · rw [slots_withSlot_of_ne _ _ h]

/-- Looking at slots and binding them on the way. -/
theorem visitSlots_eq (ks : List Kind) (r : Rule) :
    visitSlots lookup ks r =
      (Check.every (fun k => (r.slots k).check (lookup k)) ks).yielding
        (r.resolveSlots lookup ks) := by
  -- the rule changes on the way: its first slot has been bound when the others are looked at
  induction ks generalizing r with
  | nil => rfl
  | cons k ks ih =>
    have hrest := ih (r.withSlot k ((r.slots k).resolve (lookup k)))
    rw [check_slots_withSlot_resolve] at hrest
    have hwalk : visitSlots lookup (k :: ks) r = (do
        let ok ← (r.slots k).check (lookup k)
        let (restOk, r') ←
          visitSlots lookup ks (r.withSlot k ((r.slots k).resolve (lookup k)))
        return (ok && restOk, r')) := by
      rw [visitSlots, Slot.visit_eq]
      rfl
    rw [hwalk, hrest]
    rfl

/-- Which slots are bound after those of some kinds have been. -/
theorem slots_resolveSlots (ks : List Kind) (r : Rule) (k : Kind) :
    (r.resolveSlots lookup ks).slots k =
      if k ∈ ks then (r.slots k).resolve (lookup k) else r.slots k := by
  induction ks generalizing r with
  | nil => rfl
  | cons k' ks ih =>
    rw [resolveSlots, List.foldl_cons]
    refine (ih _).trans ?_
    by_cases h : k' = k
    · subst h
      simp
    · simp [slots_withSlot_of_ne _ _ h, Ne.symm h]

/-- Nothing but slots is touched. -/
theorem resolveSlots_eq (ks : List Kind) (r : Rule) :
    r.resolveSlots lookup ks = { r with slots := (r.resolveSlots lookup ks).slots } := by
  induction ks generalizing r with
  | nil => rfl
  | cons k ks ih => exact ih (r.withSlot k _)

/-- Looking at an enabled rule and binding its slots on the way. -/
theorem visit_eq {r : Rule} (hon : r.enabled = true) :
    r.visit lookup = (r.check lookup).yielding (r.resolve lookup) := by
  have hbound : r.resolveSlots lookup Kind.slotOrder = r.resolve lookup := by
    have hslots : (r.resolveSlots lookup Kind.slotOrder).slots =
        fun k => (r.slots k).resolve (lookup k) := by
      funext k
      rw [slots_resolveSlots, if_pos k.mem_slotOrder]
    rw [resolveSlots_eq, hslots, resolve, if_pos hon]
  have hcolumn : (r.resolve lookup).checkCountColumn = r.checkCountColumn := by
    rw [resolve, if_pos hon]
    rfl
  have hwalk : r.visit lookup = (do
      let slotsOk ← Check.every (fun k => (r.slots k).check (lookup k)) Kind.slotOrder
      let columnOk ← (r.resolve lookup).checkCountColumn
      return (slotsOk && columnOk, r.resolve lookup)) := by
    rw [visit, visitSlots_eq, hbound]
    rfl
  rw [hwalk, hcolumn]
  rfl

end Rule

namespace RuleSet

/-! ## §3 The walk through a rule set -/

/-- Looking at a rule of a rule set and binding its slots on the way. -/
theorem visitRule_eq (s : RuleSet) (r : Rule) :
    s.visitRule r = (s.checkRule r).yielding (r.resolve s.lookup) := by
  unfold visitRule checkRule
  cases hon : r.enabled with
  | true =>
    rw [if_pos rfl, if_pos rfl, Rule.visit_eq hon]
    rfl
  | false =>
    rw [Rule.resolve, hon]
    rfl

/-- Validation is the walk that binds every slot at its place. -/
theorem walk_eq_validate (s : RuleSet) : s.walk = s.validate := by
  unfold walk validate
  rw [Check.visitEvery_eq s.visitRule_eq]
  rfl

end RuleSet

/-! ## §4 What is bound -/

/-- The object that the declaration of a slot comes to, given the pool of its kind. -/
inductive Slot.Selects {k : Kind} (pool : Pool k) (s : Slot k) : k.Object → Prop where
  /-- The object of the slot itself, if it is enabled and there is no enabled reference. -/
  | inlined (o : k.Object) (hinlined : s.inlined = some o) (hon : k.isEnabled o = true)
      (halone : ∀ r, s.reference = some r → r.enabled = false) : Selects pool s o
  /-- The pooled object under the id of the reference, if the reference is enabled and has an id,
  and there is no enabled object in the slot itself. -/
  | reference (r : Reference) (o : k.Object) (hreference : s.reference = some r)
      (hon : r.enabled = true) (halone : ∀ o', s.inlined = some o' → k.isEnabled o' = false)
      (hnamed : Text.isBlankText r.id = false) (hmem : o ∈ pool.objects) (hid : k.idOf o = r.id) :
      Selects pool s o

namespace Slot

variable {k : Kind}

/-- The object in the slot itself does not count when it is missing or not enabled. -/
theorem usableInlined_eq_none_iff {s : Slot k} :
    s.usableInlined = none ↔ ∀ o, s.inlined = some o → k.isEnabled o = false := by
  simp [usableInlined, Option.filter_eq_none_iff]

/-- The reference does not count when it is missing or not enabled. -/
theorem usableReference_eq_none_iff {s : Slot k} :
    s.usableReference = none ↔ ∀ r, s.reference = some r → r.enabled = false := by
  simp [usableReference, Option.filter_eq_none_iff]

/-- The object in the slot itself is selected when it alone counts. -/
theorem selection_eq_inlined_iff {s : Slot k} {o : k.Object} :
    s.selection = .inlined o ↔ s.usableInlined = some o ∧ s.usableReference = none := by
  unfold selection
  split <;> simp_all

/-- The reference is selected when it alone counts. -/
theorem selection_eq_reference_iff {s : Slot k} {r : Reference} :
    s.selection = .reference r ↔ s.usableInlined = none ∧ s.usableReference = some r := by
  unfold selection
  split <;> simp_all

/-- Selection, said by the two sides of the declaration. -/
theorem target?_eq_some_iff_selects {pool : Pool k} {s : Slot k} {o : k.Object} :
    s.target? pool.find? = some o ↔ s.Selects pool o := by
  rw [target?_eq_some_iff]
  simp only [selection_eq_inlined_iff, selection_eq_reference_iff, usableInlined_eq_some_iff,
    usableReference_eq_some_iff, usableInlined_eq_none_iff, usableReference_eq_none_iff,
    pool.find?_eq_some_iff]
  constructor
  · rintro (⟨⟨hinlined, hon⟩, halone⟩ | ⟨r, ⟨halone, hreference, hon⟩, hnamed, hmem, hid⟩)
    · exact .inlined o hinlined hon halone
    · exact .reference r o hreference hon halone hnamed hmem hid
  · intro h
    cases h with
    | inlined o hinlined hon halone => exact Or.inl ⟨⟨hinlined, hon⟩, halone⟩
    | reference r o hreference hon halone hnamed hmem hid =>
      exact Or.inr ⟨r, ⟨halone, hreference, hon⟩, hnamed, hmem, hid⟩

end Slot

/-- In every state of every run, and whatever the recorder holds, validation is the walk that binds
each slot at its place. Whether it succeeds or not, a slot of an enabled rule is bound afterwards to
the object that its declaration selects, and to nothing if there is none; whether that object, other
slots, other rules, tags or defaults are in order does not matter. A rule that is not enabled stays
as it is. -/
theorem RuleSet.validate_binds_selected (tag : String) (cs : List Command) (recorder : Recorder) :
    (run tag cs).walk.run recorder = (run tag cs).validate.run recorder ∧
    List.Forall₂
      (fun r r' : Rule =>
        (r.enabled = true → ∀ k o,
          (r'.slots k).bound = some o ↔ (r.slots k).Selects ((run tag cs).pools k) o) ∧
        (r.enabled = false → r' = r))
      (run tag cs).rules ((run tag cs).validate.run recorder).1.2.rules := by
  refine ⟨by rw [walk_eq_validate], ?_⟩
  change List.Forall₂ _ (run tag cs).rules
    ((run tag cs).rules.map fun r => r.resolve (run tag cs).lookup)
  rw [List.forall₂_map_right_iff, List.forall₂_same]
  refine fun r hr => ⟨fun hon k o => ?_, fun hoff => ?_⟩
  · rw [(sound_run tag cs).bound_resolve hr hon k]
    exact Slot.target?_eq_some_iff_selects
  · rw [Rule.resolve, if_neg (by simp [hoff])]

end AggregateNaming
