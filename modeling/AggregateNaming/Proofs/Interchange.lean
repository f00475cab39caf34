import AggregateNaming.Proofs.Binding
import AggregateNaming.Proofs.Independence

/-!
# Interchangeable declarations

The object of a slot may be declared in the slot itself or in a pool. A pooled object is looked at
in its pool and not again where it is referred to; an object of the slot itself is looked at where
it stands. For a pooled object that is enabled, the two declarations come to the same all the same.

## Main definitions

- `Slot.Interchangeable` : two declarations of a slot come to the same object, and to the same
  verdict once the pooled objects are in order. `Rule.Interchangeable` is the same for rules, slot
  by slot.
- `Rule.SameAnswers` : two rules answer all requests alike.
- `RuleSet.redeclare` : a rule set with another declaration of one slot.

## Main statements

- `Slot.interchangeable_inlined` : a reference and the object under it are interchangeable.
- `RuleSet.valid_iff_of_interchangeable`, `Rule.Interchangeable.sameAnswers` : interchangeable
  declarations make no difference to validity, nor to answers.
- `RuleSet.inlined_in_place_of_reference` : so it does not matter which one a slot has.
-/

namespace AggregateNaming

/-! ## §1 Slots -/

/-- Two slots are bound alike, their declarations come to the same object, and once the pooled
objects are in order, both declarations are in order or neither is. -/
structure Slot.Interchangeable {k : Kind} (pool : Pool k) (s s' : Slot k) : Prop where
  bound : s.bound = s'.bound
  target : s.target? pool.find? = s'.target? pool.find?
  valid : (∀ o ∈ pool.objects, k.Valid o) → (s.Valid pool ↔ s'.Valid pool)

namespace Slot

variable {k : Kind} {pool : Pool k}

theorem Interchangeable.refl (s : Slot k) : s.Interchangeable pool s :=
  ⟨rfl, rfl, fun _ => Iff.rfl⟩

/-- Validation binds interchangeable slots alike. -/
theorem Interchangeable.bound_resolve {s s' : Slot k} (h : s.Interchangeable pool s') :
    (s.resolve pool.find?).bound = (s'.resolve pool.find?).bound := by
  simp only [resolve, h.bound, h.target]

/-- A reference to a pooled object that is enabled may be replaced by the object. The pool has
already given the verdict on it, which is given a second time then. -/
theorem interchangeable_inlined {s : Slot k} {r : Reference} {o : k.Object}
    (hfree : s.bound = none) (hinlined : s.inlined = none) (hreference : s.reference = some r)
    (hr : r.enabled = true) (hfind : pool.find? r.id = some o) (ho : k.isEnabled o = true) :
    s.Interchangeable pool { inlined := some o } := by
  obtain ⟨hmem, hid⟩ := (pool.find?_eq_some_iff r.id o).mp hfind
  have hnamed : Text.isBlankText r.id = false := pool.not_blank_of_find? hfind
  refine ⟨hfree, ?_, fun hpool => iff_of_true ?_ ?_⟩
  · have hreferred : s.Selects pool o :=
      .reference r o hreference hr (by simp [hinlined]) hnamed hmem hid
    have hown : Selects pool { inlined := some o } o := .inlined o rfl ho (by simp)
    rw [target?_eq_some_iff_selects.mpr hreferred, target?_eq_some_iff_selects.mpr hown]
  · -- a reference that can be followed is in order, whatever the object is like
    refine ⟨by simp [hinlined], fun _ => Or.inr ⟨r, hreference, hr⟩, by simp [hinlined], ?_⟩
    intro r' hr' _
    obtain rfl : r = r' := by simpa [hreference] using hr'
    exact ⟨hnamed, o, hmem, hid⟩
  · -- an object of the slot is in order when it is in its pool
    refine ⟨by simp, fun _ => Or.inl ⟨o, rfl, ho⟩, ?_, by simp⟩
    intro o' ho' _
    obtain rfl : o = o' := by simpa using ho'
    exact hpool o hmem

end Slot

/-! ## §2 Rules -/

/-- Two rules are alike, slots apart, and the slots are interchangeable. -/
structure Rule.Interchangeable (pools : (k : Kind) → Pool k) (r r' : Rule) : Prop where
  tag : r.tag = r'.tag
  enabled : r.enabled = r'.enabled
  isDefault : r.isDefault = r'.isDefault
  countColumn : r.countColumn = r'.countColumn
  slots : ∀ k, (r.slots k).Interchangeable (pools k) (r'.slots k)

/-- Two rules are asked for under the same circumstances, and answer all requests alike, with errors
too. -/
structure Rule.SameAnswers (r r' : Rule) : Prop where
  tag : r.tag = r'.tag
  enabled : r.enabled = r'.enabled
  isDefault : r.isDefault = r'.isDefault
  recognizer : ∀ q : Request, r.recognizer q = r'.recognizer q

namespace Rule

variable {pools : (k : Kind) → Pool k} {r r' : Rule}

theorem Interchangeable.refl (r : Rule) : r.Interchangeable pools r :=
  ⟨rfl, rfl, rfl, rfl, fun k => Slot.Interchangeable.refl (r.slots k)⟩

/-- A rule with an interchangeable slot in place of one of its own. -/
theorem interchangeable_withSlot {k : Kind} {s : Slot k}
    (h : (r.slots k).Interchangeable (pools k) s) : r.Interchangeable pools (r.withSlot k s) := by
  refine ⟨rfl, rfl, rfl, rfl, fun k' => ?_⟩
  by_cases hk : k = k'
  · subst hk
    rwa [slots_withSlot_self]
  · rw [slots_withSlot_of_ne _ _ hk]
    exact Slot.Interchangeable.refl _

/-- The answers of a rule depend on its tag, on its name for the column that counts facts and on
what its slots are bound to. -/
theorem recognizer_congr (htag : r.tag = r'.tag) (hcolumn : r.countColumn = r'.countColumn)
    (hbound : ∀ k, (r.slots k).bound = (r'.slots k).bound) (q : Request) :
    r.recognizer q = r'.recognizer q := by
  have hboundTo : ∀ k, r.boundTo k = r'.boundTo k := by
    intro k
    rw [boundTo, boundTo, hbound k, htag]
  cases q <;> simp only [recognizer, hboundTo, hcolumn, hbound]

/-- Once validated, interchangeable rules answer alike. -/
theorem Interchangeable.sameAnswers (h : r.Interchangeable pools r') :
    (r.resolve fun k => (pools k).find?).SameAnswers (r'.resolve fun k => (pools k).find?) := by
  refine ⟨by simp [h.tag], by simp [h.enabled], by simp [h.isDefault], fun q => ?_⟩
  refine recognizer_congr (by simp [h.tag]) ?_ (fun k => ?_) q
  · unfold resolve
    split <;> split <;> exact h.countColumn
  · rw [slots_resolve, slots_resolve, ← h.enabled]
    split
    · exact (h.slots k).bound_resolve
    · exact (h.slots k).bound

/-- Interchangeable rules are both in order or neither is, once the pooled objects are. -/
theorem Interchangeable.valid_iff (h : r.Interchangeable pools r')
    (hpools : ∀ k, ∀ o ∈ (pools k).objects, k.Valid o) : r.Valid pools ↔ r'.Valid pools := by
  constructor
  · intro hvalid
    exact ⟨fun k => ((h.slots k).valid (hpools k)).mp (hvalid.slots k),
      h.countColumn ▸ hvalid.countColumn⟩
  · intro hvalid
    exact ⟨fun k => ((h.slots k).valid (hpools k)).mpr (hvalid.slots k),
      h.countColumn.symm ▸ hvalid.countColumn⟩

end Rule

/-! ## §3 Rule sets -/

/-- A list in which one member has been replaced by a related one. -/
theorem forall₂_modify {α : Type} {R : α → α → Prop} {f : α → α} (hrefl : ∀ a, R a a)
    {l : List α} {i : Nat} (h : ∀ a, l[i]? = some a → R a (f a)) :
    List.Forall₂ R l (l.modify i f) := by
  induction l generalizing i with
  | nil => simp
  | cons a l ih =>
    cases i with
    | zero =>
      rw [List.modify_zero_cons]
      exact .cons (h a rfl) (List.forall₂_same.mpr fun b _ => hrefl b)
    | succ i =>
      rw [List.modify_succ_cons]
      exact .cons (hrefl a) (ih h)

namespace RuleSet

/-- What interchangeable rules share may be read off either list of them. -/
theorem map_eq_of_interchangeable {α : Type} {pools : (k : Kind) → Pool k} {f : Rule → α}
    (hf : ∀ r r', r.Interchangeable pools r' → f r = f r') {rs rs' : List Rule}
    (h : List.Forall₂ (Rule.Interchangeable pools) rs rs') : rs.map f = rs'.map f := by
  induction h with
  | nil => rfl
  | cons hhead _ ih => rw [List.map_cons, List.map_cons, hf _ _ hhead, ih]

/-- Every one of a list of interchangeable rules has its counterpart. -/
theorem forall_rules_iff {pools : (k : Kind) → Pool k} {P : Rule → Prop}
    (hP : ∀ r r', r.Interchangeable pools r' → (P r ↔ P r')) {rs rs' : List Rule}
    (h : List.Forall₂ (Rule.Interchangeable pools) rs rs') :
    (∀ r ∈ rs, P r) ↔ ∀ r ∈ rs', P r := by
  induction h with
  | nil => rfl
  | cons hhead _ ih => rw [List.forall_mem_cons, List.forall_mem_cons, hP _ _ hhead, ih]

/-- Rule sets with the same pools and interchangeable rules are both in order or neither is. -/
theorem valid_iff_of_interchangeable {s s' : RuleSet} (hpools : s.pools = s'.pools)
    (h : List.Forall₂ (Rule.Interchangeable s.pools) s.rules s'.rules) : s.Valid ↔ s'.Valid := by
  have htags : s.rules.map (·.tag) = s'.rules.map (·.tag) :=
    map_eq_of_interchangeable (fun _ _ hr => hr.tag) h
  have hdefaults : s.rules.map (fun r => r.enabled && r.isDefault) =
      s'.rules.map (fun r => r.enabled && r.isDefault) :=
    map_eq_of_interchangeable (fun _ _ hr => by rw [hr.enabled, hr.isDefault]) h
  have hone : s.rules.countP (fun r => r.enabled && r.isDefault) =
      s'.rules.countP (fun r => r.enabled && r.isDefault) := by
    have hcount := congrArg (List.countP id) hdefaults
    simpa only [List.countP_map, Function.id_comp] using hcount
  have htagged := forall_rules_iff (P := fun r => Text.isBlankText r.tag = false)
    (fun r r' hr => by rw [hr.tag]) h
  have hrules (hpooled : ∀ k, ∀ o ∈ (s.pools k).objects, k.Valid o) :=
    forall_rules_iff (P := fun r => r.enabled = true → r.Valid s.pools)
      (fun r r' hr => by rw [hr.enabled, hr.valid_iff hpooled]) h
  -- the rules may be compared because in either rule set the pooled objects are in order
  constructor
  · intro hvalid
    refine ⟨hpools ▸ hvalid.pooled, htagged.mp hvalid.tagged, htags ▸ hvalid.distinct,
      hone ▸ hvalid.oneDefault, ?_⟩
    rw [← hpools]
    exact (hrules hvalid.pooled).mp hvalid.rules
  · intro hvalid
    have hpooled : ∀ k, ∀ o ∈ (s.pools k).objects, k.Valid o := hpools ▸ hvalid.pooled
    refine ⟨hpooled, htagged.mpr hvalid.tagged, htags ▸ hvalid.distinct,
      hone ▸ hvalid.oneDefault, (hrules hpooled).mpr ?_⟩
    rw [hpools]
    exact hvalid.rules

/-- The rule set with another declaration of the slot of one kind of the rule in one place. -/
def redeclare (s : RuleSet) (i : Nat) (k : Kind) (slot : Slot k) : RuleSet :=
  { s with rules := s.rules.modify i (·.withSlot k slot) }

/-- The rules of a rule set and those after one slot has been declared anew. -/
theorem interchangeable_redeclare {s : RuleSet} {i : Nat} {k : Kind} {slot : Slot k}
    (h : ∀ r, s.rules[i]? = some r → (r.slots k).Interchangeable (s.pools k) slot) :
    List.Forall₂ (Rule.Interchangeable s.pools) s.rules (s.redeclare i k slot).rules :=
  forall₂_modify Rule.Interchangeable.refl fun r hr => Rule.interchangeable_withSlot (h r hr)

/-- Interchangeable declarations come to the same verdict and to the same answers. -/
theorem validate_of_interchangeable {s s' : RuleSet} (hpools : s.pools = s'.pools)
    (h : List.Forall₂ (Rule.Interchangeable s.pools) s.rules s'.rules)
    (recorder recorder' : Recorder) :
    (s.validate.run recorder).1.1 = (s'.validate.run recorder').1.1 ∧
    List.Forall₂ Rule.SameAnswers (s.validate.run recorder).1.2.rules
      (s'.validate.run recorder').1.2.rules := by
  constructor
  · have hverdicts : (s.check.run recorder).1 = true ↔ (s'.check.run recorder').1 = true := by
      rw [s.check_decides recorder, s'.check_decides recorder']
      exact valid_iff_of_interchangeable hpools h
    exact Bool.eq_iff_iff.mpr hverdicts
  · change List.Forall₂ _ (s.rules.map fun r => r.resolve fun k => (s.pools k).find?)
      (s'.rules.map fun r => r.resolve fun k => (s'.pools k).find?)
    rw [List.forall₂_map_left_iff, List.forall₂_map_right_iff, ← hpools]
    exact h.imp fun _ _ hr => hr.sameAnswers

/-- A slot that declares nothing but an enabled reference to a pooled object that is enabled may as
well declare that object itself. Let two reachable rule sets declare the same but for this: then
validation comes to the same verdict on both, and afterwards their rules answer all requests alike.
-/
theorem inlined_in_place_of_reference {s s' : RuleSet} (hs : s.Reachable) (hs' : s'.Reachable)
    {i : Nat} {r : Rule} {k : Kind} {ref : Reference} {o : k.Object} (hr : s.rules[i]? = some r)
    (hinlined : (r.slots k).inlined = none) (hreference : (r.slots k).reference = some ref)
    (href : ref.enabled = true) (hfind : s.lookup k ref.id = some o) (ho : k.isEnabled o = true)
    (hsame : s'.declared = s.declared.redeclare i k { inlined := some o })
    (recorder recorder' : Recorder) :
    (s.validate.run recorder).1.1 = (s'.validate.run recorder').1.1 ∧
    List.Forall₂ Rule.SameAnswers (s.validate.run recorder).1.2.rules
      (s'.validate.run recorder').1.2.rules := by
  have hslot : ∀ r', s.declared.rules[i]? = some r' →
      (r'.slots k).Interchangeable (s.declared.pools k) { inlined := some o } := by
    intro r' hr'
    obtain rfl : r.declared = r' := by simpa [declared, hr] using hr'
    exact Slot.interchangeable_inlined rfl hinlined hreference href hfind ho
  -- what has been bound so far does not matter, so that two declarations are compared
  rw [← validate_declared hs, ← validate_declared hs', hsame]
  have hpools : s.declared.pools = (s.declared.redeclare i k { inlined := some o }).pools := rfl
  exact validate_of_interchangeable hpools (interchangeable_redeclare hslot) recorder recorder'

/-- The rule of `sharingRule` with the object that it refers to in the slot itself. -/
def owningRule : Rule := sharingRule.withSlot .factCount { inlined := some { id := "fc" } }

/-- The objects of `crookedRun`, and the rule with an object of its own. -/
def owningRun : List Command := [
  .register .level { id := "lm" },
  .register .factCount { id := "fc" },
  .pushRule owningRule (by intro k; cases k <;> rfl)]

/-- A rule set in which a reference has been followed late, and one that does without it. -/
theorem inlined_in_place_of_reference_owningRun :
    (run "doc" crookedRun).lookup .factCount "fc" = some ({ id := "fc" } : FixedName) ∧
    (run "doc" owningRun).declared =
      (run "doc" crookedRun).declared.redeclare 0 .factCount { inlined := some { id := "fc" } } ∧
    ((run "doc" crookedRun).validate.run {}).1.1 = ((run "doc" owningRun).validate.run {}).1.1 ∧
    List.Forall₂ Rule.SameAnswers ((run "doc" crookedRun).validate.run {}).1.2.rules
      ((run "doc" owningRun).validate.run {}).1.2.rules := by
  have hpools : (run "doc" owningRun).pools = (run "doc" crookedRun).pools := by
    funext k
    cases k <;> rfl
  have hrules : (run "doc" owningRun).declared.rules =
      (run "doc" crookedRun).declared.rules.modify 0
        (·.withSlot .factCount { inlined := some { id := "fc" } }) := by
    rw [rules_declared_run, rules_declared_run]
    rfl
  have hsame : (run "doc" owningRun).declared =
      (run "doc" crookedRun).declared.redeclare 0 .factCount
        { inlined := some { id := "fc" } } := by
    rw [RuleSet.mk.injEq]
    exact ⟨rfl, hpools, hrules⟩
  have hfind : (run "doc" crookedRun).lookup .factCount "fc" =
      some ({ id := "fc" } : FixedName) := rfl
  exact ⟨hfind, hsame, inlined_in_place_of_reference ⟨_, _, rfl⟩ ⟨_, _, rfl⟩ rfl rfl rfl rfl hfind
    rfl hsame {} {}⟩

end RuleSet

end AggregateNaming
