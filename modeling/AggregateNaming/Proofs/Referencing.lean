import AggregateNaming.Proofs.Binding
import AggregateNaming.Proofs.Description
import AggregateNaming.Proofs.Strictness

/-!
# References as they are written

A scalar that gives a pooled object its id gives a reference the same id, if it stands for a text: then
it can be written for the reference as it is written for the id, alone or in the long form, and the slot
is bound to the object. An id is the text of its scalar whatever the scalar stands for, and a reference
is not: words for nothing and for truth values, and numbers, are the same in both places only in quotes.

## Main definitions

- `Markup.Scalar.IsText` : a scalar stands for its text.
- `Reference.WrittenAs` : the ways to write a reference with a scalar for its id.
- `Document.Makes` : the tree of a document is read, and makes a rule set.
- `Document.PoolsItem`, `Document.AddsReference` : where pooled objects and references are written.

## Main statements

- `Markup.Scalar.isText_of_marked`, `Markup.Scalar.isText_plain_iff` : which scalars stand for texts.
- `Reference.optional_writtenAs`, `Kind.entryId_of_written` : what references and ids are read from a
  scalar.
- `Fields.ofNode?_insert`, `Fields.ofNode?_replace` : what is read of a mapping that has been edited.
- `Document.Makes.addsReference` : what one more reference does to a document.
- `Document.reference_written_as_id` : all of it together, up to the slot that is bound.
-/

namespace AggregateNaming

open Markup (Node Scalar)

/-! ## §1 Scalars that stand for texts -/

namespace Markup.Scalar

/-- A scalar stands for its text, where no type is asked for. -/
def IsText (v : Scalar) : Prop := v.value? = some (.text v.text)

instance (v : Scalar) : Decidable v.IsText := inferInstanceAs (Decidable (_ = _))

/-- A scalar with marks and without a tag stands for its text. -/
theorem isText_of_marked {v : Scalar} (htag : v.tag = none) (hstyle : v.style ≠ .plain) : v.IsText := by
  simp [IsText, value?, htag, hstyle, isLocalTag]

/-- Whole numbers are no texts. -/
theorem wholeValue?_ne_text {cs : List Char} {text : String} :
    wholeValue? cs ≠ some (some (.text text)) := by
  unfold wholeValue?
  split
  · split_ifs <;> nofun
  · split_ifs <;> nofun
  · nofun

/-- A scalar without marks and without a tag stands for its text, unless it stands for nothing, for a
truth value or for a number. -/
theorem isText_plain_iff {text : String} :
    IsText { text } ↔ text ≠ "" ∧ isNullWord text = false ∧ boolWord? text = none ∧
      wholeValue? text.toList = none ∧ (!isPadded text.toList && isFloat text.toList) = false := by
  have hvalue : value? { text } = plainValue? text := rfl
  rw [IsText, hvalue, plainValue?]
  -- the readings are tried in this order, and that of a text comes last
  by_cases hnull : (text.isEmpty || isNullWord text) = true
  · rw [if_pos hnull]
    refine iff_of_false nofun ?_
    rintro ⟨hempty, hword, -⟩
    simp [hempty, hword] at hnull
  rw [if_neg hnull]
  have hnot : text ≠ "" ∧ isNullWord text = false := by simpa using hnull
  rw [← and_assoc, and_iff_right hnot]
  cases hbool : boolWord? text with
  | some b => exact iff_of_false nofun fun h => nomatch h.1
  | none =>
    cases hwhole : wholeValue? text.toList with
    | some v =>
      refine iff_of_false (fun h => ?_) fun h => nomatch h.2.1
      obtain rfl : v = some (.text text) := h
      exact wholeValue?_ne_text hwhole
    | none =>
      cases !isPadded text.toList && isFloat text.toList with
      | true => exact iff_of_false nofun fun h => nomatch h.2.2
      | false => exact iff_of_true rfl ⟨rfl, rfl, rfl⟩

-- Marks make a text of a number.
example : ¬ IsText { text := "5" } ∧ IsText { style := .singleQuoted, text := "5" } := by decide

/-- A scalar that stands for a text is not absent. -/
theorem IsText.isAbsent? {v : Scalar} (h : v.IsText) : Fields.isAbsent? (.scalar v) = some false := by
  obtain ⟨tag, style, text⟩ := v
  by_cases hstyle : style = .plain
  · subst hstyle
    cases tag with
    | none =>
      obtain ⟨hempty, hnull, -⟩ := isText_plain_iff.mp h
      simp [Fields.isAbsent?, hempty, hnull]
    | some tag =>
      by_cases htag : tag = coreTag ++ "null"
      · -- with the tag for nothing, a scalar stands for nothing or is none
        subst htag
        have hvalue : value? ⟨some (coreTag ++ "null"), .plain, text⟩ =
            if isNullWord text then some .null else none := by
          dsimp only [value?]
          rw [if_neg (by decide +kernel), if_neg (by decide +kernel), if_neg (by decide +kernel),
            if_neg (by decide +kernel), if_pos (by decide +kernel)]
        rw [IsText, hvalue] at h
        split at h <;> cases h
      · simp [Fields.isAbsent?, htag]
  · simp [Fields.isAbsent?, hstyle]

end Markup.Scalar

/-! ## §2 Writing references and ids -/

/-- A node that stands for a value has one. -/
theorem Fields.hasValue_of_value? {n : Node} {x : Markup.Value} (h : Fields.value? n = some x) :
    n.hasValue = true := by
  cases n with
  | scalar s => exact Option.isSome_of_eq_some h
  | sequence tag items => cases h
  | mapping tag entries => cases h

/-- So does a key that names a field of a reference. -/
theorem ReferenceField.hasValue_of_ofNode? {key : Node} {field : ReferenceField}
    (h : ReferenceField.ofNode? key = some field) : key.hasValue = true := by
  cases hvalue : Fields.value? key with
  | some x => exact Fields.hasValue_of_value? hvalue
  | none =>
    rw [ofNode?, hvalue] at h
    cases h

namespace Reference

/-- The ways to write a reference with a scalar for its id: the scalar alone, and the long form, in which
the reference may also be said to be enabled. -/
inductive WrittenAs (v : Scalar) : Node → Prop
  | alone : WrittenAs v (.scalar v)
  | target {tag : Option String} {key : Node} (htag : Markup.isLocalTag tag = false)
      (hkey : ReferenceField.ofNode? key = some .target) :
      WrittenAs v (.mapping tag [(key, .scalar v)])
  | targetEnabled {tag : Option String} {key key' on : Node} (htag : Markup.isLocalTag tag = false)
      (hkey : ReferenceField.ofNode? key = some .target)
      (hkey' : ReferenceField.ofNode? key' = some .enabled)
      (hon : Fields.value? on = some (.bool true)) :
      WrittenAs v (.mapping tag [(key, .scalar v), (key', on)])
  | enabledTarget {tag : Option String} {key key' on : Node} (htag : Markup.isLocalTag tag = false)
      (hkey : ReferenceField.ofNode? key = some .target)
      (hkey' : ReferenceField.ofNode? key' = some .enabled)
      (hon : Fields.value? on = some (.bool true)) :
      WrittenAs v (.mapping tag [(key', on), (key, .scalar v)])

variable {v : Scalar} {n : Node}

/-- A reference has the text of the scalar that is written for its id, and is enabled. -/
theorem ofNode?_writtenAs (hv : v.IsText) (h : WrittenAs v n) :
    Reference.ofNode? n = some { id := v.text } := by
  have hvalue : v.value? = some (.text v.text) := hv
  have hread : Fields.value? (.scalar v) = some (.text v.text) := hv
  have hhas : (Node.scalar v).hasValue = true := Fields.hasValue_of_value? hread
  -- in the long form all keys and values must have values, before any of them is taken for a field
  cases h with
  | alone => simp [ofNode?, hvalue, textValue?]
  | target htag hkey =>
    simp [ofNode?, Node.hasValue, Markup.entriesHaveValue, hvalue, htag, hkey, hread, fieldValues,
      textValue?, ReferenceField.hasValue_of_ofNode? hkey]
  | targetEnabled htag hkey hkey' hon =>
    simp [ofNode?, Node.hasValue, Markup.entriesHaveValue, hvalue, htag, hkey, hkey', hon, hread,
      fieldValues, textValue?, boolValue?, ReferenceField.hasValue_of_ofNode? hkey,
      ReferenceField.hasValue_of_ofNode? hkey', Fields.hasValue_of_value? hon]
  | enabledTarget htag hkey hkey' hon =>
    simp [ofNode?, Node.hasValue, Markup.entriesHaveValue, hvalue, htag, hkey, hkey', hon, hread,
      fieldValues, textValue?, boolValue?, ReferenceField.hasValue_of_ofNode? hkey,
      ReferenceField.hasValue_of_ofNode? hkey', Fields.hasValue_of_value? hon]

/-- Nothing but an absent reference is not there. -/
theorem optional_writtenAs (hv : v.IsText) (h : WrittenAs v n) :
    Fields.optional Reference.ofNode? n = some (some { id := v.text }) := by
  have habsent : Fields.isAbsent? n = some false := by
    cases h with
    | alone => exact hv.isAbsent?
    | target => rfl
    | targetEnabled => rfl
    | enabledTarget => rfl
  simp [Fields.optional, habsent, ofNode?_writtenAs hv h]

end Reference

/-- The id of an object is the text of the scalar that is written for it. -/
theorem Fields.id_of_entry {known : List String} {tag : Option String} {entries : List (Node × Node)}
    {f : Fields} (h : Fields.ofNode? known (.mapping tag entries) = some f) {key : Node} {v : Scalar}
    (hentry : (key, .scalar v) ∈ entries) (hkey : Fields.text? key = some "id") :
    f.id = some v.text := by
  obtain ⟨name, -, hname, hlookup⟩ := field_of_ofNode? h hentry
  rw [hkey] at hname
  cases hname
  rw [id, get, hlookup]
  rfl

/-- What is said of an object has the id that is read from its fields. -/
theorem Kind.exists_fields_of_entry {k : Kind} {n : Node} {e : k.Entry}
    (h : k.entryOfNode? n = some e) :
    ∃ known f, Fields.ofNode? known n = some f ∧ f.id = some (k.entryId e) := by
  have hfixed : ∀ e, FixedNameEntry.ofNode? n = some e →
      ∃ known f, Fields.ofNode? known n = some f ∧ f.id = some e.id := by
    intro e h
    simp only [FixedNameEntry.ofNode?, Option.bind_eq_bind, Option.bind_eq_some_iff] at h
    obtain ⟨f, hf, id, hid, _, -, _, -, _, -, h⟩ := h
    cases h
    exact ⟨_, f, hf, hid⟩
  have hderived : ∀ e, DerivedNameEntry.ofNode? n = some e →
      ∃ known f, Fields.ofNode? known n = some f ∧ f.id = some e.id := by
    intro e h
    simp only [DerivedNameEntry.ofNode?, Option.bind_eq_bind, Option.bind_eq_some_iff] at h
    obtain ⟨f, hf, id, hid, _, -, _, -, _, -, _, -, _, -, h⟩ := h
    cases h
    exact ⟨_, f, hf, hid⟩
  have hmap : ∀ e, TemplateMapEntry.ofNode? n = some e →
      ∃ known f, Fields.ofNode? known n = some f ∧ f.id = some e.id := by
    intro e h
    simp only [TemplateMapEntry.ofNode?, Option.bind_eq_bind, Option.bind_eq_some_iff] at h
    obtain ⟨f, hf, id, hid, _, -, _, -, _, -, h⟩ := h
    cases h
    exact ⟨_, f, hf, hid⟩
  cases k with
  | factCount => exact hfixed e h
  | foreignKey => exact hderived e h
  | table => exact hderived e h
  | level => exact hmap e h
  | measure => exact hmap e h
  | ignore => exact hmap e h

/-- What is said of an object has the text of the scalar for its id, whatever that stands for. -/
theorem Kind.entryId_of_written {k : Kind} {tag : Option String} {entries : List (Node × Node)}
    {e : k.Entry} (h : k.entryOfNode? (.mapping tag entries) = some e) {key : Node} {v : Scalar}
    (hentry : (key, .scalar v) ∈ entries) (hkey : Fields.text? key = some "id") :
    k.entryId e = v.text := by
  obtain ⟨known, f, hf, hid⟩ := Kind.exists_fields_of_entry h
  rw [Fields.id_of_entry hf hentry hkey] at hid
  exact (Option.some.inj hid).symm

/-! ## §3 One more field, and another value of one -/

namespace Fields

variable {known : List String} {tag : Option String} {before after : List (Node × Node)}
  {key v : Node} {name : String} {f : Fields}

/-- The names of what is read are those of the entries. -/
theorem map_name_of_mapM {entries : List (Node × Node)}
    (h : (entries.mapM fun e => (text? e.1).map (·, e.2)) = some f) :
    f.map (some ·.1) = entries.map (text? ·.1) := by
  rw [mapM_eq_some_iff] at h
  induction h with
  | nil => rfl
  | cons hfield _ ih =>
    obtain ⟨name, hname, rfl⟩ := Option.map_eq_some_iff.mp hfield
    rw [List.map_cons, List.map_cons, ih, hname]

/-- What is found under other names does not depend on a field. -/
theorem lookup_middle_of_ne {earlier later : Fields} {name name' : String} (h : name' ≠ name)
    (v : Node) : (earlier ++ (name, v) :: later).lookup name' = (earlier ++ later).lookup name' := by
  rw [List.lookup_append, List.lookup_append, List.lookup_cons, beq_false_of_ne h]

/-- A mapping is read with one more field, if the field is known and was not there. -/
theorem ofNode?_insert (h : Fields.ofNode? known (.mapping tag (before ++ after)) = some f)
    (hkey : text? key = some name) (hknown : name ∈ known)
    (hfree : ∀ e ∈ before ++ after, text? e.1 ≠ some name) (v : Node) :
    ∃ f', Fields.ofNode? known (.mapping tag (before ++ (key, v) :: after)) = some f' ∧
      f'.lookup name = some v ∧ ∀ name', name' ≠ name → f'.lookup name' = f.lookup name' := by
  obtain ⟨hentries, hall, hdistinct⟩ := ofNode?_mapping_eq_some_iff.mp h
  -- keys are compared by their texts, so this is about the names that are read
  have hnew : name ∉ f.map (·.1) := by
    intro hmem
    obtain ⟨field, hfield, rfl⟩ := List.mem_map.mp hmem
    have hname : some field.1 ∈ (before ++ after).map (text? ·.1) := by
      rw [← map_name_of_mapM hentries]
      exact List.mem_map_of_mem hfield
    obtain ⟨e, he, hsame⟩ := List.mem_map.mp hname
    exact hfree e he hsame
  rw [List.mapM_append] at hentries
  obtain ⟨earlier, hearlier, hentries⟩ := Option.bind_eq_some_iff.mp hentries
  obtain ⟨later, hlater, hf⟩ := Option.bind_eq_some_iff.mp hentries
  obtain rfl : earlier ++ later = f := Option.some.inj hf
  have hdistinct' : ((earlier ++ (name, v) :: later).map (·.1)).Nodup := by
    rw [List.map_append, List.map_cons, List.nodup_middle, ← List.map_append, List.nodup_cons]
    exact ⟨hnew, hdistinct⟩
  refine ⟨earlier ++ (name, v) :: later, ofNode?_mapping_eq_some_iff.mpr ⟨?_, ?_, hdistinct'⟩,
    lookup_of_mem hdistinct' (by simp), fun name' hne => lookup_middle_of_ne hne v⟩
  · rw [List.mapM_append, List.mapM_cons, hearlier, hlater, hkey]
    rfl
  · intro name' hname'
    rw [List.map_append, List.map_cons, List.mem_append, List.mem_cons, or_left_comm,
      ← List.mem_append, ← List.map_append] at hname'
    rcases hname' with rfl | hname'
    · exact hknown
    · exact hall name' hname'

/-- A mapping is read with another value of a field. -/
theorem ofNode?_replace (h : Fields.ofNode? known (.mapping tag (before ++ (key, v) :: after)) = some f)
    (hkey : text? key = some name) (v' : Node) :
    ∃ f', Fields.ofNode? known (.mapping tag (before ++ (key, v') :: after)) = some f' ∧
      f'.lookup name = some v' ∧ ∀ name', name' ≠ name → f'.lookup name' = f.lookup name' := by
  obtain ⟨hentries, hall, hdistinct⟩ := ofNode?_mapping_eq_some_iff.mp h
  rw [List.mapM_append, List.mapM_cons, hkey] at hentries
  obtain ⟨earlier, hearlier, hentries⟩ := Option.bind_eq_some_iff.mp hentries
  obtain ⟨middle, hmiddle, hf⟩ := Option.bind_eq_some_iff.mp hentries
  obtain ⟨later, hlater, rfl⟩ : ∃ later,
      (after.mapM fun e => (text? e.1).map (·, e.2)) = some later ∧ (name, v) :: later = middle := by
    simpa [Option.bind_eq_some_iff] using hmiddle
  obtain rfl : earlier ++ (name, v) :: later = f := Option.some.inj hf
  -- the names are the same
  have hnames : (earlier ++ (name, v') :: later).map (·.1) =
      (earlier ++ (name, v) :: later).map (·.1) := by
    simp only [List.map_append, List.map_cons]
  rw [← hnames] at hall hdistinct
  refine ⟨earlier ++ (name, v') :: later, ofNode?_mapping_eq_some_iff.mpr ⟨?_, hall, hdistinct⟩,
    lookup_of_mem hdistinct (by simp), fun name' hne => ?_⟩
  · rw [List.mapM_append, List.mapM_cons, hearlier, hlater, hkey]
    rfl
  · rw [lookup_middle_of_ne hne, lookup_middle_of_ne hne]

/-- What is read of a field is what is under its name. -/
theorem get_congr {f f' : Fields} {name : String} (h : f'.lookup name = f.lookup name)
    {read : Node → Option α} {absent : Option α} : f'.get name read absent = f.get name read absent := by
  rw [get, get, h]

end Fields

/-! ## §4 Documents with one more reference -/

/-- What is said of a rule, with what is said of the reference in a slot. -/
def RuleEntry.withReference (k : Kind) (x : Option Reference) (e : RuleEntry) : RuleEntry :=
  { e with slots := Function.update e.slots k { e.slots k with reference := x } }

/-- What a document says, with what is said of the reference in a slot of the rule in a place. -/
def Document.withReference (i : Nat) (k : Kind) (x : Option Reference) (d : Document) : Document :=
  { d with rules := d.rules.modify i (·.withReference k x) }

/-- A rule with a reference in a slot. -/
def Rule.withReference (k : Kind) (x : Option Reference) (r : Rule) : Rule :=
  r.withSlot k { r.slots k with reference := x }

/-- A rule set with a reference in a slot of the rule in a place. -/
def RuleSet.withReference (i : Nat) (k : Kind) (x : Option Reference) (s : RuleSet) : RuleSet :=
  { s with rules := s.rules.modify i (·.withReference k x) }

@[simp] theorem RuleEntry.slots_withReference_self (e : RuleEntry) (k : Kind) (x : Option Reference) :
    (e.withReference k x).slots k = { e.slots k with reference := x } :=
  Function.update_self k _ _

theorem RuleEntry.slots_withReference_of_ne (e : RuleEntry) {k k' : Kind} (x : Option Reference)
    (h : k' ≠ k) : (e.withReference k x).slots k' = e.slots k' :=
  Function.update_of_ne h _ _

@[simp] theorem Rule.slots_withReference_self (r : Rule) (k : Kind) (x : Option Reference) :
    (r.withReference k x).slots k = { r.slots k with reference := x } :=
  r.slots_withSlot_self k _

theorem Rule.slots_withReference_of_ne (r : Rule) {k k' : Kind} (x : Option Reference) (h : k' ≠ k) :
    (r.withReference k x).slots k' = r.slots k' :=
  r.slots_withSlot_of_ne _ h.symm

/-- No two slots have their references under one name. -/
theorem Kind.referenceField_ne {k k' : Kind} (h : k' ≠ k) : k'.referenceField ≠ k.referenceField := by
  revert h
  cases k <;> cases k' <;> decide

/-- No slot has its object under the name for the reference of one. -/
theorem Kind.slotField_ne_referenceField (k k' : Kind) : k'.slotField ≠ k.referenceField := by
  cases k <;> cases k' <;> decide

/-- A slot is read from a field more as a slot with a reference, if it is the slot of that field. -/
theorem SlotEntry.ofFields?_update {k : Kind} {f f' : Fields} {slots : (k : Kind) → SlotEntry k}
    (h : ∀ k', SlotEntry.ofFields? k' f = some (slots k')) {n : Node} {x : Option Reference}
    (hhere : f'.lookup k.referenceField = some n)
    (hothers : ∀ name, name ≠ k.referenceField → f'.lookup name = f.lookup name)
    (hx : Fields.optional Reference.ofNode? n = some x) (k' : Kind) :
    SlotEntry.ofFields? k' f' =
      some (Function.update slots k { slots k with reference := x } k') := by
  have hslot := h k'
  -- the object in a slot is never under the name of a reference
  have hinlined : f'.get k'.slotField (Fields.optional k'.entryOfNode?) (some none) =
      f.get k'.slotField (Fields.optional k'.entryOfNode?) (some none) :=
    Fields.get_congr (hothers _ (Kind.slotField_ne_referenceField k k'))
  unfold ofFields? at hslot ⊢
  rw [hinlined]
  by_cases hk : k' = k
  · subst hk
    have hreference : f'.get k'.referenceField (Fields.optional Reference.ofNode?) (some none) =
        some x := by
      rw [Fields.get, hhere]
      exact hx
    simp only [Option.bind_eq_bind, Option.bind_eq_some_iff] at hslot
    obtain ⟨inlined, hread, reference, -, hslot⟩ := hslot
    rw [hread, hreference, Function.update_self, ← Option.some.inj hslot]
    rfl
  · rw [Fields.get_congr (hothers _ (Kind.referenceField_ne hk)), hslot, Function.update_of_ne hk]

/-- A rule is read with one more field, as a rule with a reference. -/
theorem RuleEntry.ofNode?_withReference {k : Kind} {tag : Option String}
    {before after : List (Node × Node)} {key n : Node} {e : RuleEntry} {x : Option Reference}
    (h : RuleEntry.ofNode? (.mapping tag (before ++ after)) = some e)
    (hkey : Fields.text? key = some k.referenceField)
    (hfree : ∀ e ∈ before ++ after, Fields.text? e.1 ≠ some k.referenceField)
    (hx : Fields.optional Reference.ofNode? n = some x) :
    RuleEntry.ofNode? (.mapping tag (before ++ (key, n) :: after)) = some (e.withReference k x) := by
  simp only [RuleEntry.ofNode?, Option.bind_eq_bind, Option.bind_eq_some_iff] at h
  obtain ⟨f, hf, tag', htag', isDefault, hisDefault, enabled, henabled, column, hcolumn, slots, hslots,
    he⟩ := h
  -- every field but that of the reference is read as before
  have hknown : k.referenceField ∈ RuleEntry.known := by cases k <;> decide
  obtain ⟨f', hf', hhere, hothers⟩ := Fields.ofNode?_insert hf hkey hknown hfree n
  have hother : ∀ {α : Type} {read : Node → Option α} {absent : Option α} (name : String),
      name ≠ k.referenceField → f'.get name read absent = f.get name read absent :=
    fun name hname => Fields.get_congr (hothers name hname)
  have hslots' := Kind.forEach?_eq_some_iff.mpr
    (SlotEntry.ofFields?_update (Kind.forEach?_eq_some_iff.mp hslots) hhere hothers hx)
  rw [Fields.enabled] at henabled
  rw [Fields.optionalText] at hcolumn
  rw [RuleEntry.ofNode?, hf', ← Option.some.inj he]
  simp only [Option.bind_eq_bind, Option.bind_some, Fields.enabled, Fields.optionalText, hslots',
    hother "tag" (by cases k <;> decide), hother "default" (by cases k <;> decide),
    hother "enabled" (by cases k <;> decide), hother "count_column" (by cases k <;> decide), htag',
    hisDefault, henabled, hcolumn]
  rfl

/-- What is described of a rule with a reference. -/
theorem RuleEntry.Describes.withReference {e : RuleEntry} {r : Rule} (h : e.Describes r) (k : Kind)
    (x : Option Reference) : (e.withReference k x).Describes (r.withReference k x) where
  tag := h.tag
  isDefault := h.isDefault
  enabled := h.enabled
  countColumn := h.countColumn
  slots k' := by
    by_cases hk : k' = k
    · subst hk
      rw [RuleEntry.slots_withReference_self, Rule.slots_withReference_self]
      exact ⟨(h.slots k').inlined, rfl, (h.slots k').unbound⟩
    · rw [RuleEntry.slots_withReference_of_ne _ _ hk, Rule.slots_withReference_of_ne _ _ hk]
      exact h.slots k'

namespace Document

/-- A document has the field for the reference in a slot in the rule in a place, where it was not there
before. -/
inductive AddsReference (k : Kind) (n : Node) : Nat → Node → Node → Prop
  | mk {tag tag' tag'' : Option String} {before after fields fields' : List (Node × Node)}
      {earlier later : List Node} {rules key : Node} (hrules : Fields.text? rules = some "rules")
      (hkey : Fields.text? key = some k.referenceField)
      (hfree : ∀ e ∈ fields ++ fields', Fields.text? e.1 ≠ some k.referenceField) :
      AddsReference k n earlier.length
        (.mapping tag (before ++ (rules, .sequence tag'
          (earlier ++ .mapping tag'' (fields ++ fields') :: later)) :: after))
        (.mapping tag (before ++ (rules, .sequence tag'
          (earlier ++ .mapping tag'' (fields ++ (key, n) :: fields') :: later)) :: after))

variable {k : Kind} {n root root' : Node} {i : Nat} {d : Document} {s : RuleSet} {x : Option Reference}

/-- The rules of a document are read one by one. -/
theorem mapM_rules_of_ofNode? {tag tag' : Option String} {entries : List (Node × Node)}
    {items : List Node} {key : Node} (h : Document.ofNode? (.mapping tag entries) = some d)
    (hentry : (key, .sequence tag' items) ∈ entries) (hkey : Fields.text? key = some "rules") :
    items.mapM RuleEntry.ofNode? = some d.rules := by
  simp only [Document.ofNode?, Option.bind_eq_bind, Option.bind_eq_some_iff] at h
  obtain ⟨f, hf, _, -, _, -, rules, hrules, hd⟩ := h
  obtain ⟨name, -, hname, hlookup⟩ := Fields.field_of_ofNode? hf hentry
  obtain rfl : name = "rules" := Option.some.inj (hname.symm.trans hkey)
  rw [Fields.get, hlookup] at hrules
  cases hd
  exact hrules

/-- So are the pooled objects of a kind. -/
theorem mapM_pool_of_ofNode? {tag tag' : Option String} {entries : List (Node × Node)}
    {items : List Node} {key : Node} (h : Document.ofNode? (.mapping tag entries) = some d)
    (hentry : (key, .sequence tag' items) ∈ entries) (hkey : Fields.text? key = some k.poolField) :
    items.mapM k.entryOfNode? = some (d.pools k) := by
  simp only [Document.ofNode?, Option.bind_eq_bind, Option.bind_eq_some_iff] at h
  obtain ⟨f, hf, _, -, pools, hpools, _, -, hd⟩ := h
  have hpool := Kind.forEach?_eq_some_iff.mp hpools k
  obtain ⟨name, -, hname, hlookup⟩ := Fields.field_of_ofNode? hf hentry
  obtain rfl : name = k.poolField := Option.some.inj (hname.symm.trans hkey)
  rw [Fields.get, hlookup] at hpool
  cases hd
  exact hpool

/-- A document is read with one more reference. -/
theorem ofNode?_addsReference (h : Document.ofNode? root = some d)
    (hroot : AddsReference k n i root root') (hx : Fields.optional Reference.ofNode? n = some x) :
    Document.ofNode? root' = some (d.withReference i k x) := by
  obtain @⟨_, tag', tag'', _, _, fields, fields', earlier, later, _, key, hname, hkey, hfree⟩ := hroot
  have hrules := mapM_rules_of_ofNode? h (List.mem_append_right _ List.mem_cons_self) hname
  simp only [Document.ofNode?, Option.bind_eq_bind, Option.bind_eq_some_iff] at h
  obtain ⟨f, hf, tag, htag, pools, hpools, rules, -, hd⟩ := h
  cases hd
  obtain ⟨f', hf', hhere, hothers⟩ := Fields.ofNode?_replace hf hname
    (.sequence tag' (earlier ++ .mapping tag'' (fields ++ (key, n) :: fields') :: later))
  have hother : ∀ {α : Type} {read : Node → Option α} {absent : Option α} (name : String),
      name ≠ "rules" → f'.get name read absent = f.get name read absent :=
    fun name hne => Fields.get_congr (hothers name hne)
  have hpool : ∀ k : Kind, f'.get k.poolField (Fields.items k.entryOfNode?) (some []) =
      f.get k.poolField (Fields.items k.entryOfNode?) (some []) :=
    fun k => hother k.poolField (by cases k <;> decide)
  -- the rule is read with the reference, and the others as they were
  have hrules' : f'.get "rules" (Fields.items RuleEntry.ofNode?) (some []) =
      some (rules.modify earlier.length (·.withReference k x)) := by
    rw [Fields.get, hhere]
    exact mapM_replace_eq_some hrules
      fun e he => RuleEntry.ofNode?_withReference he hkey hfree hx
  rw [Fields.optionalText] at htag
  rw [Document.ofNode?, hf']
  simp only [Option.bind_eq_bind, Option.bind_some, Fields.optionalText, hother "tag" (by decide),
    hpool, htag, hpools, hrules']
  rfl

/-- What is described with one more reference. -/
theorem Describes.withReference (h : d.Describes s) (i : Nat) (k : Kind) (x : Option Reference) :
    (d.withReference i k x).Describes (s.withReference i k x) where
  tag := h.tag
  pools := h.pools
  rules := forall₂_modify_both h.rules (fun _ _ hr => hr.withReference k x) i

/-- The tree of a document is read, and makes a rule set. -/
def Makes (root : Node) (s : RuleSet) : Prop := ∃ d, Document.ofNode? root = some d ∧ d.compile = .ok s

/-- So does the text of the document. -/
theorem Makes.ofText (h : Makes root s) {path : Option String} {text : String}
    (htext : Markup.readText? text.toList = some (some root)) : RuleSet.ofText path text = .ok s := by
  obtain ⟨d, hd, hs⟩ := h
  have hcompile : RuleSet.ofText path text = d.compile.mapError .document := by
    rw [RuleSet.ofText, Document.ofText?_eq htext, hd]
  rw [hcompile, hs]
  rfl

/-- A document with one more reference makes the rule set with the reference. -/
theorem Makes.addsReference (h : Makes root s) (hroot : AddsReference k n i root root')
    (hx : Fields.optional Reference.ofNode? n = some x) : Makes root' (s.withReference i k x) := by
  obtain ⟨d, hd, hs⟩ := h
  exact ⟨_, ofNode?_addsReference hd hroot hx,
    compile_eq_ok_iff.mpr ((compile_eq_ok_iff.mp hs).withReference i k x)⟩

/-- No slot is bound in a rule set that a document makes. -/
theorem Makes.unbound (h : Makes root s) {r : Rule} (hr : r ∈ s.rules) (k : Kind) :
    (r.slots k).bound = none := by
  obtain ⟨d, -, hs⟩ := h
  obtain ⟨e, -, hdescribes⟩ := exists_of_forall₂ (compile_eq_ok_iff.mp hs).rules.flip hr
  exact (hdescribes.slots k).unbound

/-- The rule in the place is there. -/
theorem AddsReference.exists_rule (hroot : AddsReference k n i root root') (h : Makes root s) :
    ∃ r, s.rules[i]? = some r := by
  obtain ⟨d, hd, hs⟩ := h
  obtain ⟨hname, -, -⟩ := hroot
  -- there are as many rules as items, and the place is that of an item
  have hread := mapM_rules_of_ofNode? hd (List.mem_append_right _ List.mem_cons_self) hname
  have hlength := (mapM_eq_some_iff.mp hread).length_eq.trans (compile_eq_ok_iff.mp hs).rules.length_eq
  exact ⟨_, List.getElem?_eq_getElem (by rw [← hlength]; simp)⟩

/-- An item stands among the pooled objects of a kind. -/
inductive PoolsItem (k : Kind) (item : Node) : Node → Prop
  | mk {tag tag' : Option String} {entries : List (Node × Node)} {items : List Node} {key : Node}
      (hentry : (key, .sequence tag' items) ∈ entries) (hkey : Fields.text? key = some k.poolField)
      (hitem : item ∈ items) : PoolsItem k item (.mapping tag entries)

/-- An object that stands among the pooled ones is there under the id that is said of it. -/
theorem Makes.exists_pooled (h : Makes root s) {item : Node} (hitem : PoolsItem k item root) :
    ∃ e o, k.entryOfNode? item = some e ∧ k.Describes e o ∧ s.lookup k (k.entryId e) = some o := by
  obtain ⟨d, hd, hs⟩ := h
  obtain ⟨hentry, hkey, hitem⟩ := hitem
  obtain ⟨e, he, hread⟩ := exists_of_mapM_eq_some (mapM_pool_of_ofNode? hd hentry hkey) hitem
  obtain ⟨objects, hobjects, hperm⟩ := (compile_eq_ok_iff.mp hs).pools k
  obtain ⟨o, ho, hdescribes⟩ := exists_of_forall₂ hobjects he
  exact ⟨e, o, hread, hdescribes, ((s.pools k).find?_eq_some_iff _ o).mpr
    ⟨hperm.mem_iff.mpr ho, hdescribes.idOf_eq⟩⟩

end Document

/-! ## §5 Binding -/

/-- The slot of a reference to a pooled object is bound to the object, if it is free and no object that
is enabled is declared in the slot itself. -/
theorem Rule.bound_resolve_withReference {lookup : (k : Kind) → String → Option k.Object} {r : Rule}
    {k : Kind} {id : String} {o : k.Object} (hon : r.enabled = true)
    (hfree : (r.slots k).bound = none) (hinlined : (r.slots k).usableInlined = none)
    (hnamed : Text.isBlankText id = false) (hfind : lookup k id = some o) :
    (((r.withReference k (some { id })).resolve lookup).slots k).bound = some o := by
  have hselection : ({ r.slots k with reference := some { id } } : Slot k).selection =
      .reference { id } := Slot.selection_eq_reference_iff.mpr ⟨hinlined, rfl⟩
  have hon' : (r.withReference k (some { id })).enabled = true := hon
  rw [Rule.slots_resolve, if_pos hon', Rule.slots_withReference_self, Slot.resolve, hfree, Slot.target?,
    hselection]
  simp [hnamed, hfind]

/-- A scalar that gives a pooled object its id can be written for the reference to the object. If it
stands for a text, a document with one more reference that is written with it, alone or in the long form,
is a document as before, the rule set has the enabled reference with this id and is otherwise the same,
and validation binds the slot to the object, where the rule is enabled and no enabled object is declared
in the slot itself. If the scalar is a word for nothing and stands alone, no reference is given, as with
everything else that may be absent. -/
theorem Document.reference_written_as_id {root : Node} {s : RuleSet} (hs : Document.Makes root s)
    {k : Kind} {tag : Option String} {entries : List (Node × Node)}
    (hitem : Document.PoolsItem k (.mapping tag entries) root) {key : Node} {v : Scalar}
    (hid : (key, .scalar v) ∈ entries) (hkey : Fields.text? key = some "id") :
    ∃ e o, k.entryOfNode? (.mapping tag entries) = some e ∧ k.Describes e o ∧ k.idOf o = v.text ∧
      s.lookup k v.text = some o ∧
      ∀ i n root', Document.AddsReference k n i root root' →
        (v.IsText → Reference.WrittenAs v n →
          let s' := s.withReference i k (some { id := v.text, enabled := true })
          Document.Makes root' s' ∧
          (∀ path text, Markup.readText? text.toList = some (some root') →
            RuleSet.ofText path text = .ok s') ∧
          ∃ r, s.rules[i]? = some r ∧
            (r.enabled = true → (∀ o', (r.slots k).inlined = some o' → k.isEnabled o' = false) →
              ∀ recorder, ∃ r', (s'.validate.run recorder).1.2.rules[i]? = some r' ∧
                (r'.slots k).bound = some o)) ∧
        (Fields.isAbsent? n = some true → Document.Makes root' (s.withReference i k none)) := by
  obtain ⟨e, o, hread, hdescribes, hlookup⟩ := hs.exists_pooled hitem
  have hname : k.entryId e = v.text := Kind.entryId_of_written hread hid hkey
  rw [hname] at hlookup
  refine ⟨e, o, hread, hdescribes, hdescribes.idOf_eq.trans hname, hlookup, fun i n root' hroot =>
    ⟨fun hv hn => ?_, fun habsent => hs.addsReference hroot (by simp [Fields.optional, habsent])⟩⟩
  intro s'
  -- the pools are as before, so the object is found under the id of the reference
  have hs' : Document.Makes root' s' := hs.addsReference hroot (Reference.optional_writtenAs hv hn)
  obtain ⟨r, hr⟩ := hroot.exists_rule hs
  refine ⟨hs', fun path text htext => hs'.ofText htext, r, hr, fun hon hinlined recorder => ?_⟩
  refine ⟨(r.withReference k (some { id := v.text })).resolve s.lookup, ?_, ?_⟩
  · change (s'.rules.map (·.resolve s.lookup))[i]? = _
    simp [s', RuleSet.withReference, hr]
  · exact Rule.bound_resolve_withReference hon (hs.unbound (List.mem_of_getElem? hr) k)
      (Slot.usableInlined_eq_none_iff.mpr hinlined) ((s.pools k).not_blank_of_find? hlookup) hlookup

/-- The tree of a document with one pooled table, that has a scalar for its id, and a rule with some
fields more than it must have. -/
def Document.withPooledTable (v : Scalar) (fields : List (Node × Node)) : Node :=
  .mapping none [(.plain "table_matches", .sequence none [.mapping none [(.plain "id", .scalar v)]]),
    (.plain "rules", .sequence none [.mapping none
      ((.plain "tag", .plain "t") :: fields)])]

/-- A document with one pooled table and a rule. -/
def Document.pooledTable (id : String) : Document where
  pools
    | .table => [{ id }]
    | _ => []
  rules := [{ tag := "t" }]

/-- A table with a number for its id can be referred to, in quotes. -/
theorem Document.quoted_number_referred_to :
    ∃ s, RuleSet.ofText none
        "table_matches:\n- id: '5'\nrules:\n- tag: t\n  table_match_ref: '5'" = .ok s ∧
      ∃ r, (s.validate.run {}).1.2.rules[0]? = some r ∧
        (r.slots .table).bound.map (Kind.idOf .table) = some "5" := by
  let v : Scalar := { style := .singleQuoted, text := "5" }
  have htext : Markup.readText?
      "table_matches:\n- id: '5'\nrules:\n- tag: t\n  table_match_ref: '5'".toList =
        some (some (withPooledTable v [(.plain "table_match_ref", .scalar v)])) := by cbv
  obtain ⟨s, hs, hrule⟩ : ∃ s, Makes (withPooledTable v []) s ∧
      ∀ r, s.rules[0]? = some r → r.enabled = true ∧ (r.slots .table).inlined = none := by
    refine ⟨_, ⟨pooledTable "5", by decide +kernel, rfl⟩, fun r hr => ?_⟩
    cases hr
    exact ⟨rfl, rfl⟩
  have hitem : PoolsItem .table (.mapping none [(.plain "id", .scalar v)]) (withPooledTable v []) :=
    .mk List.mem_cons_self rfl List.mem_cons_self
  have hroot : AddsReference .table (.scalar v) 0 (withPooledTable v [])
      (withPooledTable v [(.plain "table_match_ref", .scalar v)]) :=
    @AddsReference.mk _ _ _ _ _ [_] [] [_] [] [] [] _ _ rfl rfl (by decide)
  obtain ⟨e, o, -, -, hid, -, hrefers⟩ :=
    reference_written_as_id hs hitem List.mem_cons_self (v := v) rfl
  have hv : v.IsText := Scalar.isText_of_marked rfl (by decide)
  obtain ⟨-, hread, r, hr, hbound⟩ := (hrefers 0 _ _ hroot).1 hv .alone
  obtain ⟨hon, hinlined⟩ := hrule r hr
  obtain ⟨r', hr', hbound'⟩ := hbound hon (by simp [hinlined]) {}
  exact ⟨_, hread none _ htext, r', hr', by rw [hbound', Option.map_some, hid]⟩

/-- A word for nothing is an id without quotes, and refers to nothing. A number is an id, too, and cannot
be referred to without quotes, in either form. -/
theorem Document.unquoted_ids_not_referred_to :
    (∃ s o, RuleSet.ofText none "table_matches:\n- id: ~\nrules:\n- tag: t\n  table_match_ref: ~" =
        .ok s ∧
      s.lookup .table "~" = some o ∧
      s.rules.map (fun r => (r.slots .table).reference) = [none] ∧
      (s.validate.run {}).1.2.rules.map (fun r => (r.slots .table).bound) = [none]) ∧
    (∃ s o, Makes (withPooledTable { text := "5" } []) s ∧ s.lookup .table "5" = some o) ∧
    Document.ofNode? (withPooledTable { text := "5" } [(.plain "table_match_ref", .plain "5")]) = none ∧
    Document.ofNode? (withPooledTable { text := "5" } [(.plain "table_match_ref",
      .mapping none [(.plain "ref", .plain "5")])]) = none := by
  have htext : Markup.readText?
      "table_matches:\n- id: ~\nrules:\n- tag: t\n  table_match_ref: ~".toList =
        some (some (withPooledTable { text := "~" } [(.plain "table_match_ref", .plain "~")])) := by cbv
  have hnull : Document.ofNode? (withPooledTable { text := "~" }
      [(.plain "table_match_ref", .plain "~")]) = some (pooledTable "~") := by decide +kernel
  have hnumber : Document.ofNode? (withPooledTable { text := "5" } []) = some (pooledTable "5") := by
    decide +kernel
  exact ⟨⟨_, _, Makes.ofText ⟨_, hnull, rfl⟩ htext, rfl, rfl, rfl⟩,
    ⟨_, _, ⟨_, hnumber, rfl⟩, rfl⟩, by decide +kernel, by decide +kernel⟩

end AggregateNaming
