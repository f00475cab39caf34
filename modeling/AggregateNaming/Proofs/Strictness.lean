import AggregateNaming.Document.Read
import AggregateNaming.Proofs.Fallible
import AggregateNaming.Proofs.Loading
import Mathlib

/-!
# Strictness

A mapping in a document stands for the document itself, for a rule, for an object, for a template or
for a reference, and each of these has its fields. A key that is none of them makes the document no
document at all, wherever it is, with one exception: a reference does not look at what else is in it.
That a document says the same without such a key is shown from the reference outwards, for any part that
is replaced by one that is read the same.

## Main definitions

- `Part` and `Part.fields` : what mappings stand for, and the fields that they have then.
- `Document.Stands` : what the nodes of a document stand for.
- `Part.Unknown` : a key is none of the fields.
- `Part.Replaced` : a document with another part in place of one.
- `Part.Alike` : two nodes are read the same.

## Main statements

- `Part.Reads.not_unknown` : what is read has nothing but its fields.
- `Document.reads_of_stands` : where a document is read, so is everything in it.
- `Part.Replaced.alike` : a document is read the same with a part that is.
- `Reference.ofNode?_unknown` : what an unknown key of a reference does.
- `Document.unknown_key_refused_or_ignored` : all of it together.
-/

namespace AggregateNaming

open Markup (Node)

/-! ## §1 The parts of a document -/

/-- What a mapping in a document stands for. -/
inductive Part where
  | document
  | rule
  | object (k : Kind)
  | template
  /-- The long form of a reference. -/
  | reference
  deriving Repr, DecidableEq

/-- What the value of a field is: neither a part nor parts, a part of the whole, or a sequence of
parts. -/
inductive Part.Content where
  | plain
  | one (p : Part)
  | many (p : Part)
  deriving Repr, DecidableEq

/-- The fields of a part, with what their values are. -/
def Part.fields : Part → List (String × Content)
  | document => [("tag", .plain), ("rules", .many rule)] ++
    Kind.all.map fun k => (k.poolField, .many (object k))
  | rule => [("tag", .plain), ("default", .plain), ("enabled", .plain), ("count_column", .plain)] ++
    Kind.slotOrder.flatMap fun k => [(k.slotField, .one (object k)), (k.referenceField, .one reference)]
  | object .factCount =>
    [("id", .plain), ("enabled", .plain), ("char_case", .plain), ("fact_count_name", .plain)]
  | object .foreignKey | object .table =>
    [("id", .plain), ("enabled", .plain), ("char_case", .plain), ("basename", .plain),
      ("pretemplate", .plain), ("posttemplate", .plain)]
  | object .level | object .measure | object .ignore =>
    [("id", .plain), ("enabled", .plain), ("char_case", .plain), ("templates", .many template)]
  | template =>
    [("id", .plain), ("enabled", .plain), ("char_case", .plain), ("template", .plain),
      ("space", .plain), ("dot", .plain)]
  | reference => [("ref", .plain), ("enabled", .plain)]

/-- The names of the fields of a part. -/
def Part.names (p : Part) : List String := p.fields.map (·.1)

/-- A key is none of the fields of a part. -/
def Part.Unknown (p : Part) (key : Node) : Prop :=
  ∀ name ∈ Fields.text? key, name ∉ p.names

instance (p : Part) (key : Node) : Decidable (p.Unknown key) :=
  inferInstanceAs (Decidable (∀ name ∈ Fields.text? key, name ∉ p.names))

/-- What the nodes of a document stand for: the root for the document, and what is under a field for
what the field holds. -/
inductive Document.Stands (root : Node) : Part → Node → Prop
  | root : Stands root .document root
  | one {p q : Part} {tag : Option String} {entries : List (Node × Node)} {key v : Node}
      {name : String} (whole : Stands root p (.mapping tag entries)) (entry : (key, v) ∈ entries)
      (named : Fields.text? key = some name) (field : (name, .one q) ∈ p.fields) : Stands root q v
  | many {p q : Part} {tag tag' : Option String} {entries : List (Node × Node)} {key v : Node}
      {name : String} {items : List Node} (whole : Stands root p (.mapping tag entries))
      (entry : (key, .sequence tag' items) ∈ entries) (named : Fields.text? key = some name)
      (field : (name, .many q) ∈ p.fields) (item : v ∈ items) : Stands root q v

/-! ## §2 Fields -/

/-- Each of a list of computations has its answer among those of all. -/
theorem exists_of_mapM_eq_some {α β : Type} {f : α → Option β} {xs : List α} {ys : List β}
    (h : xs.mapM f = some ys) {x : α} (hx : x ∈ xs) : ∃ y ∈ ys, f x = some y :=
  exists_of_forall₂ (mapM_eq_some_iff.mp h) hx

/-- What is left of a list without its repetitions has none. -/
theorem nodup_eraseDups : (l : List String) → l.eraseDups.Nodup
  | [] => by simp
  | a :: l => by
    rw [List.eraseDups_cons, List.nodup_cons]
    exact ⟨by simp [List.mem_eraseDups], nodup_eraseDups (l.filter fun b => !b == a)⟩
termination_by l => l.length
decreasing_by exact Nat.lt_succ_of_le (List.length_filter_le _ _)

/-- A list is as long without its repetitions if it has none. -/
theorem length_eraseDups_eq_iff {l : List String} : l.eraseDups.length = l.length ↔ l.Nodup := by
  have hsub : l.eraseDups.Subperm l :=
    (nodup_eraseDups l).subperm fun a ha => List.mem_eraseDups.mp ha
  constructor
  · intro h
    exact (hsub.perm_of_length_le (Nat.le_of_eq h.symm)).nodup_iff.mp (nodup_eraseDups l)
  · intro h
    have hsub' : l.Subperm l.eraseDups := h.subperm fun a ha => List.mem_eraseDups.mpr ha
    exact Nat.le_antisymm hsub.length_le hsub'.length_le

namespace Fields

/-- An entry of a list without repetitions is the one that is found under its name. -/
theorem lookup_of_mem {f : Fields} (hdistinct : (f.map (·.1)).Nodup) {name : String} {v : Node}
    (hmem : (name, v) ∈ f) : f.lookup name = some v := by
  induction f with
  | nil => cases hmem
  | cons e f ih =>
    obtain ⟨name', v'⟩ := e
    rw [List.map_cons, List.nodup_cons] at hdistinct
    rw [List.lookup_cons]
    rcases List.mem_cons.mp hmem with heq | hmem
    · cases heq
      simp
    · have hne : (name == name') = false :=
        beq_false_of_ne fun heq => hdistinct.1 (heq ▸ List.mem_map_of_mem (f := (·.1)) hmem)
      rw [hne]
      exact ih hdistinct.2 hmem

/-- What is read of a mapping are its entries by name, where all of the names are known and different. -/
theorem ofNode?_mapping_eq_some_iff {known : List String} {tag : Option String}
    {entries : List (Node × Node)} {f : Fields} :
    Fields.ofNode? known (.mapping tag entries) = some f ↔
      (entries.mapM fun e => (text? e.1).map (·, e.2)) = some f ∧
      (∀ name ∈ f.map (·.1), name ∈ known) ∧ (f.map (·.1)).Nodup := by
  simp only [ofNode?, Option.bind_eq_bind, Option.bind_eq_some_iff, Option.ite_none_right_eq_some,
    Option.some.injEq, Bool.and_eq_true, List.all_eq_true, beq_iff_eq, List.contains_iff_mem,
    length_eraseDups_eq_iff]
  constructor
  · rintro ⟨_, hentries, hnames, rfl⟩
    exact ⟨hentries, hnames⟩
  · rintro ⟨hentries, hnames⟩
    exact ⟨f, hentries, hnames, rfl⟩

/-- Every entry of a mapping that is read is a field, and is found under the name of it. -/
theorem field_of_ofNode? {known : List String} {tag : Option String} {entries : List (Node × Node)}
    {f : Fields} (h : Fields.ofNode? known (.mapping tag entries) = some f) {key v : Node}
    (hentry : (key, v) ∈ entries) :
    ∃ name ∈ known, text? key = some name ∧ f.lookup name = some v := by
  obtain ⟨hmapM, hknown, hdistinct⟩ := ofNode?_mapping_eq_some_iff.mp h
  obtain ⟨e, hmem, he⟩ := exists_of_mapM_eq_some hmapM hentry
  obtain ⟨name, hname, rfl⟩ := Option.map_eq_some_iff.mp he
  exact ⟨name, hknown name (List.mem_map_of_mem (f := (·.1)) hmem), hname,
    lookup_of_mem hdistinct hmem⟩

end Fields

/-! ## §3 What is read -/

/-- A node is read as a part. -/
def Part.Reads : Part → Node → Prop
  | document, n => ∃ d, Document.ofNode? n = some d
  | rule, n => ∃ e, RuleEntry.ofNode? n = some e
  | object k, n => ∃ e, k.entryOfNode? n = some e
  | template, n => ∃ e, TemplateEntry.ofNode? n = some e
  | reference, n => ∃ r, Reference.ofNode? n = some r

/-- A node is read as the value of a field, unless it stands for the absence of one. -/
def Part.Content.Reads : Content → Node → Prop
  | plain, _ => True
  | one p, n => Fields.isAbsent? n = some false → p.Reads n
  | many p, n => ∀ tag items, n = .sequence tag items → ∀ item ∈ items, p.Reads item

namespace Fields

variable {α : Type} {f : Fields} {name : String} {v : Node} {read : Node → Option α}

/-- The part that a field holds is read if the field is. -/
theorem reads_of_get_optional {x : Option α}
    (h : f.get name (optional read) (some none) = some x) (hv : f.lookup name = some v)
    (habsent : isAbsent? v = some false) : ∃ a, read v = some a := by
  rw [get, hv] at h
  simp only [optional, habsent, Option.bind_eq_bind, Option.bind_some, Bool.false_eq_true,
    if_false, Option.bind_eq_some_iff] at h
  obtain ⟨a, ha, -⟩ := h
  exact ⟨a, ha⟩

/-- The parts that a field holds are read if the field is. -/
theorem reads_of_get_items {tag : Option String} {ns : List Node} {x : List α}
    (h : f.get name (items read) (some []) = some x) (hv : f.lookup name = some (.sequence tag ns))
    {n : Node} (hn : n ∈ ns) : ∃ a, read n = some a := by
  rw [get, hv] at h
  obtain ⟨a, -, ha⟩ := exists_of_mapM_eq_some h hn
  exact ⟨a, ha⟩

end Fields

/-- A computation for every kind has the answers of all of them. -/
theorem Kind.forEach?_eq_some_iff {β : Kind → Type} {compute : (k : Kind) → Option (β k)}
    {g : (k : Kind) → β k} : Kind.forEach? compute = some g ↔ ∀ k, compute k = some (g k) := by
  constructor
  · intro h k
    have hok : (Kind.forEach fun k => (compute k).elim (Except.error ()) .ok) = .ok g := by
      unfold Kind.forEach? at h
      cases heach : (Kind.forEach fun k => (compute k).elim (Except.error ()) .ok) with
      | ok g' => rw [heach] at h; cases h; rfl
      | error e => rw [heach] at h; cases h
    have hk := Kind.forEach_eq_ok hok k
    cases hcompute : compute k with
    | some b => rw [hcompute] at hk; cases hk; rfl
    | none => rw [hcompute] at hk; cases hk
  · intro h
    simp only [forEach?, forEach, h, Option.elim]
    refine congrArg some (funext fun k => ?_)
    cases k <;> rfl

namespace Part

/-- The fields of a part are read, and so is what they hold. -/
def FieldsRead (p : Part) (n : Node) : Prop :=
  ∃ f, Fields.ofNode? p.names n = some f ∧
    ∀ field ∈ p.fields, ∀ v, f.lookup field.1 = some v → field.2.Reads v

theorem fieldsRead_document {n : Node} (h : document.Reads n) : document.FieldsRead n := by
  obtain ⟨d, hd⟩ := h
  simp only [Document.ofNode?, Option.bind_eq_bind, Option.bind_eq_some_iff] at hd
  obtain ⟨f, hf, tag, -, pools, hpools, rules, hrules, -⟩ := hd
  refine ⟨f, hf, ?_⟩
  simp only [fields, List.forall_mem_append, List.forall_mem_cons, List.mem_map]
  refine ⟨⟨fun v _ => trivial, fun v hv => ?_, nofun⟩, ?_⟩
  · rintro tag' items rfl n hn
    exact Fields.reads_of_get_items hrules hv hn
  · rintro _ ⟨k, -, rfl⟩ v hv tag' items rfl n hn
    exact Fields.reads_of_get_items (Kind.forEach?_eq_some_iff.mp hpools k) hv hn

theorem fieldsRead_rule {n : Node} (h : rule.Reads n) : rule.FieldsRead n := by
  obtain ⟨e, he⟩ := h
  simp only [RuleEntry.ofNode?, Option.bind_eq_bind, Option.bind_eq_some_iff] at he
  obtain ⟨f, hf, tag, -, isDefault, -, enabled, -, countColumn, -, slots, hslots, -⟩ := he
  refine ⟨f, hf, ?_⟩
  simp only [fields, List.forall_mem_append, List.forall_mem_cons, List.mem_flatMap]
  refine ⟨⟨fun v _ => trivial, fun v _ => trivial, fun v _ => trivial, fun v _ => trivial, nofun⟩, ?_⟩
  rintro field ⟨k, -, hfield⟩ v hv
  have hslot := Kind.forEach?_eq_some_iff.mp hslots k
  simp only [SlotEntry.ofFields?, Option.bind_eq_bind, Option.bind_eq_some_iff] at hslot
  obtain ⟨inlined, hinlined, reference, hreference, -⟩ := hslot
  rcases List.mem_pair.mp hfield with rfl | rfl
  · exact Fields.reads_of_get_optional hinlined hv
  · exact Fields.reads_of_get_optional hreference hv

/-- A part that holds no other is read if its fields are. -/
theorem fieldsRead_of_plain {p : Part} {n : Node} {f : Fields} (hf : Fields.ofNode? p.names n = some f)
    (hplain : ∀ field ∈ p.fields, field.2 = .plain) : p.FieldsRead n := by
  refine ⟨f, hf, fun field hfield v _ => ?_⟩
  rw [hplain field hfield]
  trivial

theorem fieldsRead_fixedName {n : Node} {e : FixedNameEntry} (he : FixedNameEntry.ofNode? n = some e) :
    (object .factCount).FieldsRead n := by
  obtain ⟨f, hf, -⟩ := Option.bind_eq_some_iff.mp he
  exact fieldsRead_of_plain hf (by decide)

theorem fieldsRead_derivedName {k : Kind} (hk : k = .foreignKey ∨ k = .table) {n : Node}
    {e : DerivedNameEntry} (he : DerivedNameEntry.ofNode? n = some e) : (object k).FieldsRead n := by
  obtain ⟨f, hf, -⟩ := Option.bind_eq_some_iff.mp he
  rcases hk with rfl | rfl
  · exact fieldsRead_of_plain hf (by decide)
  · exact fieldsRead_of_plain hf (by decide)

theorem fieldsRead_template {n : Node} (h : template.Reads n) : template.FieldsRead n := by
  obtain ⟨e, he⟩ := h
  obtain ⟨f, hf, -⟩ := Option.bind_eq_some_iff.mp he
  exact fieldsRead_of_plain hf (by decide)

theorem fieldsRead_templateMap {k : Kind} (hk : (object k).fields = (object .level).fields) {n : Node}
    {e : TemplateMapEntry} (he : TemplateMapEntry.ofNode? n = some e) : (object k).FieldsRead n := by
  simp only [TemplateMapEntry.ofNode?, Option.bind_eq_bind, Option.bind_eq_some_iff] at he
  obtain ⟨f, hf, id, -, enabled, -, casing, -, templates, htemplates, -⟩ := he
  refine ⟨f, by rw [names, hk]; exact hf, ?_⟩
  rw [hk]
  simp only [fields, List.forall_mem_cons]
  refine ⟨fun v _ => trivial, fun v _ => trivial, fun v _ => trivial, fun v hv => ?_, nofun⟩
  rintro tag items rfl n hn
  exact Fields.reads_of_get_items htemplates hv hn

/-- Everything but references is read by its fields. -/
theorem Reads.fieldsRead {p : Part} {n : Node} (hp : p ≠ reference) (h : p.Reads n) :
    p.FieldsRead n := by
  cases p with
  | document => exact fieldsRead_document h
  | rule => exact fieldsRead_rule h
  | object k =>
    obtain ⟨e, he⟩ := h
    cases k with
    | factCount => exact fieldsRead_fixedName he
    | foreignKey => exact fieldsRead_derivedName (.inl rfl) he
    | table => exact fieldsRead_derivedName (.inr rfl) he
    | level => exact fieldsRead_templateMap rfl he
    | measure => exact fieldsRead_templateMap rfl he
    | ignore => exact fieldsRead_templateMap rfl he
  | template => exact fieldsRead_template h
  | reference => exact absurd rfl hp

variable {p : Part} {tag : Option String} {entries : List (Node × Node)} {key v : Node}

/-- A part that is read has nothing but its fields. -/
theorem Reads.not_unknown (hp : p ≠ reference) (h : p.Reads (.mapping tag entries))
    (hentry : (key, v) ∈ entries) : ¬p.Unknown key := by
  obtain ⟨f, hf, -⟩ := h.fieldsRead hp
  obtain ⟨name, hknown, hname, -⟩ := Fields.field_of_ofNode? hf hentry
  exact fun hunknown => hunknown name hname hknown

/-- What a field of a part holds is read if the part is. -/
theorem Reads.content (h : p.Reads (.mapping tag entries)) (hentry : (key, v) ∈ entries)
    {name : String} (hname : Fields.text? key = some name) {content : Content}
    (hfield : (name, content) ∈ p.fields) : content.Reads v := by
  by_cases hp : p = reference
  · -- the fields of references hold nothing
    subst hp
    have hplain : content = .plain := by
      simp only [fields, List.mem_cons, List.not_mem_nil, or_false, Prod.mk.injEq] at hfield
      rcases hfield with ⟨-, rfl⟩ | ⟨-, rfl⟩ <;> rfl
    rw [hplain]
    trivial
  · obtain ⟨f, hf, hcontent⟩ := h.fieldsRead hp
    obtain ⟨name', -, hname', hlookup⟩ := Fields.field_of_ofNode? hf hentry
    rw [hname] at hname'
    cases hname'
    exact hcontent _ hfield v hlookup

end Part

/-- Where a document is read, everything in it is, unless it stands for the absence of something. -/
theorem Document.reads_of_stands {root : Node} {d : Document} (hread : Document.ofNode? root = some d)
    {p : Part} {n : Node} (hstands : Document.Stands root p n) (hn : Fields.isAbsent? n = some false) :
    p.Reads n := by
  -- by the way from the root; what is on the way is a mapping, and a mapping is not absent
  induction hstands with
  | root => exact ⟨d, hread⟩
  | one _ hentry hname hfield ih => exact (ih rfl).content hentry hname hfield hn
  | many _ hentry hname hfield hitem ih =>
    exact (ih rfl).content hentry hname hfield _ _ rfl _ hitem

/-! ## §4 Replacing a part -/

/-- What stands for a part `p` has `n'` in place of `n`, in one place where `n` stands for a part `q`. -/
inductive Part.Replaced (q : Part) (n n' : Node) : Part → Node → Node → Prop
  | here : Replaced q n n' q n n'
  | one {p r : Part} {tag : Option String} {before after : List (Node × Node)} {key v v' : Node}
      {name : String} (inner : Replaced q n n' r v v') (named : Fields.text? key = some name)
      (field : (name, .one r) ∈ p.fields) :
      Replaced q n n' p (.mapping tag (before ++ (key, v) :: after))
        (.mapping tag (before ++ (key, v') :: after))
  | many {p r : Part} {tag tag' : Option String} {before after : List (Node × Node)}
      {earlier later : List Node} {key v v' : Node} {name : String} (inner : Replaced q n n' r v v')
      (named : Fields.text? key = some name) (field : (name, .many r) ∈ p.fields) :
      Replaced q n n' p (.mapping tag (before ++ (key, .sequence tag' (earlier ++ v :: later)) :: after))
        (.mapping tag (before ++ (key, .sequence tag' (earlier ++ v' :: later)) :: after))

theorem Part.Replaced.trans {p q r : Part} {n n' w w' u u' : Node} (h : Part.Replaced q w w' r u u')
    (hinner : Part.Replaced p n n' q w w') : Part.Replaced p n n' r u u' := by
  induction h with
  | here => exact hinner
  | one _ named field ih => exact .one ih named field
  | many _ named field ih => exact .many ih named field

/-- Whatever stands for a part in a document can be replaced. -/
theorem Document.Stands.exists_replaced {root : Node} {p : Part} {n : Node}
    (h : Document.Stands root p n) (n' : Node) : ∃ root', Part.Replaced p n n' .document root root' := by
  induction h generalizing n' with
  | root => exact ⟨n', .here⟩
  | one _ entry named field ih =>
    obtain ⟨before, after, rfl⟩ := List.append_of_mem entry
    obtain ⟨root', hroot'⟩ := ih (.mapping _ (before ++ (_, n') :: after))
    exact ⟨root', hroot'.trans (.one .here named field)⟩
  | many _ entry named field item ih =>
    obtain ⟨before, after, rfl⟩ := List.append_of_mem entry
    obtain ⟨earlier, later, rfl⟩ := List.append_of_mem item
    obtain ⟨root', hroot'⟩ :=
      ih (.mapping _ (before ++ (_, .sequence _ (earlier ++ n' :: later)) :: after))
    exact ⟨root', hroot'.trans (.many .here named field)⟩

/-- Two nodes are read the same, as a part. -/
def Part.Alike : Part → Node → Node → Prop
  | document, n, n' => Document.ofNode? n = Document.ofNode? n'
  | rule, n, n' => RuleEntry.ofNode? n = RuleEntry.ofNode? n'
  | object k, n, n' => k.entryOfNode? n = k.entryOfNode? n'
  | template, n, n' => TemplateEntry.ofNode? n = TemplateEntry.ofNode? n'
  | reference, n, n' => Reference.ofNode? n = Reference.ofNode? n'

theorem Part.Alike.refl (p : Part) (n : Node) : p.Alike n n := by
  cases p <;> rfl

/-- Two nodes are read the same, as the value of a field. -/
def Part.Content.Alike : Content → Node → Node → Prop
  | plain, v, v' => v = v'
  | one p, v, v' => Fields.isAbsent? v = Fields.isAbsent? v' ∧ p.Alike v v'
  | many p, v, v' => v = v' ∨ ∃ tag ns ns', v = .sequence tag ns ∧ v' = .sequence tag ns' ∧
    List.Forall₂ p.Alike ns ns'

theorem Part.Content.Alike.refl (c : Content) (v : Node) : c.Alike v v := by
  cases c with
  | plain => rfl
  | one p => exact ⟨rfl, .refl p v⟩
  | many p => exact .inl rfl

/-- The fields of a part hold what is read the same. -/
def Part.FieldsAlike (p : Part) (f f' : Fields) : Prop :=
  ∀ name content, (name, content) ∈ p.fields →
    Option.Rel content.Alike (f.lookup name) (f'.lookup name)

namespace Fields

variable {α : Type} {f f' : Fields} {name : String} {read : Node → Option α}

theorem get_eq_of_plain {absent : Option α}
    (h : Option.Rel (Part.Content.Alike .plain) (f.lookup name) (f'.lookup name)) :
    f.get name read absent = f'.get name read absent := by
  unfold get
  generalize f.lookup name = x, f'.lookup name = x' at h ⊢
  cases h with
  | none => rfl
  | some hv => rw [show _ = _ from hv]

theorem get_eq_of_one {p : Part} {absent : Option (Option α)}
    (hread : ∀ v v', p.Alike v v' → read v = read v')
    (h : Option.Rel (Part.Content.Alike (.one p)) (f.lookup name) (f'.lookup name)) :
    f.get name (optional read) absent = f'.get name (optional read) absent := by
  unfold get
  generalize f.lookup name = x, f'.lookup name = x' at h ⊢
  cases h with
  | none => rfl
  | some hv => simp only [optional, hv.1, hread _ _ hv.2]

theorem get_eq_of_many {p : Part} {absent : Option (List α)}
    (hread : ∀ v v', p.Alike v v' → read v = read v')
    (h : Option.Rel (Part.Content.Alike (.many p)) (f.lookup name) (f'.lookup name)) :
    f.get name (items read) absent = f'.get name (items read) absent := by
  have hmapM : ∀ {ns ns' : List Node}, List.Forall₂ p.Alike ns ns' → ns.mapM read = ns'.mapM read := by
    intro ns ns' hns
    induction hns with
    | nil => rfl
    | cons hn _ ih => rw [List.mapM_cons, List.mapM_cons, hread _ _ hn, ih]
  unfold get
  generalize f.lookup name = x, f'.lookup name = x' at h ⊢
  cases h with
  | none => rfl
  | some hv =>
    rcases hv with heq | ⟨tag, ns, ns', rfl, rfl, hns⟩
    · rw [heq]
    · exact hmapM hns

end Fields

namespace Part

/-- The field of a name holds one kind of value. -/
theorem content_unique {p : Part} {name : String} {c c' : Content} (h : (name, c) ∈ p.fields)
    (h' : (name, c') ∈ p.fields) : c = c' := by
  have hdistinct : p.names.Nodup := by
    rcases p with _ | _ | k | _ | _
    case object => cases k <;> decide +kernel
    all_goals decide +kernel
  exact (Prod.mk.inj (List.inj_on_of_nodup_map hdistinct h h' rfl)).2

/-- A mapping with another value under the name of a field has the same fields, and they hold what is
read the same if the value is. -/
theorem fieldsAlike_mapping {p : Part} {tag : Option String} {before after : List (Node × Node)}
    {key v v' : Node} {name : String} {c : Content} (hname : Fields.text? key = some name)
    (hfield : (name, c) ∈ p.fields) (hv : c.Alike v v') :
    Option.Rel p.FieldsAlike (Fields.ofNode? p.names (.mapping tag (before ++ (key, v) :: after)))
      (Fields.ofNode? p.names (.mapping tag (before ++ (key, v') :: after))) := by
  simp only [Fields.ofNode?, List.mapM_append, List.mapM_cons, hname, Option.map_some]
  cases before.mapM fun (e : Node × Node) => (Fields.text? e.1).map (·, e.2) with
  | none => exact .none
  | some earlier =>
    cases after.mapM fun (e : Node × Node) => (Fields.text? e.1).map (·, e.2) with
    | none => exact .none
    | some later =>
      simp only [Option.bind_eq_bind, Option.bind_some, Option.pure_def, List.map_append,
        List.map_cons]
      split
      · refine .some fun name' c' hfield' => ?_
        rw [List.lookup_append, List.lookup_append, List.lookup_cons, List.lookup_cons]
        cases earlier.lookup name' with
        | some u => exact .some (.refl c' u)
        | none =>
          by_cases hsame : name' = name
          · subst hsame
            rw [content_unique hfield' hfield]
            simpa using hv
          · rw [beq_false_of_ne hsame]
            cases later.lookup name' with
            | some u => exact .some (.refl c' u)
            | none => exact .none
      · exact .none

variable {n n' : Node}

theorem alike_document (h : Option.Rel document.FieldsAlike (Fields.ofNode? document.names n)
    (Fields.ofNode? document.names n')) : document.Alike n n' := by
  change Document.ofNode? n = Document.ofNode? n'
  unfold Document.ofNode?
  change Option.Rel _ (Fields.ofNode? Document.known n) (Fields.ofNode? Document.known n') at h
  generalize Fields.ofNode? Document.known n = x, Fields.ofNode? Document.known n' = x' at h ⊢
  cases h with
  | none => rfl
  | @some f f' hf =>
    have htag : f.optionalText "tag" = f'.optionalText "tag" :=
      Fields.get_eq_of_plain (hf _ _ (by decide))
    have hpools : ∀ k : Kind, f.get k.poolField (Fields.items k.entryOfNode?) (some []) =
        f'.get k.poolField (Fields.items k.entryOfNode?) (some []) := fun k =>
      Fields.get_eq_of_many (fun _ _ => id) (hf _ (.many (.object k)) (by cases k <;> decide))
    have hrules : f.get "rules" (Fields.items RuleEntry.ofNode?) (some []) =
        f'.get "rules" (Fields.items RuleEntry.ofNode?) (some []) :=
      Fields.get_eq_of_many (p := rule) (fun _ _ => id) (hf _ _ (by decide))
    simp only [Option.bind_eq_bind, Option.bind_some, htag, hpools, hrules]

theorem alike_rule (h : Option.Rel rule.FieldsAlike (Fields.ofNode? rule.names n)
    (Fields.ofNode? rule.names n')) : rule.Alike n n' := by
  change RuleEntry.ofNode? n = RuleEntry.ofNode? n'
  unfold RuleEntry.ofNode?
  change Option.Rel _ (Fields.ofNode? RuleEntry.known n) (Fields.ofNode? RuleEntry.known n') at h
  generalize Fields.ofNode? RuleEntry.known n = x, Fields.ofNode? RuleEntry.known n' = x' at h ⊢
  cases h with
  | none => rfl
  | @some f f' hf =>
    have hplain : ∀ {α : Type} {read : Node → Option α} {absent : Option α} (name : String),
        (name, .plain) ∈ rule.fields → f.get name read absent = f'.get name read absent :=
      fun _ hname => Fields.get_eq_of_plain (hf _ _ hname)
    have hslots : ∀ k : Kind, SlotEntry.ofFields? k f = SlotEntry.ofFields? k f' := by
      intro k
      have hinlined : f.get k.slotField (Fields.optional k.entryOfNode?) (some none) =
          f'.get k.slotField (Fields.optional k.entryOfNode?) (some none) :=
        Fields.get_eq_of_one (fun _ _ => id) (hf _ (.one (.object k)) (by cases k <;> decide))
      have hreference : f.get k.referenceField (Fields.optional Reference.ofNode?) (some none) =
          f'.get k.referenceField (Fields.optional Reference.ofNode?) (some none) :=
        Fields.get_eq_of_one (fun _ _ => id) (hf _ (.one .reference) (by cases k <;> decide))
      rw [SlotEntry.ofFields?, SlotEntry.ofFields?, hinlined, hreference]
    simp only [Option.bind_eq_bind, Option.bind_some, Fields.enabled, Fields.optionalText, hslots,
      hplain "tag" (by decide), hplain "default" (by decide), hplain "enabled" (by decide),
      hplain "count_column" (by decide)]

theorem alike_templateMap {k : Kind} (hk : (object k).fields = (object .level).fields)
    (h : Option.Rel (object k).FieldsAlike (Fields.ofNode? (object k).names n)
      (Fields.ofNode? (object k).names n')) :
    TemplateMapEntry.ofNode? n = TemplateMapEntry.ofNode? n' := by
  unfold TemplateMapEntry.ofNode?
  rw [names, hk] at h
  change Option.Rel _ (Fields.ofNode? ["id", "enabled", "char_case", "templates"] n)
    (Fields.ofNode? ["id", "enabled", "char_case", "templates"] n') at h
  generalize Fields.ofNode? ["id", "enabled", "char_case", "templates"] n = x,
    Fields.ofNode? ["id", "enabled", "char_case", "templates"] n' = x' at h ⊢
  cases h with
  | none => rfl
  | @some f f' hf =>
    rw [FieldsAlike, hk] at hf
    have hplain : ∀ {α : Type} {read : Node → Option α} {absent : Option α} (name : String),
        (name, .plain) ∈ (object .level).fields → f.get name read absent = f'.get name read absent :=
      fun _ hname => Fields.get_eq_of_plain (hf _ _ hname)
    have htemplates : f.get "templates" (Fields.items TemplateEntry.ofNode?) (some []) =
        f'.get "templates" (Fields.items TemplateEntry.ofNode?) (some []) :=
      Fields.get_eq_of_many (p := template) (fun _ _ => id) (hf _ _ (by decide))
    simp only [Option.bind_eq_bind, Option.bind_some, Fields.id, Fields.enabled, Fields.optionalText,
      htemplates, hplain "id" (by decide), hplain "enabled" (by decide),
      hplain "char_case" (by decide)]

/-- A part that holds others is read the same if its fields hold what is. -/
theorem alike_of_fieldsAlike {p : Part} {name : String} {c : Content}
    (hfield : (name, c) ∈ p.fields) (hc : c ≠ .plain)
    (h : Option.Rel p.FieldsAlike (Fields.ofNode? p.names n) (Fields.ofNode? p.names n')) :
    p.Alike n n' := by
  have hholds : ¬∀ field ∈ p.fields, field.2 = .plain := fun hplain => hc (hplain _ hfield)
  cases p with
  | document => exact alike_document h
  | rule => exact alike_rule h
  | object k =>
    cases k with
    | level => exact alike_templateMap rfl h
    | measure => exact alike_templateMap rfl h
    | ignore => exact alike_templateMap rfl h
    | factCount => exact absurd (by decide) hholds
    | foreignKey => exact absurd (by decide) hholds
    | table => exact absurd (by decide) hholds
  | template => exact absurd (by decide) hholds
  | reference => exact absurd (by decide) hholds

/-- What has a part replaced is read the same if the part is. -/
theorem Replaced.alike {p q : Part} {w w' : Node} (h : Replaced q n n' p w w')
    (hn : q.Alike n n') (habsent : Fields.isAbsent? n = Fields.isAbsent? n') :
    p.Alike w w' ∧ Fields.isAbsent? w = Fields.isAbsent? w' := by
  -- from the replaced part outwards, one mapping at a time
  induction h with
  | here => exact ⟨hn, habsent⟩
  | one _ named field ih =>
    have hcontent : (Content.one _).Alike _ _ := ⟨ih.2, ih.1⟩
    exact ⟨alike_of_fieldsAlike field nofun (fieldsAlike_mapping named field hcontent), rfl⟩
  | @many _ r _ tag' _ _ earlier later _ v v' _ _ named field ih =>
    have hitems : List.Forall₂ r.Alike (earlier ++ v :: later) (earlier ++ v' :: later) :=
      List.rel_append (List.forall₂_same.mpr fun m _ => .refl r m)
        (.cons ih.1 (List.forall₂_same.mpr fun m _ => .refl r m))
    have hcontent : (Content.many r).Alike (.sequence tag' (earlier ++ v :: later))
        (.sequence tag' (earlier ++ v' :: later)) := .inr ⟨_, _, _, rfl, rfl, hitems⟩
    exact ⟨alike_of_fieldsAlike field nofun (fieldsAlike_mapping named field hcontent), rfl⟩

end Part

/-! ## §5 Unknown keys -/

/-- A document with an unknown key outside of references is none. -/
theorem Document.ofNode?_eq_none_of_unknown {root : Node} {p : Part} {tag : Option String}
    {entries : List (Node × Node)} (hstands : Document.Stands root p (.mapping tag entries))
    (hp : p ≠ .reference) {key v : Node} (hentry : (key, v) ∈ entries) (hunknown : p.Unknown key) :
    Document.ofNode? root = none := by
  cases hread : Document.ofNode? root with
  | none => rfl
  | some d => exact absurd hunknown ((reads_of_stands hread hstands rfl).not_unknown hp hentry)

/-- Entries have values if those in front of one, itself and those behind it do. -/
theorem Markup.entriesHaveValue_middle (before after : List (Node × Node)) (key v : Node) :
    Markup.entriesHaveValue (before ++ (key, v) :: after) =
      (key.hasValue && v.hasValue && Markup.entriesHaveValue (before ++ after)) := by
  induction before with
  | nil => rfl
  | cons e before ih =>
    obtain ⟨k', v'⟩ := e
    rw [List.cons_append, Markup.entriesHaveValue, ih, List.cons_append, Markup.entriesHaveValue]
    ac_rfl

/-- What is under an unknown key is not a value of a field. -/
theorem Reference.fieldValues_middle {α : Type} {field : ReferenceField} (hfield : field ≠ .other)
    (read : Markup.Value → Option α) (before after : List (ReferenceField × Node)) (v : Node) :
    Reference.fieldValues field read (before ++ (.other, v) :: after) =
      Reference.fieldValues field read (before ++ after) := by
  have hother : (ReferenceField.other == field) = false := beq_false_of_ne hfield.symm
  simp only [fieldValues, List.filter_append, List.filter_cons, hother, Bool.false_eq_true, if_false]

/-- Where a key of a reference names neither field, the reference is read as if the key were not there,
as long as the key is a text or a number, and both the key and what is under it stand for something.
Otherwise it is not read. -/
theorem Reference.ofNode?_unknown (tag : Option String) (before after : List (Node × Node))
    {key : Node} (v : Node) (htarget : ReferenceField.ofNode? key ≠ some .target)
    (henabled : ReferenceField.ofNode? key ≠ some .enabled) :
    Reference.ofNode? (.mapping tag (before ++ (key, v) :: after)) =
      if ReferenceField.ofNode? key = some .other ∧ key.hasValue = true ∧ v.hasValue = true then
        Reference.ofNode? (.mapping tag (before ++ after))
      else none := by
  simp only [Reference.ofNode?, Node.hasValue, Markup.entriesHaveValue_middle, List.mapM_append,
    List.mapM_cons]
  have hall : ReferenceField.ofNode? key = none ∨ ReferenceField.ofNode? key = some .other := by
    rcases h : ReferenceField.ofNode? key with _ | (_ | _ | _)
    · exact .inl rfl
    · exact absurd h htarget
    · exact absurd h henabled
    · exact .inr rfl
  rcases hall with hkey | hkey
  · -- the key is neither a text nor a number
    simp only [hkey]
    cases before.mapM fun (e : Node × Node) => (ReferenceField.ofNode? e.1).map (·, e.2) <;> simp
  · simp only [hkey]
    by_cases hvalues : key.hasValue = true ∧ v.hasValue = true
    · cases before.mapM fun (e : Node × Node) => (ReferenceField.ofNode? e.1).map (·, e.2) with
      | none => simp
      | some earlier =>
        cases after.mapM fun (e : Node × Node) => (ReferenceField.ofNode? e.1).map (·, e.2) with
        | none => simp
        | some later => simp [hvalues, Reference.fieldValues_middle]
    · have hfalse : (key.hasValue && v.hasValue) = false := by simpa using hvalues
      simp [hfalse, hvalues]

/-- What a text says is what its tree says. -/
theorem Document.ofText?_eq {text : String} {root : Node}
    (htext : Markup.readText? text.toList = some (some root)) :
    Document.ofText? text = Document.ofNode? root := by
  rw [Document.ofText?, htext]
  rfl

/-- Texts of documents that are read the same make the same rule set. -/
theorem RuleSet.ofText_congr {text text' : String} {root root' : Node}
    (htext : Markup.readText? text.toList = some (some root))
    (htext' : Markup.readText? text'.toList = some (some root'))
    (hread : Document.ofNode? root = Document.ofNode? root') (path : Option String) :
    RuleSet.ofText path text = RuleSet.ofText path text' := by
  rw [RuleSet.ofText, RuleSet.ofText, Document.ofText?_eq htext, Document.ofText?_eq htext', hread]

/-- A document that is not read is refused, with the name of its file where one is known. -/
theorem RuleSet.ofText_of_ofNode?_eq_none {text : String} {root : Node}
    (htext : Markup.readText? text.toList = some (some root)) (hread : Document.ofNode? root = none)
    (path : Option String) : RuleSet.ofText path text = .error (.document (.malformed path)) := by
  rw [RuleSet.ofText, Document.ofText?_eq htext, hread]

/-- A plain scalar. -/
def Markup.Node.plain (text : String) : Node := .scalar { text }

/-- The tree of a document with one rule, that has a mapping for a reference to a table. -/
def Document.withTableReference (entries : List (Node × Node)) : Node :=
  .mapping none [(.plain "rules", .sequence none
    [.mapping none [(.plain "tag", .plain "t"), (.plain "table_match_ref", .mapping none entries)]])]

/-- The mapping stands for a reference there. -/
theorem Document.stands_withTableReference (entries : List (Node × Node)) :
    Document.Stands (withTableReference entries) .reference (.mapping none entries) := by
  have hrule : Document.Stands (withTableReference entries) .rule
      (.mapping none [(.plain "tag", .plain "t"), (.plain "table_match_ref", .mapping none entries)]) :=
    .many .root List.mem_cons_self rfl (by decide) List.mem_cons_self
  exact .one hrule (List.mem_cons_of_mem _ List.mem_cons_self) rfl (by decide)

/-- Unknown keys make a document none, whatever part they are a key of, unless it is a reference. A
document with an unknown key of a reference says what it says without the key, as long as the key is a
text or a number and stands, like what is under it, for something; otherwise it is none, too. (Numbers
may also stand for fields.) -/
theorem Document.unknown_key_refused_or_ignored {root : Node} {p : Part} {tag : Option String}
    {before after : List (Node × Node)} {key v : Node}
    (hstands : Document.Stands root p (.mapping tag (before ++ (key, v) :: after)))
    (hunknown : p.Unknown key) :
    (p ≠ .reference ∨ Reference.ofNode? (.mapping tag (before ++ (key, v) :: after)) = none →
      Document.ofNode? root = none ∧
      ∀ path text, Markup.readText? text.toList = some (some root) →
        RuleSet.ofText path text = .error (.document (.malformed path))) ∧
    (p = .reference →
      ReferenceField.ofNode? key ≠ some .target → ReferenceField.ofNode? key ≠ some .enabled →
      Reference.ofNode? (.mapping tag (before ++ (key, v) :: after)) =
        (if ReferenceField.ofNode? key = some .other ∧ key.hasValue = true ∧ v.hasValue = true then
          Reference.ofNode? (.mapping tag (before ++ after))
        else none) ∧
      (ReferenceField.ofNode? key = some .other ∧ key.hasValue = true ∧ v.hasValue = true →
        (∃ root', Part.Replaced .reference (.mapping tag (before ++ (key, v) :: after))
          (.mapping tag (before ++ after)) .document root root') ∧
        ∀ root', Part.Replaced .reference (.mapping tag (before ++ (key, v) :: after))
            (.mapping tag (before ++ after)) .document root root' →
          Document.ofNode? root = Document.ofNode? root' ∧
          ∀ path text text', Markup.readText? text.toList = some (some root) →
            Markup.readText? text'.toList = some (some root') →
            RuleSet.ofText path text = RuleSet.ofText path text')) := by
  refine ⟨fun h => ?_, fun hp htarget henabled => ⟨Reference.ofNode?_unknown tag before after v htarget
    henabled, fun hignored => ?_⟩⟩
  · have hnone : Document.ofNode? root = none := by
      by_cases hp : p = .reference
      · subst hp
        have hunread := h.resolve_left fun hne => hne rfl
        cases hread : Document.ofNode? root with
        | none => rfl
        | some d =>
          obtain ⟨r, hr⟩ := reads_of_stands hread hstands rfl
          rw [hunread] at hr
          cases hr
      · exact ofNode?_eq_none_of_unknown hstands hp
          (List.mem_append_right before List.mem_cons_self) hunknown
    exact ⟨hnone, fun path text htext => RuleSet.ofText_of_ofNode?_eq_none htext hnone path⟩
  · subst hp
    have hsame : Part.reference.Alike (.mapping tag (before ++ (key, v) :: after))
        (.mapping tag (before ++ after)) :=
      (Reference.ofNode?_unknown tag before after v htarget henabled).trans (if_pos hignored)
    refine ⟨hstands.exists_replaced _, fun root' hroot' => ?_⟩
    have hread : Document.ofNode? root = Document.ofNode? root' := (hroot'.alike hsame rfl).1
    exact ⟨hread, fun path text text' htext htext' => RuleSet.ofText_congr htext htext' hread path⟩

/-- A document with a misspelt tag is refused, and a misspelt key of a reference is not looked at. -/
theorem RuleSet.misspelt_tag_refused :
    RuleSet.ofText none "tga: t" = .error (.document (.malformed none)) ∧
    Reference.ofNode? (.mapping none [(.plain "ref", .plain "ta"), (.plain "enabld", .plain "false")]) =
      some { id := "ta" } := by
  have htext : Markup.readText? "tga: t".toList =
      some (some (.mapping none [(.plain "tga", .plain "t")])) := by cbv
  constructor
  · have hrefused := @Document.unknown_key_refused_or_ignored _ .document none [] [] (.plain "tga")
      (.plain "t") .root (by decide)
    exact (hrefused.1 (.inl (by decide))).2 none _ htext
  · have hignored := @Document.unknown_key_refused_or_ignored _ .reference none
      [(.plain "ref", .plain "ta")] [] (.plain "enabld") (.plain "false")
      (Document.stands_withTableReference _) (by decide)
    exact (hignored.2 rfl (by decide) (by decide)).1.trans (by decide)

set_option maxRecDepth 20000 in
/-- A reference that is disabled by a misspelt key is enabled. -/
theorem RuleSet.misspelt_reference_enabled :
    ∃ text entries key v, Markup.readText? text.toList =
        some (some (Document.withTableReference entries)) ∧
      Document.Stands (Document.withTableReference entries) .reference (.mapping none entries) ∧
      (key, v) ∈ entries ∧ Part.reference.Unknown key ∧
      ∃ s, RuleSet.ofText none text = .ok s ∧
        s.rules.map (fun r => (r.slots .table).reference) = [some { id := "ta", enabled := true }] := by
  have htext : Markup.readText? "rules: [{tag: t, table_match_ref: {ref: ta, enabld: false}}]".toList =
      some (some (Document.withTableReference
        [(.plain "ref", .plain "ta"), (.plain "enabld", .plain "false")])) := by cbv
  refine ⟨_, _, .plain "enabld", .plain "false", htext, Document.stands_withTableReference _,
    List.mem_cons_of_mem _ List.mem_cons_self, by decide, ?_⟩
  rw [RuleSet.ofText, Document.ofText?, htext]
  exact ⟨_, rfl, rfl⟩

end AggregateNaming
