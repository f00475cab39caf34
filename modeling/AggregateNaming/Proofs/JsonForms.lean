import AggregateNaming.Json.Form
import AggregateNaming.Proofs.Description

/-!
# Forms in JSON

Whatever has a JSON form is read back from the form that is written, and is read from other forms, too:
a structure from the list of its values, or with members that it does not have, a choice from a member
without a value, a case policy from its name with blanks around it. All forms of a type are listed here,
and a reader reads them and nothing else. So reading and writing makes one form of them all, which it
leaves as it is.

## Main definitions

- `Json.RoundTrips` : a writer and a reader belong together, and what the reader reads.
- `Json.IsChoice`, `Json.HasFields` : the forms of choices and of structures.
- `Casing.Form`, `Level.Form`, `Outcome.Form`, `Diagnostic.Form`, `TraceEntry.Form`, `Trace.Form` : the
  forms of everything that has one.

## Main statements

- `Json.choice?_eq_some_iff`, `Json.hasFields_iff` : what readers of choices and of structures read.
- `Json.RoundTrips.of_forms` : a reader of certain forms, and a writer of one of them, belong together.
- `json_forms_round_trip` : all writers and readers belong together.
-/

namespace AggregateNaming

namespace Json

variable {α : Type}

/-! ## §1 Writers and readers -/

/-- A writer and a reader belong together: what is written is read back, and a form that is read and
written again is left as it is from then on. The reader reads the given forms of a value, and nothing
else. -/
structure RoundTrips (write : α → Json) (read : Json → Option α) (Form : α → Json → Prop) : Prop where
  read_write : ∀ a, read (write a) = some a
  normal : ∀ x y, (read x).map write = some y → (read y).map write = some y
  forms : ∀ x a, read x = some a ↔ Form a x

/-- It is enough that the reader reads certain forms, and that what is written is one of them. -/
theorem RoundTrips.of_forms {write : α → Json} {read : Json → Option α} {Form : α → Json → Prop}
    (hread : ∀ x a, read x = some a ↔ Form a x) (hwrite : ∀ a, Form a (write a)) :
    RoundTrips write read Form := by
  have hback : ∀ a, read (write a) = some a := fun a => (hread _ a).mpr (hwrite a)
  refine ⟨hback, fun x y h => ?_, hread⟩
  obtain ⟨a, -, rfl⟩ := Option.map_eq_some_iff.mp h
  rw [hback, Option.map_some]

/-! ## §2 Texts, lists and choices -/

/-- A text has one form. -/
def TextOf (s : String) (x : Json) : Prop := x = .text s

theorem text?_eq_some_iff (x : Json) (s : String) : text? x = some s ↔ TextOf s x := by
  cases x <;> simp [text?, TextOf]

/-- A list has the lists of forms of its members. -/
def ListOf (Form : α → Json → Prop) (as : List α) (x : Json) : Prop :=
  ∃ items, x = .array items ∧ List.Forall₂ Form as items

theorem list?_eq_some_iff {read : Json → Option α} {Form : α → Json → Prop}
    (hread : ∀ x a, read x = some a ↔ Form a x) (x : Json) (as : List α) :
    list? read x = some as ↔ ListOf Form as x := by
  cases x with
  | array items =>
    rw [list?, mapM_eq_some_iff]
    constructor
    · intro h
      have hforms : List.Forall₂ (flip Form) items as := h.imp fun x a => (hread x a).mp
      exact ⟨items, rfl, hforms.flip⟩
    · rintro ⟨items', hitems, h⟩
      cases hitems
      have hforms : List.Forall₂ (flip Form) items as := h.flip
      exact hforms.imp fun x a => (hread x a).mpr
  | null => exact iff_of_false nofun nofun
  | bool b => exact iff_of_false nofun nofun
  | number literal => exact iff_of_false nofun nofun
  | text s => exact iff_of_false nofun nofun
  | object members => exact iff_of_false nofun nofun

/-- A choice is named, by a text or by a member without a value. -/
inductive IsChoice (name : String) : Json → Prop
  | alone : IsChoice name (.text name)
  | member : IsChoice name (.object [(name, .null)])

/-- A choice is found under its name, if no other one has the name. -/
theorem find?_name_eq_some_iff {all : List α} {name : α → String} (hall : ∀ a, a ∈ all)
    (hdistinct : Function.Injective name) {s : String} {a : α} :
    all.find? (name · == s) = some a ↔ s = name a := by
  constructor
  · intro h
    have hname : name a = s := by simpa using List.find?_some h
    exact hname.symm
  · rintro rfl
    obtain ⟨b, hb⟩ : ∃ b, all.find? (name · == name a) = some b := by
      rw [← Option.isSome_iff_exists, List.find?_isSome]
      exact ⟨a, hall a, beq_self_eq_true _⟩
    have hname : name b = name a := by simpa using List.find?_some hb
    rw [hb, hdistinct hname]

theorem choice?_eq_some_iff {all : List α} {name : α → String} (hall : ∀ a, a ∈ all)
    (hdistinct : Function.Injective name) (x : Json) (a : α) :
    choice? all name x = some a ↔ IsChoice (name a) x := by
  unfold choice?
  -- a text, an object with one member that is null, and everything else, which is no choice
  split
  next s =>
    rw [find?_name_eq_some_iff hall hdistinct]
    refine ⟨fun h => h ▸ .alone, fun h => ?_⟩
    cases h
    rfl
  next s =>
    rw [find?_name_eq_some_iff hall hdistinct]
    refine ⟨fun h => h ▸ .member, fun h => ?_⟩
    cases h
    rfl
  next hnotText hnotMember =>
    refine iff_of_false nofun fun h => ?_
    cases h with
    | alone => exact hnotText _ rfl
    | member => exact hnotMember _ rfl

/-! ## §3 Structures -/

/-- The value of a field must be there, and have one of its forms. -/
def Given (Form : α → Json → Prop) (a : α) (j : Option Json) : Prop := ∃ x, j = some x ∧ Form a x

/-- The value of a field may be null or absent, which stands for none. -/
def GivenOrNot (Form : α → Json → Prop) : Option α → Option Json → Prop
  | none, j => j = none ∨ j = some .null
  | some a, j => ∃ x, j = some x ∧ x ≠ .null ∧ Form a x

section Members

variable {read : Json → Option α} {Form : α → Json → Prop} {name : String}
  {members : List (String × Json)}

theorem required_eq_some_iff (hread : ∀ x a, read x = some a ↔ Form a x) {a : α} :
    required read name members = some a ↔ Given Form a (members.lookup name) := by
  simp only [required, Option.bind_eq_some_iff, hread]
  rfl

theorem optional_eq_some_iff (hread : ∀ x a, read x = some a ↔ Form a x) {a : Option α} :
    optional read name members = some a ↔ GivenOrNot Form a (members.lookup name) := by
  unfold optional
  -- the member is absent, is null, or has a value that must be read
  split
  next hlookup =>
    rw [hlookup]
    cases a with
    | none => exact iff_of_true rfl (.inl rfl)
    | some a => exact iff_of_false nofun nofun
  next hlookup =>
    rw [hlookup]
    cases a with
    | none => exact iff_of_true rfl (.inr rfl)
    | some a => exact iff_of_false nofun fun ⟨x, hx, hne, _⟩ => hne (Option.some.inj hx).symm
  next j hne hlookup =>
    rw [hlookup]
    cases a with
    | none =>
      refine iff_of_false (by simp) ?_
      rintro (h | h)
      · cases h
      · exact hne (Option.some.inj h)
    | some a =>
      rw [Option.map_eq_some_iff]
      constructor
      · rintro ⟨a', ha, haa⟩
        cases haa
        exact ⟨j, rfl, hne, (hread j a).mp ha⟩
      · rintro ⟨x, hx, -, ha⟩
        obtain rfl := Option.some.inj hx
        exact ⟨a, (hread j a).mpr ha, rfl⟩

end Members

/-- The forms of a structure, given what the values of its fields may be. -/
inductive HasFields (fields : List (String × (Option Json → Prop))) : Json → Prop
  /-- The values of all fields, in order. -/
  | list {items : List Json}
      (values : List.Forall₂ (fun field item => field.2 (some item)) fields items) :
      HasFields fields (.array items)
  /-- Members by name, none of the fields twice. Other members do not count. -/
  | object {members : List (String × Json)}
      (distinct : ∀ field ∈ fields, (members.filter (·.1 == field.1)).length ≤ 1)
      (values : ∀ field ∈ fields, field.2 (members.lookup field.1)) :
      HasFields fields (.object members)

/-- The values of a list are found under the names of the fields, in order. -/
theorem forall₂_values_iff {fields : List (String × (Option Json → Prop))} {items : List Json}
    (hdistinct : (fields.map (·.1)).Nodup) :
    List.Forall₂ (fun field item => field.2 (some item)) fields items ↔
      items.length = fields.length ∧
        ∀ field ∈ fields, field.2 (((fields.map (·.1)).zip items).lookup field.1) := by
  -- on the fields, each of which takes the first of the items that are left
  induction fields generalizing items with
  | nil => simp [List.forall₂_nil_left_iff]
  | cons field fields ih =>
    obtain ⟨hnew, hdistinct⟩ := List.nodup_cons.mp hdistinct
    cases items with
    | nil => exact iff_of_false nofun fun h => nomatch h.1
    | cons item items =>
      -- the names of the other fields are not that of the first one
      have hothers : ∀ field' ∈ fields, (((field :: fields).map (·.1)).zip (item :: items)).lookup
          field'.1 = ((fields.map (·.1)).zip items).lookup field'.1 := by
        intro field' hfield'
        have hne : field'.1 ≠ field.1 := by
          intro heq
          exact hnew (List.mem_map.mpr ⟨field', hfield', heq⟩)
        rw [List.map_cons, List.zip_cons_cons, List.lookup_cons, beq_false_of_ne hne]
      have hfirst : (((field :: fields).map (·.1)).zip (item :: items)).lookup field.1 = some item := by
        rw [List.map_cons, List.zip_cons_cons, List.lookup_cons, beq_self_eq_true]
      rw [List.forall₂_cons, ih hdistinct, List.forall_mem_cons, hfirst, List.length_cons,
        List.length_cons, Nat.add_right_cancel_iff, forall₂_congr fun field' hfield' => by
          rw [← hothers field' hfield']]
      exact and_left_comm

/-- A structure is read from its forms. -/
theorem hasFields_iff {fields : List (String × (Option Json → Prop))}
    (hdistinct : (fields.map (·.1)).Nodup) {x : Json} :
    HasFields fields x ↔ ∃ members, members? (fields.map (·.1)) x = some members ∧
      ∀ field ∈ fields, field.2 (members.lookup field.1) := by
  constructor
  · intro h
    cases h with
    | list values =>
      obtain ⟨hlength, hvalues⟩ := (forall₂_values_iff hdistinct).mp values
      exact ⟨_, by simp [members?, hlength], hvalues⟩
    | object distinct values =>
      exact ⟨_, by simpa [members?] using distinct, values⟩
  · rintro ⟨members, hmembers, hvalues⟩
    cases x with
    | array items =>
      obtain ⟨hlength, rfl⟩ : items.length = fields.length ∧ _ = members := by
        simpa [members?] using hmembers
      exact .list ((forall₂_values_iff hdistinct).mpr ⟨hlength, hvalues⟩)
    | object members' =>
      obtain ⟨hnames, rfl⟩ : _ ∧ members' = members := by
        simpa [members?] using hmembers
      exact .object (by simpa using hnames) hvalues
    | null => cases hmembers
    | bool b => cases hmembers
    | number literal => cases hmembers
    | text s => cases hmembers

end Json

/-! ## §4 The forms of everything -/

open Json (RoundTrips TextOf ListOf IsChoice HasFields Given GivenOrNot)

/-- A case policy has its names for forms, with blanks around them and in letters of either case. -/
def Casing.Form (c : Casing) (x : Json) : Prop := ∃ token, x = .text token ∧ c.IsNamedBy token

theorem Casing.ofJson?_eq_some_iff (x : Json) (c : Casing) : Casing.ofJson? x = some c ↔ c.Form x := by
  cases x with
  | text s =>
    have hread : Casing.ofJson? (.text s) = some c ↔ Casing.parse? s = .ok c := by
      rw [ofJson?]
      cases Casing.parse? s <;> simp [Except.toOption]
    rw [hread, Casing.parse?_eq_ok_iff]
    exact ⟨fun hnamed => ⟨s, rfl, hnamed⟩, fun ⟨_, htoken, hnamed⟩ => Json.text.inj htoken ▸ hnamed⟩
  | null => exact iff_of_false nofun nofun
  | bool b => exact iff_of_false nofun nofun
  | number literal => exact iff_of_false nofun nofun
  | array items => exact iff_of_false nofun nofun
  | object members => exact iff_of_false nofun nofun

/-- A severity has the forms of a choice. -/
def Level.Form (l : Level) : Json → Prop := IsChoice l.name

theorem Level.ofJson?_eq_some_iff : ∀ (x : Json) (l : Level), Level.ofJson? x = some l ↔ l.Form x :=
  Json.choice?_eq_some_iff (fun l => by cases l <;> decide)
    fun a b => by cases a <;> cases b <;> decide

/-- So does an outcome. -/
def Outcome.Form (o : Outcome) : Json → Prop := IsChoice o.name

theorem Outcome.ofJson?_eq_some_iff :
    ∀ (x : Json) (o : Outcome), Outcome.ofJson? x = some o ↔ o.Form x :=
  Json.choice?_eq_some_iff (fun o => by cases o <;> decide)
    fun a b => by cases a <;> cases b <;> decide

/-- A diagnostic has the forms of a structure of three values. -/
def Diagnostic.Form (d : Diagnostic) : Json → Prop :=
  HasFields [("level", Given Level.Form d.level), ("context", Given TextOf d.context),
    ("message", Given TextOf d.message)]

theorem Diagnostic.ofJson?_eq_some_iff (x : Json) (d : Diagnostic) :
    Diagnostic.ofJson? x = some d ↔ d.Form x := by
  rw [Form, Json.hasFields_iff (by simp)]
  simp only [ofJson?, Option.bind_eq_bind, Option.bind_eq_some_iff,
    Json.required_eq_some_iff Level.ofJson?_eq_some_iff,
    Json.required_eq_some_iff Json.text?_eq_some_iff, List.forall_mem_cons]
  constructor
  · rintro ⟨members, hmembers, level, hlevel, context, hcontext, message, hmessage, h⟩
    cases h
    exact ⟨members, hmembers, hlevel, hcontext, hmessage, nofun⟩
  · rintro ⟨members, hmembers, hlevel, hcontext, hmessage, -⟩
    exact ⟨members, hmembers, _, hlevel, _, hcontext, _, hmessage, rfl⟩

/-- So does what is said of a pattern in a trace. -/
def TraceEntry.Form (e : TraceEntry) : Json → Prop :=
  HasFields [("pattern_id", Given TextOf e.id), ("pattern", Given TextOf e.text),
    ("result", Given Outcome.Form e.outcome)]

theorem TraceEntry.ofJson?_eq_some_iff (x : Json) (e : TraceEntry) :
    TraceEntry.ofJson? x = some e ↔ e.Form x := by
  rw [Form, Json.hasFields_iff (by simp)]
  simp only [ofJson?, Option.bind_eq_bind, Option.bind_eq_some_iff,
    Json.required_eq_some_iff Outcome.ofJson?_eq_some_iff,
    Json.required_eq_some_iff Json.text?_eq_some_iff, List.forall_mem_cons]
  constructor
  · rintro ⟨members, hmembers, id, hid, text, htext, outcome, houtcome, h⟩
    cases h
    exact ⟨members, hmembers, hid, htext, houtcome, nofun⟩
  · rintro ⟨members, hmembers, hid, htext, houtcome, -⟩
    exact ⟨members, hmembers, _, hid, _, htext, _, houtcome, rfl⟩

/-- So does a trace, which need not have the id of a pattern that accepted the name. -/
def Trace.Form (t : Trace) : Json → Prop :=
  HasFields [("candidate", Given TextOf t.name), ("matched_pattern", GivenOrNot TextOf t.matchedBy),
    ("trace", Given (ListOf TraceEntry.Form) t.entries)]

theorem Trace.ofJson?_eq_some_iff (x : Json) (t : Trace) : Trace.ofJson? x = some t ↔ t.Form x := by
  rw [Form, Json.hasFields_iff (by simp)]
  simp only [ofJson?, Option.bind_eq_bind, Option.bind_eq_some_iff,
    Json.required_eq_some_iff Json.text?_eq_some_iff,
    Json.optional_eq_some_iff Json.text?_eq_some_iff,
    Json.required_eq_some_iff (Json.list?_eq_some_iff TraceEntry.ofJson?_eq_some_iff),
    List.forall_mem_cons]
  constructor
  · rintro ⟨members, hmembers, name, hname, matchedBy, hmatchedBy, entries, hentries, h⟩
    cases h
    exact ⟨members, hmembers, hname, hmatchedBy, hentries, nofun⟩
  · rintro ⟨members, hmembers, hname, hmatchedBy, hentries, -⟩
    exact ⟨members, hmembers, _, hname, _, hmatchedBy, _, hentries, rfl⟩

/-! ## §5 What is written is one of the forms -/

theorem Diagnostic.form_toJson (d : Diagnostic) : d.Form d.toJson := by
  refine .object (by simp) ?_
  simp only [List.forall_mem_cons]
  exact ⟨⟨_, rfl, .alone⟩, ⟨_, rfl, rfl⟩, ⟨_, rfl, rfl⟩, nofun⟩

theorem TraceEntry.form_toJson (e : TraceEntry) : e.Form e.toJson := by
  refine .object (by simp) ?_
  simp only [List.forall_mem_cons]
  exact ⟨⟨_, rfl, rfl⟩, ⟨_, rfl, rfl⟩, ⟨_, rfl, .alone⟩, nofun⟩

theorem Trace.form_toJson (t : Trace) : t.Form t.toJson := by
  obtain ⟨name, matchedBy, entries⟩ := t
  have hentries : ListOf TraceEntry.Form entries (.array (entries.map (·.toJson))) := by
    refine ⟨_, rfl, ?_⟩
    rw [List.forall₂_map_right_iff, List.forall₂_same]
    exact fun e _ => e.form_toJson
  cases matchedBy with
  | none =>
    refine .object (by simp) ?_
    simp only [List.forall_mem_cons]
    exact ⟨⟨_, rfl, rfl⟩, .inl rfl, ⟨_, rfl, hentries⟩, nofun⟩
  | some id =>
    refine .object (by simp) ?_
    simp only [List.forall_mem_cons]
    exact ⟨⟨_, rfl, rfl⟩, ⟨_, rfl, nofun, rfl⟩, ⟨_, rfl, hentries⟩, nofun⟩

/-- Everything that has a JSON form is read back from the form that is written, and whatever form it is
read from, writing it makes a form that is left as it is from then on: case policies, severities,
diagnostics, ids and tags, which are texts, outcomes, what is said of a pattern in a trace, and traces. -/
theorem json_forms_round_trip :
    RoundTrips Casing.toJson Casing.ofJson? Casing.Form ∧
    RoundTrips Level.toJson Level.ofJson? Level.Form ∧
    RoundTrips Diagnostic.toJson Diagnostic.ofJson? Diagnostic.Form ∧
    RoundTrips Json.text Json.text? TextOf ∧
    RoundTrips Outcome.toJson Outcome.ofJson? Outcome.Form ∧
    RoundTrips TraceEntry.toJson TraceEntry.ofJson? TraceEntry.Form ∧
    RoundTrips Trace.toJson Trace.ofJson? Trace.Form :=
  ⟨.of_forms Casing.ofJson?_eq_some_iff fun c => ⟨c.token, rfl, by cases c <;> rfl⟩,
    .of_forms Level.ofJson?_eq_some_iff fun _ => .alone,
    .of_forms Diagnostic.ofJson?_eq_some_iff Diagnostic.form_toJson,
    .of_forms Json.text?_eq_some_iff fun _ => rfl,
    .of_forms Outcome.ofJson?_eq_some_iff fun _ => .alone,
    .of_forms TraceEntry.ofJson?_eq_some_iff TraceEntry.form_toJson,
    .of_forms Trace.ofJson?_eq_some_iff Trace.form_toJson⟩

/-- A trace without a match, as the list of its values. -/
example : (Trace.ofJson? (.array [.text "a", .null, .array []])).map Trace.toJson =
    some (.object [("candidate", .text "a"), ("trace", .array [])]) := rfl

end AggregateNaming
