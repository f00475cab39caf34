import AggregateNaming.Document
import AggregateNaming.Markup.Draft
import AggregateNaming.Markup.Value

/-!
# Reading rule documents

What a rule document says, from the tree of its text. Every mapping has its fields, and nothing but
those may be in it.

- `Fields` : the entries of a mapping by name.
- `Document.ofNode?` : what the tree of a document says.
- `RuleSet.ofText` : the rule set that the text of a document describes.
-/

namespace AggregateNaming

open Markup (Node Scalar)

/-! ## §1 Fields -/

/-- The entries of a mapping by name. -/
abbrev Fields := List (String × Node)

namespace Fields

/-- The text of a scalar, whatever its tag. -/
def text? : Node → Option String
  | .scalar s => some s.text
  | _ => none

/-- The truth value that a scalar without marks is a word for. An indented one may be too, if it has
the tag for it. -/
def bool? : Node → Option Bool
  | .scalar s =>
    if s.style == .plain || (s.style == .literal && s.tag == some (Markup.coreTag ++ "bool")) then
      Markup.boolWord? s.text
    else none
  | _ => none

/-- Whether a scalar without marks stands for nothing. With the tag for nothing, it must. -/
def isAbsent? : Node → Option Bool
  | .scalar s =>
    if s.style != .plain then some false
    else
      match s.tag with
      | none => some (s.text.isEmpty || Markup.isNullWord s.text)
      | some tag =>
        if tag == Markup.coreTag ++ "null" then
          if Markup.isNullWord s.text then some true else none
        else some false
  | _ => some false

/-- Reads a node that may stand for nothing. -/
def optional (read : Node → Option α) (n : Node) : Option (Option α) := do
  if ← isAbsent? n then return none
  else return some (← read n)

/-- Whether nothing is written where a node should be. -/
def isEmptyScalar (s : Scalar) : Bool := s.style == .plain && s.text.isEmpty

/-- Reads the items of a sequence. Where nothing is written, there are none. -/
def items (read : Node → Option α) : Node → Option (List α)
  | .sequence _ ns => ns.mapM read
  | .scalar s => if isEmptyScalar s then some [] else none
  | .mapping _ _ => none

/-- The entries of a mapping by name. Only the names that are `known` may be there, each of them once.
Where nothing is written, there are none. -/
def ofNode? (known : List String) : Node → Option Fields
  | .mapping _ entries => do
    let fields ← entries.mapM fun (k, v) => (text? k).map (·, v)
    let names := fields.map (·.1)
    if names.all known.contains && names.eraseDups.length == names.length then some fields else none
  | .scalar s => if isEmptyScalar s then some [] else none
  | .sequence _ _ => none

/-- The value of a field, or that of its absence. -/
def get (fields : Fields) (name : String) (read : Node → Option α) (absent : Option α) : Option α :=
  match fields.lookup name with
  | some n => read n
  | none => absent

/-- The text of a field that may be absent. -/
def optionalText (fields : Fields) (name : String) : Option (Option String) :=
  fields.get name (optional text?) (some none)

/-- Whether an object is enabled: it is, unless told otherwise. -/
def enabled (fields : Fields) : Option Bool := fields.get "enabled" bool? (some true)

/-- The id of an object that need not have one. -/
def id (fields : Fields) : Option String := fields.get "id" text? (some "")

end Fields

/-! ## §2 Entries -/

/-- Reads what is said of one name. -/
def FixedNameEntry.ofNode? (n : Node) : Option FixedNameEntry := do
  let f ← Fields.ofNode? ["id", "enabled", "char_case", "fact_count_name"] n
  return { id := ← f.id, enabled := ← f.enabled, casing := ← f.optionalText "char_case",
           name := ← f.optionalText "fact_count_name" }

/-- Reads what is said of derived names. -/
def DerivedNameEntry.ofNode? (n : Node) : Option DerivedNameEntry := do
  let f ← Fields.ofNode?
    ["id", "enabled", "char_case", "basename", "pretemplate", "posttemplate"] n
  return { id := ← f.id, enabled := ← f.enabled, casing := ← f.optionalText "char_case",
           basename := ← f.optionalText "basename", before := ← f.optionalText "pretemplate",
           after := ← f.optionalText "posttemplate" }

/-- Reads what is said of a template. It must have an id and a text. -/
def TemplateEntry.ofNode? (n : Node) : Option TemplateEntry := do
  let f ← Fields.ofNode? ["id", "enabled", "char_case", "template", "space", "dot"] n
  return { id := ← f.get "id" Fields.text? none, enabled := ← f.enabled,
           casing := ← f.optionalText "char_case", text := ← f.get "template" Fields.text? none,
           space := ← f.optionalText "space", dot := ← f.optionalText "dot" }

/-- Reads what is said of names by templates. -/
def TemplateMapEntry.ofNode? (n : Node) : Option TemplateMapEntry := do
  let f ← Fields.ofNode? ["id", "enabled", "char_case", "templates"] n
  return { id := ← f.id, enabled := ← f.enabled, casing := ← f.optionalText "char_case",
           templates := ← f.get "templates" (Fields.items TemplateEntry.ofNode?) (some []) }

/-- Reads what is said of an object of a kind. -/
def Kind.entryOfNode? : (k : Kind) → Node → Option k.Entry
  | factCount => FixedNameEntry.ofNode?
  | foreignKey => DerivedNameEntry.ofNode?
  | table => DerivedNameEntry.ofNode?
  | level => TemplateMapEntry.ofNode?
  | measure => TemplateMapEntry.ofNode?
  | ignore => TemplateMapEntry.ofNode?

/-! ## §3 References -/

/-- What a scalar stands for where no type is asked for. -/
def Fields.value? : Node → Option Markup.Value
  | .scalar s => s.value?
  | _ => none

/-- The fields of the long form of a reference. -/
inductive ReferenceField where
  | target
  | enabled
  /-- Any other field, which does not count. -/
  | other
  deriving Repr, DecidableEq

/-- The field that a key names, by its name or by its number. -/
def ReferenceField.ofNode? (n : Node) : Option ReferenceField :=
  match Fields.value? n with
  | some (.text "ref") => some target
  | some (.text "enabled") => some enabled
  | some (.text _) => some other
  | some (.natural 0) => some target
  | some (.natural 1) => some enabled
  | some (.natural _) => some other
  | _ => none

/-- The values of one field among those of a reference, each of which must be a value of its type. -/
def Reference.fieldValues (field : ReferenceField) (read : Markup.Value → Option α)
    (entries : List (ReferenceField × Node)) : Option (List α) :=
  (entries.filter (·.1 == field)).mapM fun e => (Fields.value? e.2).bind read

/-- The text that a value is. -/
def Reference.textValue? : Markup.Value → Option String
  | .text s => some s
  | _ => none

/-- The truth value that a value is. -/
def Reference.boolValue? : Markup.Value → Option Bool
  | .bool b => some b
  | _ => none

/-- Reads a reference: an id alone, or the long form, a mapping with the id and whether the reference is
enabled. An id must stand for a text, and every part of the long form for something. -/
def Reference.ofNode? (n : Node) : Option Reference :=
  match n with
  | .scalar s => do return { id := ← textValue? (← s.value?) }
  | .sequence _ _ => none
  | .mapping _ entries => do
    if n.hasValue then
      let fields ← entries.mapM fun (k, v) => (ReferenceField.ofNode? k).map (·, v)
      match ← fieldValues .target textValue? fields, ← fieldValues .enabled boolValue? fields with
      | [id], [] => return { id }
      | [id], [enabled] => return { id, enabled }
      | _, _ => none
    else none

/-! ## §4 Rules and documents -/

/-- The field for an object declared in a slot. -/
def Kind.slotField : Kind → String
  | factCount => "fact_count_match"
  | foreignKey => "foreign_key_match"
  | table => "table_match"
  | level => "level_map"
  | measure => "measure_map"
  | ignore => "ignore_map"

/-- The field for a reference declared in a slot. -/
def Kind.referenceField (k : Kind) : String := k.slotField ++ "_ref"

/-- The field for the pooled objects of a kind. -/
def Kind.poolField : Kind → String
  | factCount => "fact_count_matches"
  | foreignKey => "foreign_key_matches"
  | table => "table_matches"
  | level => "level_maps"
  | measure => "measure_maps"
  | ignore => "ignore_maps"

/-- Reads what is said of a slot. -/
def SlotEntry.ofFields? (k : Kind) (f : Fields) : Option (SlotEntry k) := do
  return { inlined := ← f.get k.slotField (Fields.optional k.entryOfNode?) (some none),
           reference := ← f.get k.referenceField (Fields.optional Reference.ofNode?) (some none) }

/-- The fields of a rule. -/
def RuleEntry.known : List String :=
  ["tag", "default", "enabled", "count_column"]
    ++ Kind.slotOrder.flatMap fun k => [k.slotField, k.referenceField]

/-- Computes something for every kind, unless one of the computations has no answer. -/
def Kind.forEach? {β : Kind → Type} (compute : (k : Kind) → Option (β k)) :
    Option ((k : Kind) → β k) :=
  (Kind.forEach fun k => (compute k).elim (Except.error ()) .ok).toOption

/-- Reads what is said of a rule. It must have a tag. -/
def RuleEntry.ofNode? (n : Node) : Option RuleEntry := do
  let f ← Fields.ofNode? known n
  return { tag := ← f.get "tag" Fields.text? none,
           isDefault := ← f.get "default" Fields.bool? (some false), enabled := ← f.enabled,
           countColumn := ← f.optionalText "count_column",
           slots := ← Kind.forEach? (SlotEntry.ofFields? · f) }

namespace Document

/-- The fields of a document. -/
def known : List String := ["tag", "rules"] ++ Kind.all.map Kind.poolField

/-- Reads what a document says from its tree. -/
def ofNode? (n : Node) : Option Document := do
  let f ← Fields.ofNode? known n
  return { tag := ← f.optionalText "tag",
           pools := ← Kind.forEach? fun k =>
             f.get k.poolField (Fields.items k.entryOfNode?) (some []),
           rules := ← f.get "rules" (Fields.items RuleEntry.ofNode?) (some []) }

/-- Reads what a document says from its text. A text without a document says nothing. -/
def ofText? (text : String) : Option Document := do
  match ← Markup.readText? text.toList with
  | none => return {}
  | some n => ofNode? n

end Document

/-- The rule set that the text of a document describes. The file of the text is named in errors, where
one is known. -/
def RuleSet.ofText (path : Option String) (text : String) : Except RuleError RuleSet :=
  match Document.ofText? text with
  | none => .error (.document (.malformed path))
  | some d => d.compile.mapError .document

/-- The rule set that a file describes, given what there is to read under its path. -/
def RuleSet.ofFile (path : String) (content : Except ReadError String) :
    Except RuleError RuleSet :=
  match content with
  | .ok text => RuleSet.ofText (some path) text
  | .error reason => .error (.document (.unreadable path reason))

/-- The endings of the names of files that hold rule documents. -/
def Document.extensions : List String := ["yaml", "yml"]

end AggregateNaming
