import AggregateNaming.RuleSet

/-!
# Rule documents

What a rule document says: the pooled objects of every kind and the rules, with case policies still
by name and with everything that may be left out left out.

- `Document` : what a document says.
- `Document.compile` : the rule set that a document describes.
-/

namespace AggregateNaming

/-! ## §1 Entries -/

/-- What a document says of one name. -/
structure FixedNameEntry where
  id : String := ""
  enabled : Bool := true
  casing : Option String := none
  name : Option String := none
  deriving Repr, DecidableEq

/-- What a document says of derived names. -/
structure DerivedNameEntry where
  id : String := ""
  enabled : Bool := true
  casing : Option String := none
  basename : Option String := none
  before : Option String := none
  after : Option String := none
  deriving Repr, DecidableEq

/-- What a document says of a template. -/
structure TemplateEntry where
  id : String
  enabled : Bool := true
  casing : Option String := none
  text : String
  space : Option String := none
  dot : Option String := none
  deriving Repr, DecidableEq

/-- What a document says of names by templates. -/
structure TemplateMapEntry where
  id : String := ""
  enabled : Bool := true
  casing : Option String := none
  templates : List TemplateEntry := []
  deriving Repr, DecidableEq

/-- What a document says of an object of a kind. -/
abbrev Kind.Entry : Kind → Type
  | factCount => FixedNameEntry
  | foreignKey => DerivedNameEntry
  | table => DerivedNameEntry
  | level => TemplateMapEntry
  | measure => TemplateMapEntry
  | ignore => TemplateMapEntry

/-- Equality of entries can be decided. -/
instance : (k : Kind) → DecidableEq k.Entry
  | .factCount => inferInstanceAs (DecidableEq FixedNameEntry)
  | .foreignKey => inferInstanceAs (DecidableEq DerivedNameEntry)
  | .table => inferInstanceAs (DecidableEq DerivedNameEntry)
  | .level => inferInstanceAs (DecidableEq TemplateMapEntry)
  | .measure => inferInstanceAs (DecidableEq TemplateMapEntry)
  | .ignore => inferInstanceAs (DecidableEq TemplateMapEntry)

/-- What a document says of a slot. -/
structure SlotEntry (k : Kind) where
  inlined : Option k.Entry := none
  reference : Option Reference := none
  deriving DecidableEq

/-- What a document says of a rule. -/
structure RuleEntry where
  tag : String
  isDefault : Bool := false
  enabled : Bool := true
  countColumn : Option String := none
  slots : (k : Kind) → SlotEntry k := fun _ => {}

/-- Equality of what is said of rules can be decided. -/
instance : DecidableEq RuleEntry := fun a b =>
  decidable_of_iff (a.tag = b.tag ∧ a.isDefault = b.isDefault ∧ a.enabled = b.enabled ∧
    a.countColumn = b.countColumn ∧ a.slots = b.slots) (by cases a; cases b; simp)

/-- What a document says. -/
structure Document where
  tag : Option String := none
  pools : (k : Kind) → List k.Entry := fun _ => []
  rules : List RuleEntry := []

/-- Equality of documents can be decided. -/
instance : DecidableEq Document := fun a b =>
  decidable_of_iff (a.tag = b.tag ∧ a.pools = b.pools ∧ a.rules = b.rules)
    (by cases a; cases b; simp)

/-! ## §2 The objects that entries describe -/

/-- The case policy with a name, where one is given. -/
def compileCasing : Option String → Except DocumentError (Option Casing)
  | none => .ok none
  | some token =>
    match Casing.parse? token with
    | .ok c => .ok (some c)
    | .error cause => .error (.unknownCasing cause)

namespace FixedNameEntry

/-- The object that an entry describes. -/
def compile (e : FixedNameEntry) : Except DocumentError FixedName := do
  let casing ← compileCasing e.casing
  let absent : FixedName := {}
  return { id := e.id, enabled := e.enabled, casing := casing.getD absent.casing,
           name := e.name.getD absent.name }

end FixedNameEntry

namespace DerivedNameEntry

/-- The object that an entry describes. -/
def compile (e : DerivedNameEntry) : Except DocumentError DerivedName := do
  let casing ← compileCasing e.casing
  let absent : DerivedName := {}
  return { id := e.id, enabled := e.enabled, casing := casing.getD absent.casing,
           basename := e.basename, before := e.before, after := e.after }

end DerivedNameEntry

namespace TemplateEntry

/-- The template that an entry describes. -/
def compile (e : TemplateEntry) : Except DocumentError Template := do
  let casing ← compileCasing e.casing
  return { id := e.id, enabled := e.enabled, casing, text := e.text, space := e.space, dot := e.dot }

end TemplateEntry

namespace TemplateMapEntry

/-- The object that an entry describes. -/
def compile (e : TemplateMapEntry) : Except DocumentError TemplateMap := do
  let casing ← compileCasing e.casing
  let templates ← e.templates.mapM (·.compile)
  return { id := e.id, enabled := e.enabled, casing, templates }

end TemplateMapEntry

/-- The object that an entry describes. -/
def Kind.compile : (k : Kind) → k.Entry → Except DocumentError k.Object
  | factCount, e => FixedNameEntry.compile e
  | foreignKey, e => DerivedNameEntry.compile e
  | table, e => DerivedNameEntry.compile e
  | level, e => TemplateMapEntry.compile e
  | measure, e => TemplateMapEntry.compile e
  | ignore, e => TemplateMapEntry.compile e

/-! ## §3 The rule set that a document describes -/

/-- The slot that an entry describes. -/
def SlotEntry.compile (e : SlotEntry k) : Except DocumentError (Slot k) :=
  match e.inlined with
  | none => .ok { reference := e.reference }
  | some o => do
    let o ← k.compile o
    return { inlined := some o, reference := e.reference }

/-- The rule that an entry describes. -/
def RuleEntry.compile (e : RuleEntry) : Except DocumentError Rule := do
  let slots ← Kind.forEach fun k => (e.slots k).compile
  return { tag := e.tag, enabled := e.enabled, isDefault := e.isDefault,
           countColumn := e.countColumn, slots }

namespace Document

/-- The tag of a document that has none. -/
def defaultTag : String := "default"

/-- A rule set with the object of one more entry. -/
def addEntry (k : Kind) (s : RuleSet) (e : k.Entry) : Except DocumentError RuleSet := do
  let o ← k.compile e
  match s.add k o with
  | .ok s' => return s'
  | .error .blankId => throw (.blankId k)
  | .error (.takenId id) => throw (.duplicateId k id)

/-- A rule set with the objects of all entries of a kind. -/
def addPool (entries : (k : Kind) → List k.Entry) (s : RuleSet) (k : Kind) :
    Except DocumentError RuleSet :=
  (entries k).foldlM (addEntry k) s

/-- The rule set that a document describes. Pools come first, kind by kind, and then the rules; the
first offence on the way is the answer. -/
def compile (d : Document) : Except DocumentError RuleSet := do
  let s ← Kind.all.foldlM (addPool d.pools) { tag := d.tag.getD defaultTag }
  let rules ← d.rules.mapM (·.compile)
  return { s with rules }

end Document

end AggregateNaming
