import AggregateNaming.Slot

/-!
# Rules

A rule says how the parts of an aggregate table are named: a slot for an object of each kind, under a
tag.

- `Rule.recognizer` : the recognizer that a rule has for a request.
- `Rule.check` : what validation has to say about a rule.
- `Rule.resolve` : a rule with its slots bound.
-/

namespace AggregateNaming

/-! ## §1 Requests -/

/-- The names of a level that templates can use. -/
structure LevelNames where
  usagePrefix : Option String := none
  hierarchy : String
  level : String
  column : String
  deriving Repr, DecidableEq

/-- The values of placeholders for a level. -/
def LevelNames.values (n : LevelNames) : List (String × String) := [
  ("usage_prefix", n.usagePrefix.getD ""), ("hierarchy_name", n.hierarchy),
  ("level_name", n.level), ("level_column_name", n.column)]

/-- The names of a measure that templates can use. -/
structure MeasureNames where
  measure : String
  column : String
  aggregate : String
  deriving Repr, DecidableEq

/-- The values of placeholders for a measure. -/
def MeasureNames.values (n : MeasureNames) : List (String × String) := [
  ("measure_name", n.measure), ("measure_column_name", n.column), ("aggregate_name", n.aggregate)]

/-- What a recognizer is asked of a rule for. -/
inductive Request where
  /-- The column that counts facts. -/
  | factCount
  /-- The column for a foreign key of the fact table. -/
  | foreignKey (key : String)
  /-- The aggregate tables of a fact table. -/
  | table (fact : String)
  /-- The column for a level. -/
  | level (names : LevelNames)
  /-- The column for a measure. -/
  | measure (names : MeasureNames)
  /-- The columns that are left alone. -/
  | ignore
  deriving Repr, DecidableEq

/-- The kind of object that answers a request. -/
def Request.kind : Request → Kind
  | factCount => .factCount
  | foreignKey _ => .foreignKey
  | table _ => .table
  | level _ => .level
  | measure _ => .measure
  | ignore => .ignore

/-! ## §2 Rules -/

/-- How the parts of an aggregate table are named. -/
structure Rule where
  tag : String
  enabled : Bool := true
  /-- Whether this is the rule where no tag is given. -/
  isDefault : Bool := false
  /-- The name of the column that counts facts, in place of the one that its object has. -/
  countColumn : Option String := none
  slots : (k : Kind) → Slot k := fun _ => {}

namespace Rule

/-- Whether this rule is the one where no tag is given. -/
def isUsableDefault (r : Rule) : Bool := r.enabled && r.isDefault

/-- The object that a slot has been bound to. -/
def boundTo (r : Rule) (k : Kind) : Except RuleError k.Object :=
  match (r.slots k).bound with
  | some o => .ok o
  | none => .error (.unresolved r.tag k)

/-- The recognizer for a request. -/
def recognizer (r : Rule) : Request → Except RuleError Recognizer
  | .factCount => do
    let o ← r.boundTo .factCount
    match r.countColumn with
    | some column => o.recognizerFor column
    | none => o.recognizer
  | .foreignKey key => do (← r.boundTo .foreignKey).recognizer key
  | .table fact => do (← r.boundTo .table).recognizer fact
  | .level names => do (← r.boundTo .level).recognizer names.values
  | .measure names => do (← r.boundTo .measure).recognizer names.values
  | .ignore =>
    match (r.slots .ignore).bound with
    | some o => TemplateMap.recognizer o []
    | none => .ok .never

/-- A name for the column that counts facts must not be blank. -/
def checkCountColumn (r : Rule) : Check Bool := do
  if r.countColumn.any Text.isBlankText then
    Check.error "count column is empty"
    return false
  else return true

/-- Every slot must be in order, and so must the name for the column that counts facts. -/
def check (lookup : (k : Kind) → String → Option k.Object) (r : Rule) : Check Bool := do
  let slotsOk ← Check.every (fun k => (r.slots k).check (lookup k)) Kind.slotOrder
  let columnOk ← r.checkCountColumn
  return slotsOk && columnOk

/-- The rule with its slots bound, unless it is not enabled. -/
def resolve (lookup : (k : Kind) → String → Option k.Object) (r : Rule) : Rule :=
  if r.enabled then { r with slots := fun k => (r.slots k).resolve (lookup k) } else r

end Rule

end AggregateNaming
