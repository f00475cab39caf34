/-!
# Kinds of rule objects

A rule names its parts by six objects, one of each kind. Kinds index everything that exists once per
kind: the pools of a rule set, the slots of a rule, and the objects themselves.

- `Kind.label` : the name of a kind in messages.
- `Kind.placeholders` : the names that templates of a kind may use.
-/

namespace AggregateNaming

/-- What a rule object names. -/
inductive Kind where
  /-- The column that counts facts. -/
  | factCount
  /-- The columns that are foreign keys. -/
  | foreignKey
  /-- The aggregate tables themselves. -/
  | table
  /-- The columns of levels. -/
  | level
  /-- The columns of measures. -/
  | measure
  /-- The columns that are left alone. -/
  | ignore
  deriving Repr, DecidableEq

namespace Kind

/-- All kinds, in the order in which the pools of a rule set are visited. -/
def all : List Kind := [factCount, foreignKey, table, level, measure, ignore]

/-- All kinds, in the order in which the slots of a rule are visited. -/
def slotOrder : List Kind := [ignore, factCount, foreignKey, table, level, measure]

/-- The name of a kind in messages. -/
def label : Kind → String
  | factCount => "FactCountMatch"
  | foreignKey => "ForeignKeyMatch"
  | table => "TableMatch"
  | level => "LevelMap"
  | measure => "MeasureMap"
  | ignore => "IgnoreMap"

/-- The names that templates of a kind may use, in the order in which messages list them. -/
def placeholders : Kind → List String
  | level => ["usage_prefix", "hierarchy_name", "level_name", "level_column_name"]
  | measure => ["measure_name", "measure_column_name", "aggregate_name"]
  | _ => []

/-- Whether a rule must have an object of a kind. -/
def isMandatory : Kind → Bool
  | ignore => false
  | _ => true

/-- Computes something for every kind, in the order in which the slots of a rule are visited. The
first computation that fails is the answer. -/
def forEach {β : Kind → Type} (compute : (k : Kind) → Except ε (β k)) :
    Except ε ((k : Kind) → β k) := do
  let ofIgnore ← compute ignore
  let ofFactCount ← compute factCount
  let ofForeignKey ← compute foreignKey
  let ofTable ← compute table
  let ofLevel ← compute level
  let ofMeasure ← compute measure
  return fun
    | factCount => ofFactCount
    | foreignKey => ofForeignKey
    | table => ofTable
    | level => ofLevel
    | measure => ofMeasure
    | ignore => ofIgnore

/-- Every kind is among all kinds. -/
theorem mem_all (k : Kind) : k ∈ Kind.all := by
  cases k <;> decide

/-- What is given for every kind can be compared kind by kind. -/
instance {β : Kind → Type} [∀ k, DecidableEq (β k)] : DecidableEq ((k : Kind) → β k) :=
  fun f g =>
    decidable_of_iff (∀ k ∈ Kind.all, f k = g k)
      ⟨fun h => funext fun k => h k k.mem_all, fun h k _ => congrFun h k⟩

end Kind

end AggregateNaming
