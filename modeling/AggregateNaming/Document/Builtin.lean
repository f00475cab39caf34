import AggregateNaming.Document.Read

/-!
# The built-in document

Rules for aggregate tables named `agg_`, anything, `_` and the name of the fact table. Foreign keys
keep the names of the fact table's columns. Columns of levels are named after the hierarchy and the
level, the hierarchy and the column, the usage and the column, or the column alone; those of measures
after the measure, its column, or its column and the aggregate function.
-/

namespace AggregateNaming

namespace Document

/-- The templates of the built-in document for levels. -/
def builtinLevels : List TemplateEntry := [
  { id := "logical", text := "$\x7bhierarchy_name\x7d_$\x7blevel_name\x7d" },
  { id := "mixed", text := "$\x7bhierarchy_name\x7d_$\x7blevel_column_name\x7d" },
  { id := "usage", text := "$\x7busage_prefix\x7d$\x7blevel_column_name\x7d" },
  { id := "physical", text := "$\x7blevel_column_name\x7d" }]

/-- The templates of the built-in document for measures. -/
def builtinMeasures : List TemplateEntry := [
  { id := "one", text := "$\x7bmeasure_name\x7d" },
  { id := "two", text := "$\x7bmeasure_column_name\x7d" },
  { id := "three", text := "$\x7bmeasure_column_name\x7d_$\x7baggregate_name\x7d" }]

/-- The id of the built-in object of a kind. -/
def builtinId : Kind → String
  | .factCount => "fca"
  | .foreignKey => "fka"
  | .table => "ta"
  | .level => "lxx"
  | .measure => "mxx"
  | .ignore => "ixx"

/-- What the built-in document says. -/
def builtin : Document where
  tag := some "default"
  pools
    | .factCount => [{ id := builtinId .factCount, name := some "fact_count" }]
    | .foreignKey => [{ id := builtinId .foreignKey }]
    | .table => [{ id := builtinId .table, before := some "agg_.+_" }]
    | .level => [{ id := builtinId .level, templates := builtinLevels }]
    | .measure => [{ id := builtinId .measure, templates := builtinMeasures }]
    | .ignore => [{ id := builtinId .ignore }]
  rules := [{
    tag := "default", isDefault := true,
    slots := fun k => { reference := some { id := builtinId k } } }]

/-- The lines of the built-in document. -/
def builtinLines : List String := [
  "# Built-in aggregate recognition rules.",
  "#",
  "# Aggregate tables are named agg_<anything>_<fact table>. Foreign keys keep",
  "# the fact table's column name. Level columns may be named after the",
  "# hierarchy and level, the hierarchy and column, the usage prefix and column,",
  "# or the column alone. Measure columns may be named after the measure, its",
  "# column, or its column and aggregate function.",
  "tag: default",
  "",
  "fact_count_matches:",
  "  - id: fca",
  "    fact_count_name: fact_count",
  "",
  "foreign_key_matches:",
  "  - id: fka",
  "",
  "table_matches:",
  "  - id: ta",
  "    pretemplate: \"agg_.+_\"",
  "",
  "level_maps:",
  "  - id: lxx",
  "    templates:",
  "      - id: logical",
  "        template: \"$\x7bhierarchy_name\x7d_$\x7blevel_name\x7d\"",
  "      - id: mixed",
  "        template: \"$\x7bhierarchy_name\x7d_$\x7blevel_column_name\x7d\"",
  "      - id: usage",
  "        template: \"$\x7busage_prefix\x7d$\x7blevel_column_name\x7d\"",
  "      - id: physical",
  "        template: \"$\x7blevel_column_name\x7d\"",
  "",
  "measure_maps:",
  "  - id: mxx",
  "    templates:",
  "      - id: one",
  "        template: \"$\x7bmeasure_name\x7d\"",
  "      - id: two",
  "        template: \"$\x7bmeasure_column_name\x7d\"",
  "      - id: three",
  "        template: \"$\x7bmeasure_column_name\x7d_$\x7baggregate_name\x7d\"",
  "",
  "ignore_maps:",
  "  - id: ixx",
  "    templates: []",
  "",
  "rules:",
  "  - tag: default",
  "    default: true",
  "    ignore_map_ref: ixx",
  "    fact_count_match_ref: fca",
  "    foreign_key_match_ref: fka",
  "    table_match_ref: ta",
  "    level_map_ref: lxx",
  "    measure_map_ref: mxx"]

/-- The text of the built-in document. -/
def builtinText : String :=
  String.ofList (builtinLines.flatMap fun line => line.toList ++ ['\n'])

end Document

/-- The built-in rule set, not yet validated. -/
def RuleSet.builtin : Except RuleError RuleSet := RuleSet.ofText none Document.builtinText

end AggregateNaming
