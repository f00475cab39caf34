import AggregateNaming.Pattern.Lexeme
import AggregateNaming.Text.Age
import AggregateNaming.Text.Break
import AggregateNaming.Text.Category
import AggregateNaming.Text.Property
import AggregateNaming.Text.ScriptExtension

/-!
# Property classes

The characters that a property class stands for, found by the name of a property, of a value, or of
both. ASCII case, blanks, hyphens, underscores and a leading `is` do not count in names.

- `categoryTable?` : the characters of a general category.
- `PropertyQuery.table?` : the characters of a property class.
-/

namespace AggregateNaming.Pattern

/-- A name of a property or of a value of one, without what does not count. -/
def looseName (name : List Char) : String :=
  let isMarked :=
    match name with
    | a :: b :: _ => (a == 'i' || a == 'I') && (b == 's' || b == 'S')
    | _ => false
  let kept := ((if isMarked then name.drop 2 else name).filter fun c =>
    c.toNat < 0x80 && c != ' ' && c != '_' && c != '-').map Char.toLower
  if isMarked && kept == ['c'] then "isc" else .ofList kept

/-- The characters of a general category or of a group of them. -/
def categoryTable? (name : String) : Option Text.CharTable :=
  if name == "any" then some .full
  else if name == "ascii" then some (.ofRanges [(0, 0x7F)])
  else if name == "assigned" then
    some (Text.categoriesTable ((Text.categoryGroups.flatMap (·.2)).eraseDups.erase .unassigned))
  else (Text.categoryGroups.find? (·.1.contains name)).map (Text.categoriesTable ·.2)

/-- The table under a name in a list of tables written as text. -/
def namedTable? (tables : List (List String × String)) (name : String) :
    Option Text.CharTable :=
  (tables.find? (·.1.contains name)).map (Text.CharTable.ofText ·.2)

/-- The characters used in a script, those that other scripts use too included. -/
def extendedScriptTable? (name : String) : Option Text.CharTable :=
  (namedTable? Text.extendedScripts name).or (namedTable? Text.scripts name)

/-- The characters that were assigned up to a version. -/
def ageTable? (name : String) : Option Text.CharTable :=
  let newer := Text.ages.dropWhile fun row => !row.1.contains name
  let upTo := Text.ages.take (Text.ages.length - newer.length + 1)
  if newer.isEmpty then none else some (upTo.flatMap (Text.CharTable.ofText ·.2))

/-- The properties with values: the names each goes by, and the characters that have a value of a
name. -/
def valuedProperties : List (List String × (String → Option Text.CharTable)) := [
  (["gc", "generalcategory"], categoryTable?),
  (["sc", "script"], namedTable? Text.scripts),
  (["scx", "scriptextensions"], extendedScriptTable?),
  (["age"], ageTable?),
  (["gcb", "graphemeclusterbreak"], namedTable? Text.graphemeBreaks),
  (["wb", "wordbreak"], namedTable? Text.wordBreaks),
  (["sb", "sentencebreak"], namedTable? Text.sentenceBreaks)]

/-- The characters that a property class stands for. A name alone is that of a binary property
first, of a category second and of a script third. -/
def PropertyQuery.table? : PropertyQuery → Option Text.CharTable
  | .named name =>
    let name := looseName name.toList
    ((namedTable? Text.binaryProperties name).or (categoryTable? name)).or
      (namedTable? Text.scripts name)
  | .valued name value => do
    let name := looseName name.toList
    let (_, table?) ← valuedProperties.find? (·.1.contains name)
    table? (looseName value.toList)

end AggregateNaming.Pattern
