import AggregateNaming.Pattern.Token
import Mathlib.Data.List.TakeWhile

/-!
# Percent signs

The percent sign has no meaning of its own in patterns, and none of the names that patterns can use
has one: neither names of groups nor names of properties and of their values. It is no blank and no
digit either.

## Main statements

- `isNameChar_percent` : no group has a percent sign in its name.
- `names_withoutPercent` : no name that a property goes by has a percent sign.
- `PropertyQuery.table?_ofChars_percent` : no property is named with a percent sign.
-/

namespace AggregateNaming

/-! ## §1 Tables of characters -/

namespace Text

set_option maxRecDepth 100000 in
/-- The percent sign is in none of the tables of letters and digits. -/
private theorem tables_percent : alphabetic.contains '%' = false ∧
    (Category.table .decimalNumber).contains '%' = false ∧
    (Category.table .letterNumber).contains '%' = false ∧
    (Category.table .otherNumber).contains '%' = false := by
  unfold alphabetic propertyTable binaryProperties Category.table Category.tableText
  rw [List.find?_cons_of_neg (by decide), List.find?_cons_of_pos (by decide), Option.map_some,
    Option.getD_some]
  -- the texts of the tables are spelled out, so that deciding need not decode them
  rw [(CharTable.contains_ofText_ofList _ _ :), (CharTable.contains_ofText_ofList _ _ :),
    (CharTable.contains_ofText_ofList _ _ :), (CharTable.contains_ofText_ofList _ _ :)]
  decide +kernel

theorem alphabetic_percent : alphabetic.contains '%' = false := tables_percent.1

theorem numeric_percent : numeric.contains '%' = false := by
  obtain ⟨-, hnd, hnl, hno⟩ := tables_percent
  unfold CharTable.contains at hnd hnl hno ⊢
  unfold numeric categoriesTable
  rw [List.flatMap_cons, List.flatMap_cons, List.flatMap_cons, List.flatMap_nil, List.any_append,
    List.any_append, List.any_append, hnd, hnl, hno]
  rfl

theorem isBlank_percent : isBlank '%' = false := by decide

end Text

namespace Pattern

/-- No group has a percent sign in its name. -/
theorem isNameChar_percent (first : Bool) : Token.isNameChar first '%' = false := by
  cases first <;> simp [Token.isNameChar, Text.alphabetic_percent, Text.numeric_percent]

/-- No number has a percent sign among its digits. -/
theorem hexNumber_percent {digits : List Char} (h : '%' ∈ digits) :
    hexNumber digits = .error .badHexEscape := by
  have hfold : ∀ (ds : List Char) (n : Nat), '%' ∈ ds →
      ds.foldlM (fun n c => do
        let d ← Text.hexDigit? c
        if d < 16 then some (n * 16 + d) else none) n = none := by
    intro ds
    induction ds with
    | nil => exact fun _ h => nomatch h
    | cons d ds ih =>
      intro n h
      rw [List.foldlM_cons]
      rcases List.mem_cons.mp h with rfl | h
      · rfl
      · cases hd : (do
          let d ← Text.hexDigit? d
          if d < 16 then some (n * 16 + d) else none : Option Nat) with
        | none => rfl
        | some m => exact ih m h
  have hnumber : Text.number? 16 digits = none := by
    unfold Text.number?
    rw [hfold digits 0 h]
    split <;> rfl
  rw [hexNumber, hnumber]

/-! ## §2 Names of properties -/

/-- The characters of a name that count, as they count. -/
private def kept (name : List Char) : List Char :=
  (name.filter fun c => c.toNat < 0x80 && c != ' ' && c != '_' && c != '-').map Char.toLower

private theorem percent_mem_kept {name : List Char} (h : '%' ∈ name) : '%' ∈ kept name :=
  List.mem_map.mpr ⟨'%', List.mem_filter.mpr ⟨h, by decide⟩, by decide⟩

/-- A percent sign counts in the name of a property. -/
theorem percent_mem_looseName {name : List Char} (h : '%' ∈ name) :
    '%' ∈ (looseName name).toList := by
  have hplain : '%' ∈ (String.ofList (kept name)).toList := by
    rw [String.toList_ofList]
    exact percent_mem_kept h
  rcases name with _ | ⟨a, _ | ⟨b, cs⟩⟩
  · cases h
  · exact hplain
  · unfold looseName
    dsimp only
    cases hmark : ((a == 'i' || a == 'I') && (b == 's' || b == 'S')) with
    | false => exact hplain
    | true =>
      -- neither of the two characters that are dropped is a percent sign
      have hcs : '%' ∈ cs := by
        rcases List.mem_cons.mp h with rfl | h
        · simp at hmark
        · rcases List.mem_cons.mp h with rfl | h
          · simp at hmark
          · exact h
      have hmem := percent_mem_kept hcs
      change '%' ∈ (if (true && kept cs == ['c']) = true then "isc"
        else String.ofList (kept cs)).toList
      rw [if_neg, String.toList_ofList]
      · exact hmem
      · intro hisc
        simp only [Bool.true_and, beq_iff_eq] at hisc
        rw [hisc] at hmem
        simp at hmem

/-- A text is split at another one, so that what is in it is before, in or after that one. -/
theorem mem_of_splitAtFirst {sought cs before after : List Char}
    (h : splitAtFirst sought cs = some (before, after)) {c : Char} (hc : c ∈ cs) :
    c ∈ before ∨ c ∈ sought ∨ c ∈ after := by
  induction cs generalizing before with
  | nil => cases hc
  | cons d cs ih =>
    unfold splitAtFirst at h
    split at h
    next hprefix =>
      cases h
      obtain ⟨rest, hrest⟩ := List.isPrefixOf_iff_prefix.mp hprefix
      rw [← hrest, List.mem_append] at hc
      rw [← hrest, List.drop_left]
      exact Or.inr hc
    next =>
      obtain ⟨⟨before', after'⟩, hsplit, heq⟩ := Option.map_eq_some_iff.mp h
      cases heq
      rcases List.mem_cons.mp hc with rfl | hc
      · exact Or.inl (List.mem_cons_self ..)
      · exact (ih hsplit hc).imp_left (List.mem_cons_of_mem _)

/-- Whether no name of a list of rows has a percent sign. -/
def withoutPercent {α : Type} (rows : List (List String × α)) : Bool :=
  rows.all fun row => row.1.all fun name => !name.toList.contains '%'

/-- A name with a percent sign is in no row without them. -/
theorem contains_eq_false_of_percent {α : Type} {rows : List (List String × α)}
    (hrows : withoutPercent rows = true) {name : String} (hname : '%' ∈ name.toList) :
    ∀ row ∈ rows, row.1.contains name = false := by
  intro row hrow
  simp only [withoutPercent, List.all_eq_true] at hrows
  rw [List.contains_eq_mem, decide_eq_false_iff_not]
  intro hmem
  have hfree := hrows row hrow name hmem
  simp [hname] at hfree

private theorem find?_eq_none_of_percent {α : Type} {rows : List (List String × α)}
    (hrows : withoutPercent rows = true) {name : String} (hname : '%' ∈ name.toList) :
    rows.find? (·.1.contains name) = none := by
  refine List.find?_eq_none.mpr fun row hrow => ?_
  rw [contains_eq_false_of_percent hrows hname row hrow]
  exact Bool.false_ne_true

theorem namedTable?_percent {tables : List (List String × String)}
    (htables : withoutPercent tables = true) {name : String} (hname : '%' ∈ name.toList) :
    namedTable? tables name = none := by
  rw [namedTable?, find?_eq_none_of_percent htables hname]
  rfl

/-- No name of a property, a category, a script, an age or a break has a percent sign. -/
theorem names_withoutPercent :
    withoutPercent Text.binaryProperties = true ∧ withoutPercent valuedProperties = true ∧
      withoutPercent Text.categoryGroups = true ∧ withoutPercent Text.scripts = true ∧
      withoutPercent Text.extendedScripts = true ∧ withoutPercent Text.ages = true ∧
      withoutPercent Text.graphemeBreaks = true ∧ withoutPercent Text.wordBreaks = true ∧
      withoutPercent Text.sentenceBreaks = true := by
  decide +kernel

theorem categoryTable?_percent {name : String} (hname : '%' ∈ name.toList) :
    categoryTable? name = none := by
  have hne : ∀ literal : String, '%' ∉ literal.toList → (name == literal) = false := by
    intro literal hliteral
    rw [beq_eq_false_iff_ne]
    rintro rfl
    exact hliteral hname
  obtain ⟨-, -, hcategories, -⟩ := names_withoutPercent
  rw [categoryTable?, hne "any" (by decide), hne "ascii" (by decide), hne "assigned" (by decide),
    find?_eq_none_of_percent hcategories hname]
  rfl

theorem extendedScriptTable?_percent {name : String} (hname : '%' ∈ name.toList) :
    extendedScriptTable? name = none := by
  obtain ⟨-, -, -, hscripts, hextended, -⟩ := names_withoutPercent
  rw [extendedScriptTable?, namedTable?_percent hextended hname, namedTable?_percent hscripts hname]
  rfl

theorem ageTable?_percent {name : String} (hname : '%' ∈ name.toList) : ageTable? name = none := by
  obtain ⟨-, -, -, -, -, hages, -⟩ := names_withoutPercent
  have hnewer : (Text.ages.dropWhile fun row => !row.1.contains name) = [] := by
    rw [List.dropWhile_eq_nil_iff]
    intro row hrow
    rw [contains_eq_false_of_percent hages hname row hrow]
    rfl
  rw [ageTable?, hnewer]
  rfl

/-- No property has a value whose name has a percent sign. -/
theorem valuedProperties_percent {value : String} (hvalue : '%' ∈ value.toList) :
    ∀ row ∈ valuedProperties, row.2 value = none := by
  obtain ⟨-, -, -, hscripts, -, -, hgraphemes, hwords, hsentences⟩ := names_withoutPercent
  simp only [valuedProperties, List.forall_mem_cons]
  exact ⟨categoryTable?_percent hvalue, namedTable?_percent hscripts hvalue,
    extendedScriptTable?_percent hvalue, ageTable?_percent hvalue,
    namedTable?_percent hgraphemes hvalue, namedTable?_percent hwords hvalue,
    namedTable?_percent hsentences hvalue, nofun⟩

/-- No property is named with a percent sign, in its own name or in that of a value. -/
theorem PropertyQuery.table?_ofChars_percent {name : List Char} (h : '%' ∈ name) :
    (PropertyQuery.ofChars name).table? = none := by
  obtain ⟨hbinary, hvaluedNames, -, hscripts, -⟩ := names_withoutPercent
  have hnamed : '%' ∈ name → (PropertyQuery.named (.ofList name)).table? = none := by
    intro h
    have hname : '%' ∈ (looseName (String.ofList name).toList).toList := by
      rw [String.toList_ofList]
      exact percent_mem_looseName h
    rw [PropertyQuery.table?, namedTable?_percent hbinary hname, categoryTable?_percent hname,
      namedTable?_percent hscripts hname]
    rfl
  have hvalued : ∀ before after : List Char, '%' ∈ before ∨ '%' ∈ after →
      (PropertyQuery.valued (.ofList before) (.ofList after)).table? = none := by
    intro before after h
    unfold PropertyQuery.table?
    dsimp only
    rw [String.toList_ofList, String.toList_ofList]
    rcases h with h | h
    · rw [find?_eq_none_of_percent hvaluedNames (percent_mem_looseName h)]
      rfl
    · have hvalue := percent_mem_looseName h
      cases hfind : valuedProperties.find? (·.1.contains (looseName before)) with
      | none => rfl
      | some row => exact valuedProperties_percent hvalue row (List.mem_of_find?_eq_some hfind)
  have hsplit : ∀ sought before after, splitAtFirst sought name = some (before, after) →
      '%' ∉ sought → '%' ∈ before ∨ '%' ∈ after := by
    intro sought before after heq hsought
    rcases mem_of_splitAtFirst heq h with hmem | hmem | hmem
    · exact Or.inl hmem
    · exact absurd hmem hsought
    · exact Or.inr hmem
  unfold PropertyQuery.ofChars
  split
  next heq => exact hvalued _ _ (hsplit _ _ _ heq (by decide))
  next =>
    split
    next heq => exact hvalued _ _ (hsplit _ _ _ heq (by decide))
    next =>
      split
      next heq => exact hvalued _ _ (hsplit _ _ _ heq (by decide))
      next => exact hnamed h

end Pattern

end AggregateNaming
