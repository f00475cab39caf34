import AggregateNaming.Document.Builtin
import AggregateNaming.Proofs.Recognition

/-!
# The built-in rules

What the built-in document says, from its text to the names that its rule recognizes. The names are
recognized without regard to case, so that everything here is up to case.

## Main definitions

- `Document.builtinObject` : the objects that the rule of the built-in document is bound to.
- `underscored` : a value as the built-in templates write it.
- `firstUpToCase` : the first of several texts that a name is.

## Main statements

- `Document.ofText?_builtinText` : what the text of the built-in document says.
- `RuleSet.builtin_validated` : the built-in rule set is in order, and its rule is bound.
- `NamePattern.accepts_gapChars` : patterns with a gap between two texts.
- `RuleSet.builtin_recognizes` : the names that are recognized.
-/

namespace AggregateNaming

open Pattern

/-! ## §1 From the text to the rule -/

namespace Document

set_option maxRecDepth 10000 in
/-- The text of the built-in document says what it should. -/
theorem ofText?_builtinText : Document.ofText? builtinText = some builtin := by
  rw [ofText?, builtinText, String.toList_ofList]
  -- the lines are spelled out, so that deciding need not decode them
  simp only [builtinLines, List.flatMap_cons, List.flatMap_nil]
  repeat rewrite [String.toList_ofList]
  decide +kernel

/-- The objects that the rule of the built-in document is bound to. -/
def builtinObject : (k : Kind) → k.Object
  | .factCount => FixedName.mk (builtinId .factCount) true .ignore "fact_count"
  | .foreignKey => DerivedName.mk (builtinId .foreignKey) true .ignore none none none
  | .table => DerivedName.mk (builtinId .table) true .ignore none (some "agg_.+_") none
  | .level => TemplateMap.mk (builtinId .level) true none
    (builtinLevels.map fun e => { id := e.id, text := e.text })
  | .measure => TemplateMap.mk (builtinId .measure) true none
    (builtinMeasures.map fun e => { id := e.id, text := e.text })
  | .ignore => TemplateMap.mk (builtinId .ignore) true none []

end Document

/-- The built-in rule set is in order, and its one rule is bound to its objects. -/
theorem RuleSet.builtin_validated :
    ∃ loaded s r, RuleSet.builtin = .ok loaded ∧ loaded.validated = .ok s ∧ s.rule none = .ok r ∧
      s.rule (some "default") = .ok r ∧ r.countColumn = none ∧
      ∀ k, (r.slots k).bound = some (Document.builtinObject k) := by
  have hbuiltin : RuleSet.builtin = Document.builtin.compile.mapError .document := by
    rw [RuleSet.builtin, RuleSet.ofText, Document.ofText?_builtinText]
  rw [hbuiltin]
  -- from here on all is evaluated: compiling, validating, binding and looking up the rule
  refine ⟨_, _, _, rfl, rfl, rfl, rfl, rfl, fun k => ?_⟩
  cases k <;> rfl

/-! ## §2 Patterns with a gap -/

namespace Pattern

/-- The pattern of a gap: anything but nothing, without an end of a line. -/
def gap : Pattern := .repeated (.set (.complement (.single '\n'))) 1 none true

/-- A gap is what is not empty and without an end of a line. -/
theorem matchesWhole_gap_iff {t : List Char} : gap.MatchesWhole t ↔ t ≠ [] ∧ '\n' ∉ t := by
  rw [gap, matchesWhole_many_iff]
  refine and_congr_right fun _ => ?_
  constructor
  · intro h hmem
    exact absurd (h _ hmem) (by decide)
  · intro h c hc
    have hne : c ≠ '\n' := fun heq => h (heq ▸ hc)
    simpa [CharSet.mem] using hne

/-- A text, then a gap, then an underscore and another text, as a pattern. -/
def gapChars (u v : List Char) : List Char :=
  escapeChars u ++ '.' :: '+' :: escapeChars ('_' :: v)

namespace ReadState

variable {s : ReadState} {b : Bool}

/-- What is added to the group that is being read by a text, a gap and another text. -/
def addGap (s : ReadState) (u v : List Char) : ReadState :=
  ((s.addChars u).add gap).addChars ('_' :: v)

/-- Reading past a gap between two texts. -/
theorem run_gap (hs : s.flags = { caseInsensitive := b }) (fuel : Nat) (u v rest : List Char) :
    run (fuel + (v.length + 1) + 2 + u.length) s (gapChars u v ++ rest) =
      run fuel (s.addGap u v) rest := by
  have hv : s.flags.verbose = false := by rw [hs]
  have hu : (s.addChars u).flags = { caseInsensitive := b } := by rw [flags_addChars, hs]
  -- the dot adds a set, and the plus makes a repetition of it
  have hdot : (s.addChars u).step .dot =
      .ok ((s.addChars u).add (.set (.complement (.single '\n')))) := by
    rw [step, hu]
    rfl
  have hmany : ((s.addChars u).add (.set (.complement (.single '\n')))).step
      (.repetition 1 none false) = .ok ((s.addChars u).add gap) := by
    change Except.ok _ = Except.ok _
    rw [show ((s.addChars u).add (.set (.complement (.single '\n')))).flags.swapGreed = false by
      exact congrArg Flags.swapGreed hu]
    rfl
  rw [gapChars, List.append_assoc, run_escapeChars _ s u _ hv]
  change run (fuel + (v.length + 1) + 1 + 1) _ ('.' :: '+' :: (escapeChars ('_' :: v) ++ rest)) = _
  rw [run_of_token (by rw [hu]) rfl hdot, run_of_token (by exact congrArg Flags.verbose hu) rfl hmany]
  exact run_escapeChars fuel _ ('_' :: v) rest (by exact congrArg Flags.verbose hu)

theorem stack_addGap (s : ReadState) (u v : List Char) : (s.addGap u v).stack = s.stack := by
  rw [addGap, stack_addChars]
  exact stack_addChars s u

theorem flags_addGap (s : ReadState) (u v : List Char) : (s.addGap u v).flags = s.flags := by
  rw [addGap, flags_addChars]
  exact flags_addChars s u

/-- What is read past a gap is a row. -/
theorem toPattern_addGap (f : Flags) (u v : List Char) :
    (addGap { flags := f } u v).body.toPattern =
      concatAll (charRow f u ++ gap :: charRow f ('_' :: v)) := by
  apply toPattern_of_row
  · rw [addGap, alternatives_addChars]
    exact alternatives_addChars _ u
  · rw [addGap, pieces_addChars]
    change _ ++ Piece.pattern gap :: (addChars { flags := f } u).body.pieces = _
    rw [pieces_addChars]
    change ((charRow (addChars { flags := f } u).flags ('_' :: v)).map _).reverse ++ _ = _
    simp

end ReadState

/-- There are at least as many characters as turns. -/
theorem length_le_length_gapChars (u v : List Char) :
    v.length + 1 + 2 + u.length ≤ (gapChars u v).length := by
  have hu := length_le_length_escapeChars u
  have hv := length_le_length_escapeChars ('_' :: v)
  simp only [gapChars, List.length_append, List.length_cons] at hv ⊢
  omega

/-- A gap between two texts is read as a row. -/
theorem read_gapChars (b : Bool) (u v : List Char) :
    Pattern.read { caseInsensitive := b } (gapChars u v) = .ok (concatAll
      (charRow { caseInsensitive := b } u ++ gap :: charRow { caseInsensitive := b } ('_' :: v))) := by
  have hrun := ReadState.run_gap (s := { flags := { caseInsensitive := b } }) rfl 1 u v []
  have hend : skip (ReadState.addGap { flags := { caseInsensitive := b } } u v).flags.verbose [] =
      [] := by
    rw [ReadState.flags_addGap]
    rfl
  rw [List.append_nil, ReadState.run_of_skip hend] at hrun
  have hmore := ReadState.run_mono hrun
    (show _ ≤ (gapChars u v).length + 1 by have := length_le_length_gapChars u v; omega)
  exact read_eq_ok_iff.mpr ⟨_, hmore, ReadState.stack_addGap _ u v, ReadState.toPattern_addGap _ u v⟩

/-- The row of a gap between two texts matches what can be cut in three. -/
theorem matchesWhole_gapRow_iff (casing : Casing) {u v t : List Char} :
    (concatAll (charRow { caseInsensitive := casing.isInsensitive } u ++
      gap :: charRow { caseInsensitive := casing.isInsensitive } ('_' :: v))).MatchesWhole t ↔
      ∃ a m c, t = a ++ m ++ c ∧ casing.Meets u a ∧ m ≠ [] ∧ '\n' ∉ m ∧
        casing.Meets ('_' :: v) c := by
  have hgap : ∀ p ∈ gap :: charRow { caseInsensitive := casing.isInsensitive } ('_' :: v),
      p.isContextFree = true :=
    List.forall_mem_cons.mpr ⟨rfl, fun _ => isContextFree_of_mem_charRow⟩
  have hrow : ∀ p ∈ charRow { caseInsensitive := casing.isInsensitive } u ++
      gap :: charRow { caseInsensitive := casing.isInsensitive } ('_' :: v),
      p.isContextFree = true :=
    List.forall_mem_append.mpr ⟨fun _ => isContextFree_of_mem_charRow, hgap⟩
  rw [matchesWhole_append_iff hrow]
  simp only [matchesWhole_cons_iff hgap, matchesWhole_charRow_iff, matchesWhole_gap_iff]
  constructor
  · rintro ⟨a, _, rfl, ha, m, c, rfl, ⟨hne, hm⟩, hc⟩
    exact ⟨a, m, c, by simp, ha, hne, hm, hc⟩
  · rintro ⟨a, m, c, rfl, ha, hne, hm, hc⟩
    exact ⟨a, m ++ c, by simp, ha, m, c, rfl, ⟨hne, hm⟩, hc⟩

end Pattern

/-- The pattern of a gap between two texts accepts the names that can be cut in three. -/
theorem NamePattern.accepts_gapChars (casing : Casing) (u v : List Char) :
    ∃ p, NamePattern.compile casing (.ofList (gapChars u v)) = .ok p ∧
      ∀ name, p.accepts name = true ↔ ∃ a m c, name.toList = a ++ m ++ c ∧ casing.Meets u a ∧
        m ≠ [] ∧ '\n' ∉ m ∧ casing.Meets ('_' :: v) c := by
  -- three turns are left for the parenthesis, the mark for the end of the text and the end
  have hinside := ReadState.run_gap (s := ReadState.inMarks casing) rfl 3 u v [')', '$']
  have hfuel : 3 + (v.length + 1) + 2 + u.length = v.length + 1 + 2 + u.length + 3 := by omega
  rw [hfuel] at hinside
  obtain ⟨p, hp⟩ := NamePattern.compile_of_inside hinside (by rw [ReadState.flags_addGap]; rfl)
    (ReadState.stack_addGap _ u v) (length_le_length_gapChars u v)
  refine ⟨p, hp, fun name => ?_⟩
  have hread := read_gapChars casing.isInsensitive u v
  rw [NamePattern.accepts, NamePattern.pattern_of_compile (by rwa [String.toList_ofList]) hp,
    accepts_marked_iff]
  exact matchesWhole_gapRow_iff casing

/-! ## §3 What the built-in rule recognizes -/

/-- A value as the built-in templates write it, with underscores for its spaces and dots. -/
def underscored (value : String) : List Char :=
  value.toList.map fun c => if c == ' ' || c == '.' then '_' else c

/-- The id of the first of several texts that a name is, up to case. -/
def firstUpToCase (texts : List (String × List Char)) (name : String) : Option String :=
  (texts.find? fun t => decide (List.Forall₂ Text.SameFold t.2 name.toList)).map (·.1)

/-- Where single characters stand for spaces and dots, a value has as many characters as before. -/
theorem Template.replaceChar_singleton (c d : Char) (cs : List Char) :
    Template.replaceChar c [d] cs = cs.map fun e => if e == c then d else e := by
  induction cs with
  | nil => rfl
  | cons e cs ih =>
    change (if e == c then [d] else [e]) ++ Template.replaceChar c [d] cs = _
    rw [ih, List.map_cons]
    cases e == c <;> rfl

/-- The values of a template without markers of its own have underscores. -/
theorem Template.mark_default (id text value : String) :
    (Template.mark { id, text } value).toList = underscored value := by
  have hmarker : defaultMarker.toList = ['_'] := by decide
  change (String.ofList (replaceChar '.' defaultMarker.toList
    (replaceChar ' ' defaultMarker.toList value.toList))).toList = _
  rw [String.toList_ofList, hmarker, replaceChar_singleton, replaceChar_singleton, List.map_map,
    underscored]
  refine List.map_congr_left fun c _ => ?_
  -- a space becomes an underscore first, which is no dot
  by_cases hc : c = ' '
  · subst hc
    rfl
  · simp [hc]

/-- The names of aggregate tables have a gap between the mark for them and the name of the table. -/
theorem Document.builtinObject_table (fact : String) :
    ∃ m, DerivedName.recognizer (builtinObject .table) fact = .ok m ∧
      ∀ name, m.recognizes name = true ↔
        ∃ a u b, name.toList = a ++ u ++ b ∧ List.Forall₂ Text.SameFold "agg_".toList a ∧
          u ≠ [] ∧ '\n' ∉ u ∧ List.Forall₂ Text.SameFold ('_' :: fact.toList) b := by
  obtain ⟨p, hp, haccepts⟩ := NamePattern.accepts_gapChars .ignore "agg_".toList fact.toList
  have htext : "agg_.+_" ++ Casing.ignore.literal fact ++ "" =
      .ofList (gapChars "agg_".toList fact.toList) := by
    have hbefore : "agg_.+_" = String.ofList _ := rfl
    rw [hbefore, Casing.literal, String.append_empty, ← String.ofList_append]
    rfl
  refine ⟨.single "ta" p, ?_, fun name => Recognizer.recognizes_single_iff.trans (haccepts name)⟩
  change Recognizer.derived "ta" fact none "agg_.+_" "" .ignore = _
  simp only [Recognizer.derived, derive?, htext, hp]

/-- Templates without a policy of their own answer, where case does not count, with the first of their
texts that a name is. -/
theorem find?_isMet_ignore {rows : List (Template × List TemplatePart)}
    {values : List (String × String)} (hcasing : ∀ row ∈ rows, row.1.casing = none) (name : String) :
    (rows.find? (Template.isMet .ignore values name)).map (·.1.id) =
      firstUpToCase (rows.map fun row => (row.1.id, row.1.expected .ignore values row.2)) name := by
  induction rows with
  | nil => rfl
  | cons row rows ih =>
    have hrest := ih fun row' hrow => hcasing row' (List.mem_cons_of_mem row hrow)
    have hmet : Template.isMet .ignore values name row =
        decide (List.Forall₂ Text.SameFold (row.1.expected .ignore values row.2) name.toList) := by
      rw [Template.isMet, Template.casingIn, hcasing row List.mem_cons_self]
      rfl
    unfold firstUpToCase at hrest ⊢
    rw [List.find?_cons, List.map_cons, List.find?_cons, hmet]
    dsimp only
    -- the first template is met, or the others are tried
    cases decide (List.Forall₂ Text.SameFold (row.1.expected .ignore values row.2) name.toList) with
    | true => rfl
    | false => exact hrest

namespace Document

/-- The built-in templates for levels, with their parts. -/
def levelRows : List (Template × List TemplatePart) := [
  ({ id := "logical", text := "$\x7bhierarchy_name\x7d_$\x7blevel_name\x7d" },
    [.placeholder "hierarchy_name", .literal "_", .placeholder "level_name"]),
  ({ id := "mixed", text := "$\x7bhierarchy_name\x7d_$\x7blevel_column_name\x7d" },
    [.placeholder "hierarchy_name", .literal "_", .placeholder "level_column_name"]),
  ({ id := "usage", text := "$\x7busage_prefix\x7d$\x7blevel_column_name\x7d" },
    [.placeholder "usage_prefix", .placeholder "level_column_name"]),
  ({ id := "physical", text := "$\x7blevel_column_name\x7d" },
    [.placeholder "level_column_name"])]

/-- The built-in templates for measures, with their parts. -/
def measureRows : List (Template × List TemplatePart) := [
  ({ id := "one", text := "$\x7bmeasure_name\x7d" }, [.placeholder "measure_name"]),
  ({ id := "two", text := "$\x7bmeasure_column_name\x7d" }, [.placeholder "measure_column_name"]),
  ({ id := "three", text := "$\x7bmeasure_column_name\x7d_$\x7baggregate_name\x7d" },
    [.placeholder "measure_column_name", .literal "_", .placeholder "aggregate_name"])]

theorem plain_levelRows (n : LevelNames) : ∀ row ∈ levelRows, row.1.Plain n.values row.2 := by
  intro row hrow
  simp only [levelRows, List.mem_cons, List.not_mem_nil, or_false] at hrow
  have hbar : Pattern.escape "_" = "_" := rfl
  rcases hrow with rfl | rfl | rfl | rfl <;>
    exact ⟨rfl, by simp [hbar], by simp [LevelNames.values, List.lookup_cons]⟩

theorem plain_measureRows (n : MeasureNames) :
    ∀ row ∈ measureRows, row.1.Plain n.values row.2 := by
  intro row hrow
  simp only [measureRows, List.mem_cons, List.not_mem_nil, or_false] at hrow
  have hbar : Pattern.escape "_" = "_" := rfl
  rcases hrow with rfl | rfl | rfl <;>
    exact ⟨rfl, by simp [hbar], by simp [MeasureNames.values, List.lookup_cons]⟩

/-- The names of columns for levels, in order of preference. -/
theorem builtinObject_level (n : LevelNames) :
    ∃ m, TemplateMap.recognizer (builtinObject .level) n.values = .ok m ∧
      ∀ name, m.firstMatch? name = firstUpToCase [
        ("logical", underscored n.hierarchy ++ '_' :: underscored n.level),
        ("mixed", underscored n.hierarchy ++ '_' :: underscored n.column),
        ("usage", underscored (n.usagePrefix.getD "") ++ underscored n.column),
        ("physical", underscored n.column)] name := by
  have hrows : (builtinObject .level).templates.filter (·.enabled) = levelRows.map (·.1) := rfl
  obtain ⟨m, hm, hfirst⟩ := TemplateMap.firstMatch?_plain hrows (plain_levelRows n)
  refine ⟨m, hm, fun name => ?_⟩
  have hexpected : levelRows.map (fun row => (row.1.id, row.1.expected .ignore n.values row.2)) = [
      ("logical", underscored n.hierarchy ++ '_' :: underscored n.level),
      ("mixed", underscored n.hierarchy ++ '_' :: underscored n.column),
      ("usage", underscored (n.usagePrefix.getD "") ++ underscored n.column),
      ("physical", underscored n.column)] := by
    simp [levelRows, Template.expected, Template.expectedPart, LevelNames.values,
      List.lookup_cons, Template.mark_default, Casing.foldChars, Template.casingIn]
  rw [hfirst, ← hexpected]
  exact find?_isMet_ignore (by simp [levelRows]) name

/-- The names of columns for measures, in order of preference. -/
theorem builtinObject_measure (n : MeasureNames) :
    ∃ m, TemplateMap.recognizer (builtinObject .measure) n.values = .ok m ∧
      ∀ name, m.firstMatch? name = firstUpToCase [
        ("one", underscored n.measure),
        ("two", underscored n.column),
        ("three", underscored n.column ++ '_' :: underscored n.aggregate)] name := by
  have hrows : (builtinObject .measure).templates.filter (·.enabled) = measureRows.map (·.1) := rfl
  obtain ⟨m, hm, hfirst⟩ := TemplateMap.firstMatch?_plain hrows (plain_measureRows n)
  refine ⟨m, hm, fun name => ?_⟩
  have hexpected :
      measureRows.map (fun row => (row.1.id, row.1.expected .ignore n.values row.2)) = [
        ("one", underscored n.measure),
        ("two", underscored n.column),
        ("three", underscored n.column ++ '_' :: underscored n.aggregate)] := by
    simp [measureRows, Template.expected, Template.expectedPart, MeasureNames.values,
      List.lookup_cons, Template.mark_default, Casing.foldChars, Template.casingIn]
  rw [hfirst, ← hexpected]
  exact find?_isMet_ignore (by simp [measureRows]) name

/-- The name of the column that counts facts. -/
theorem builtinObject_factCount :
    ∃ m, FixedName.recognizer (builtinObject .factCount) = .ok m ∧
      ∀ name, m.recognizes name = true ↔
        List.Forall₂ Text.SameFold "fact_count".toList name.toList := by
  obtain ⟨m, hm, hrecognizes⟩ := FixedName.recognizerFor_plain
    (.mk (builtinId .factCount) true .ignore "fact_count") "fact_count"
  exact ⟨m, hm, hrecognizes⟩

/-- The names of columns for foreign keys are those of the keys. -/
theorem builtinObject_foreignKey (key : String) :
    ∃ m, DerivedName.recognizer (builtinObject .foreignKey) key = .ok m ∧
      ∀ name, m.recognizes name = true ↔
        List.Forall₂ Text.SameFold key.toList name.toList := by
  obtain ⟨m, hm, hrecognizes⟩ := Recognizer.derived_plain (builtinId .foreignKey) key .ignore
    (show Pattern.escape "" = "" from rfl) (show Pattern.escape "" = "" from rfl)
  refine ⟨m, hm, fun name => (hrecognizes name).trans ?_⟩
  rw [String.toList_empty, List.append_nil]
  exact Iff.rfl

end Document

/-- The recognizers of a rule without a column of its own are those of the objects it is bound to. -/
theorem Rule.recognizer_of_bound {r : Rule} {o : (k : Kind) → k.Object}
    (hcolumn : r.countColumn = none) (hbound : ∀ k, (r.slots k).bound = some (o k)) :
    r.recognizer .factCount = FixedName.recognizer (o .factCount) ∧
      (∀ key, r.recognizer (.foreignKey key) = DerivedName.recognizer (o .foreignKey) key) ∧
      (∀ fact, r.recognizer (.table fact) = DerivedName.recognizer (o .table) fact) ∧
      (∀ n, r.recognizer (.level n) = TemplateMap.recognizer (o .level) n.values) ∧
      (∀ n, r.recognizer (.measure n) = TemplateMap.recognizer (o .measure) n.values) ∧
      r.recognizer .ignore = TemplateMap.recognizer (o .ignore) [] := by
  have hobject : ∀ k, r.boundTo k = .ok (o k) := by
    intro k
    rw [Rule.boundTo, hbound]
  refine ⟨?_, fun key => ?_, fun fact => ?_, fun n => ?_, fun n => ?_, ?_⟩
  · rw [Rule.recognizer, hobject, hcolumn]
    rfl
  · rw [Rule.recognizer, hobject]
    rfl
  · rw [Rule.recognizer, hobject]
    rfl
  · rw [Rule.recognizer, hobject]
    rfl
  · rw [Rule.recognizer, hobject]
    rfl
  · rw [Rule.recognizer, hbound]

/-- The names that the built-in rule recognizes, from the text of the built-in document on. -/
theorem RuleSet.builtin_recognizes :
    ∃ loaded s r, RuleSet.ofText none Document.builtinText = .ok loaded ∧
      loaded.validated = .ok s ∧ s.rule none = .ok r ∧ s.rule (some "default") = .ok r ∧
      (∀ fact, ∃ m, r.recognizer (.table fact) = .ok m ∧ ∀ name, m.recognizes name = true ↔
        ∃ a u b, name.toList = a ++ u ++ b ∧ List.Forall₂ Text.SameFold "agg_".toList a ∧
          u ≠ [] ∧ '\n' ∉ u ∧ List.Forall₂ Text.SameFold ('_' :: fact.toList) b) ∧
      (∀ key, ∃ m, r.recognizer (.foreignKey key) = .ok m ∧ ∀ name, m.recognizes name = true ↔
        List.Forall₂ Text.SameFold key.toList name.toList) ∧
      (∃ m, r.recognizer .factCount = .ok m ∧ ∀ name, m.recognizes name = true ↔
        List.Forall₂ Text.SameFold "fact_count".toList name.toList) ∧
      (∀ n : LevelNames, ∃ m, r.recognizer (.level n) = .ok m ∧ ∀ name, m.firstMatch? name =
        firstUpToCase [
          ("logical", underscored n.hierarchy ++ '_' :: underscored n.level),
          ("mixed", underscored n.hierarchy ++ '_' :: underscored n.column),
          ("usage", underscored (n.usagePrefix.getD "") ++ underscored n.column),
          ("physical", underscored n.column)] name) ∧
      (∀ n : MeasureNames, ∃ m, r.recognizer (.measure n) = .ok m ∧ ∀ name, m.firstMatch? name =
        firstUpToCase [
          ("one", underscored n.measure),
          ("two", underscored n.column),
          ("three", underscored n.column ++ '_' :: underscored n.aggregate)] name) ∧
      ∃ m, r.recognizer .ignore = .ok m ∧ ∀ name, m.recognizes name = false := by
  obtain ⟨loaded, s, r, hloaded, hs, hr, hr', hcolumn, hbound⟩ := RuleSet.builtin_validated
  obtain ⟨hcount, hkey, htable, hlevel, hmeasure, hignore⟩ :=
    Rule.recognizer_of_bound hcolumn hbound
  refine ⟨loaded, s, r, hloaded, hs, hr, hr', fun fact => ?_, fun key => ?_, ?_, fun n => ?_,
    fun n => ?_, .never, ?_, fun _ => rfl⟩
  · rw [htable]
    exact Document.builtinObject_table fact
  · rw [hkey]
    exact Document.builtinObject_foreignKey key
  · rw [hcount]
    exact Document.builtinObject_factCount
  · rw [hlevel]
    exact Document.builtinObject_level n
  · rw [hmeasure]
    exact Document.builtinObject_measure n
  · rw [hignore]
    rfl

end AggregateNaming
