import AggregateNaming.Proofs.Pattern.Language
import AggregateNaming.Proofs.Pattern.Whole
import AggregateNaming.Proofs.Probing

/-!
# Which names are recognized

Where an author writes nothing that has a meaning in patterns, a pattern stands for one name: the text
of the author as it is, with everything that was put into it written as the casing policy wants it.
Whatever is put in stands for itself, be it written with the marks of patterns or of placeholders.

## Main definitions

- `Casing.Meets` : a name is what a policy takes for an expected one.
- `Template.expected` : what the parts of a template stand for.

## Main statements

- `NamePattern.accepts_escapeChars` : the pattern of an escaped text.
- `recognizes_plain_iff_meets` : templates, derived names and fixed names of plain texts.
-/

namespace AggregateNaming

open Pattern

/-! ## §1 Escaped texts as patterns -/

/-- A name is what a policy takes for an expected one: the same, or, where case does not count, one of
as many characters that are the same up to case. -/
def Casing.Meets : Casing → (expected name : List Char) → Prop
  | .ignore, expected, name => List.Forall₂ Text.SameFold expected name
  | .exact, expected, name | .upper, expected, name | .lower, expected, name => name = expected

instance : (casing : Casing) → (expected name : List Char) → Decidable (casing.Meets expected name)
  | .ignore, expected, name => inferInstanceAs (Decidable (List.Forall₂ Text.SameFold expected name))
  | .exact, expected, name => inferInstanceAs (Decidable (name = expected))
  | .upper, expected, name => inferInstanceAs (Decidable (name = expected))
  | .lower, expected, name => inferInstanceAs (Decidable (name = expected))

/-- The row of sets of a text matches the names that the text is met by. -/
theorem matchesWhole_charRow_iff (casing : Casing) {w name : List Char} :
    (concatAll (charRow { caseInsensitive := casing.isInsensitive } w)).MatchesWhole name ↔
      casing.Meets w name := by
  have hexact : List.Forall₂ (fun c d => d = c) w name ↔ name = w := by
    rw [eq_comm, ← List.forall₂_eq_eq_eq]
    constructor <;> exact List.Forall₂.imp fun _ _ => Eq.symm
  rw [charRow, matchesWhole_sets_iff, List.forall₂_map_left_iff]
  simp only [mem_charSet_iff]
  -- only where case does not count does a character have more than one form
  cases casing with
  | ignore => exact Iff.rfl
  | exact => exact hexact
  | upper => exact hexact
  | lower => exact hexact

/-- The pattern of an escaped text accepts the names that meet the text. -/
theorem NamePattern.accepts_escapeChars (casing : Casing) (w : List Char) :
    ∃ p, NamePattern.compile casing (.ofList (escapeChars w)) = .ok p ∧
      ∀ name, p.accepts name = true ↔ casing.Meets w name.toList := by
  obtain ⟨p, hp⟩ := NamePattern.compile_escapeChars casing w
  refine ⟨p, hp, fun name => ?_⟩
  -- between its marks the text is read as it is read alone: a row of characters
  have hpattern : p.pattern =
      (concatAll (charRow { caseInsensitive := casing.isInsensitive } w)).marked := by
    have hread : Pattern.read { caseInsensitive := casing.isInsensitive }
        (String.ofList (escapeChars w)).toList =
          .ok (concatAll (charRow { caseInsensitive := casing.isInsensitive } w)) := by
      rw [String.toList_ofList]
      exact read_escapeChars rfl w
    exact NamePattern.pattern_of_compile hread hp
  rw [NamePattern.accepts, hpattern, accepts_marked_iff]
  exact matchesWhole_charRow_iff casing

/-! ## §2 Plain texts -/

/-- What a part of a template stands for: the text of the author as it is, or the value of a
placeholder, with its spaces and dots marked and as the policy wants it written. -/
def Template.expectedPart (t : Template) (inherited : Casing) (values : List (String × String)) :
    TemplatePart → List Char
  | .literal text => text.toList
  | .placeholder name =>
    (t.casingIn inherited).foldChars (t.mark ((values.lookup name).getD "")).toList

/-- What the parts of a template stand for. -/
def Template.expected (t : Template) (inherited : Casing) (values : List (String × String))
    (parts : List TemplatePart) : List Char :=
  parts.flatMap (t.expectedPart inherited values)

/-- A text is plain when escaping leaves it as it is. -/
theorem escapeChars_of_escape {text : String} (h : Pattern.escape text = text) :
    escapeChars text.toList = text.toList := by
  have hlist := congrArg String.toList h
  rwa [Pattern.escape, String.toList_ofList] at hlist

theorem escapeChars_append (u v : List Char) : escapeChars (u ++ v) = escapeChars u ++ escapeChars v :=
  List.flatMap_append

/-- Filling a template of plain texts is escaping what it stands for. -/
theorem Template.fill_symbols {t : Template} {inherited : Casing} {values : List (String × String)}
    {parts : List TemplatePart}
    (hplain : ∀ text, .literal text ∈ parts → Pattern.escape text = text) :
    fill (t.filling inherited values) (parts.flatMap TemplatePart.symbols) =
      escapeChars (t.expected inherited values parts) := by
  induction parts with
  | nil => rfl
  | cons part parts ih =>
    have hrest := ih fun text htext => hplain text (List.mem_cons_of_mem part htext)
    have hpart : fill (t.filling inherited values) part.symbols =
        escapeChars (t.expectedPart inherited values part) := by
      cases part with
      | literal text =>
        -- escaping does not change the text of the author
        rw [TemplatePart.symbols, fill_map_char]
        exact (escapeChars_of_escape (hplain text (by simp))).symm
      | placeholder name =>
        -- what fills a hole is escaped
        rw [TemplatePart.symbols, fill_hole, fill_nil, List.append_nil]
        rfl
    rw [List.flatMap_cons, fill_append, hpart, hrest, ← escapeChars_append]
    rfl

/-- A recognizer of one pattern recognizes what the pattern accepts. -/
theorem Recognizer.recognizes_single_iff {id name : String} {p : NamePattern} :
    (Recognizer.single id p).recognizes name = true ↔ p.accepts name = true := by
  unfold Recognizer.recognizes Recognizer.firstMatch? Recognizer.single
  rw [List.find?_singleton]
  cases p.accepts name <;> simp

/-- A template of plain texts, with its parts, whose placeholders all have values. -/
structure Template.Plain (t : Template) (values : List (String × String))
    (parts : List TemplatePart) : Prop where
  parse : Template.parse t.text = .ok parts
  literals : ∀ text, .literal text ∈ parts → Pattern.escape text = text
  covered : ∀ name, .placeholder name ∈ parts → ∃ value, values.lookup name = some value

/-- The pattern of a template of plain texts accepts the names that meet what it stands for. -/
theorem Template.Plain.compile {t : Template} {values : List (String × String)}
    {parts : List TemplatePart} (h : t.Plain values parts) (inherited : Casing) :
    ∃ p, t.compile inherited values = .ok ⟨t.id, p⟩ ∧ ∀ name, p.accepts name = true ↔
      (t.casingIn inherited).Meets (t.expected inherited values parts) name.toList := by
  obtain ⟨p, hp, haccepts⟩ := NamePattern.accepts_escapeChars (t.casingIn inherited)
    (t.expected inherited values parts)
  have hrender : t.render inherited values =
      .ok (.ofList (escapeChars (t.expected inherited values parts))) := by
    rw [Template.render_eq h.parse h.covered, Template.fill_symbols h.literals]
  exact ⟨p, Template.compile_of_ok hrender hp, haccepts⟩

/-- Whether a name meets what a template with its parts stands for. -/
def Template.isMet (inherited : Casing) (values : List (String × String)) (name : String)
    (row : Template × List TemplatePart) : Bool :=
  (row.1.casingIn inherited).Meets (row.1.expected inherited values row.2) name.toList

/-- Templates of plain texts answer with the first that a name meets. -/
theorem Template.mapM_compile_plain {rows : List (Template × List TemplatePart)}
    {values : List (String × String)} (hplain : ∀ row ∈ rows, row.1.Plain values row.2)
    (inherited : Casing) :
    ∃ ps, (rows.map (·.1)).mapM (·.compile inherited values) = .ok ps ∧ ∀ name,
      (ps.find? (·.pattern.accepts name)).map (·.id) =
        (rows.find? (Template.isMet inherited values name)).map (·.1.id) := by
  induction rows with
  | nil => exact ⟨[], rfl, fun _ => rfl⟩
  | cons row rows ih =>
    obtain ⟨ps, hps, hfirst⟩ := ih fun row' hrow => hplain row' (List.mem_cons_of_mem row hrow)
    obtain ⟨p, hp, haccepts⟩ := (hplain row List.mem_cons_self).compile inherited
    refine ⟨⟨row.1.id, p⟩ :: ps, ?_, fun name => ?_⟩
    · rw [List.map_cons, List.mapM_cons, hp, hps]
      rfl
    · have hmet : p.accepts name = Template.isMet inherited values name row :=
        Bool.eq_iff_iff.mpr ((haccepts name).trans decide_eq_true_iff.symm)
      rw [List.find?_cons, List.find?_cons, ← hmet]
      cases p.accepts name with
      | true => rfl
      | false => exact hfirst name

/-- A map of templates of plain texts answers with the first of those enabled that a name meets. -/
theorem TemplateMap.firstMatch?_plain {o : TemplateMap} {values : List (String × String)}
    {rows : List (Template × List TemplatePart)}
    (hrows : o.templates.filter (·.enabled) = rows.map (·.1))
    (hplain : ∀ row ∈ rows, row.1.Plain values row.2) :
    ∃ r, o.recognizer values = .ok r ∧ ∀ name, r.firstMatch? name =
      (rows.find? (Template.isMet o.casingInForce values name)).map (·.1.id) := by
  obtain ⟨ps, hps, hfirst⟩ := Template.mapM_compile_plain hplain o.casingInForce
  refine ⟨⟨ps⟩, ?_, hfirst⟩
  rw [TemplateMap.recognizer, hrows, hps]
  rfl

/-- Plain texts around a name make a recognizer of the names that meet them and it. -/
theorem Recognizer.derived_plain (id base : String) {before after : String} (casing : Casing)
    (hbefore : Pattern.escape before = before) (hafter : Pattern.escape after = after) :
    ∃ r, Recognizer.derived id base none before after casing = .ok r ∧
      ∀ name, r.recognizes name = true ↔
        casing.Meets (before.toList ++ casing.foldChars base.toList ++ after.toList)
          name.toList := by
  obtain ⟨p, hp, haccepts⟩ := NamePattern.accepts_escapeChars casing
    (before.toList ++ casing.foldChars base.toList ++ after.toList)
  -- the three pieces make one escaped text
  have htext : before ++ casing.literal base ++ after = .ofList
      (escapeChars (before.toList ++ casing.foldChars base.toList ++ after.toList)) := by
    rw [escapeChars_append, escapeChars_append, escapeChars_of_escape hbefore,
      escapeChars_of_escape hafter, String.ofList_append, String.ofList_append,
      String.ofList_toList, String.ofList_toList]
    rfl
  refine ⟨.single id p, ?_, fun name => recognizes_single_iff.trans (haccepts name)⟩
  simp only [Recognizer.derived, derive?, htext, hp]

/-- A name makes a recognizer of the names that meet it. -/
theorem FixedName.recognizerFor_plain (o : FixedName) (expected : String) :
    ∃ r, o.recognizerFor expected = .ok r ∧ ∀ name, r.recognizes name = true ↔
      o.casing.Meets (o.casing.foldChars expected.toList) name.toList := by
  obtain ⟨p, hp, haccepts⟩ := NamePattern.accepts_escapeChars o.casing
    (o.casing.foldChars expected.toList)
  refine ⟨.single o.id p, ?_, fun name => Recognizer.recognizes_single_iff.trans (haccepts name)⟩
  unfold FixedName.recognizerFor
  rw [Casing.literal, hp]

/-- Where an author writes plain text, every value and every name makes a recognizer, and what it
recognizes is the text of the author with what was put into it. This holds of templates whose
placeholders all have values, of names derived without a pattern for base names, and of fixed names
whatever they are. -/
theorem recognizes_plain_iff_meets :
    (∀ (t : Template) inherited values parts, Template.parse t.text = .ok parts →
      (∀ text, .literal text ∈ parts → Pattern.escape text = text) →
      (∀ name, .placeholder name ∈ parts → ∃ value, values.lookup name = some value) →
      ∃ p, t.compile inherited values = .ok ⟨t.id, p⟩ ∧ ∀ name, p.accepts name = true ↔
        (t.casingIn inherited).Meets (t.expected inherited values parts) name.toList) ∧
    (∀ o : DerivedName, o.basename = none → Pattern.escape (o.before.getD "") = o.before.getD "" →
      Pattern.escape (o.after.getD "") = o.after.getD "" →
      ∀ base, ∃ r, o.recognizer base = .ok r ∧ ∀ name, r.recognizes name = true ↔
        o.casing.Meets ((o.before.getD "").toList ++ o.casing.foldChars base.toList ++
          (o.after.getD "").toList) name.toList) ∧
    ∀ (o : FixedName) expected, ∃ r, o.recognizerFor expected = .ok r ∧
      ∀ name, r.recognizes name = true ↔
        o.casing.Meets (o.casing.foldChars expected.toList) name.toList := by
  refine ⟨fun t inherited values parts hparse hliterals hcovered =>
    Template.Plain.compile ⟨hparse, hliterals, hcovered⟩ inherited, ?_,
    FixedName.recognizerFor_plain⟩
  intro o hbasename hbefore hafter base
  have hrecognizer : o.recognizer base = Recognizer.derived o.id base none (o.before.getD "")
      (o.after.getD "") o.casing := by
    unfold DerivedName.recognizer
    rw [hbasename]
    rfl
  rw [hrecognizer]
  exact Recognizer.derived_plain o.id base o.casing hbefore hafter

/-- Marks of patterns and of placeholders in values and names stand for themselves. -/
theorem recognizes_plain_marks :
    (∃ p, Template.compile { id := "t", text := "m_$\x7bx\x7d" } .upper [("x", "ß. $\x7bx\x7d")] =
        .ok ⟨"t", p⟩ ∧
      ∀ name, p.accepts name = true ↔ name.toList = "m_SS__$\x7bX\x7d".toList) ∧
    (∃ r, DerivedName.recognizer { before := some "agg_", casing := .exact } "(.*)" = .ok r ∧
      ∀ name, r.recognizes name = true ↔ name.toList = "agg_(.*)".toList) ∧
    ∃ r, FixedName.recognizerFor { casing := .ignore } "a|b" = .ok r ∧
      ∀ name, r.recognizes name = true ↔
        List.Forall₂ Text.SameFold "a|b".toList name.toList := by
  refine ⟨?_, ?_, recognizes_plain_iff_meets.2.2 { casing := .ignore } "a|b"⟩
  · exact recognizes_plain_iff_meets.1 { id := "t", text := "m_$\x7bx\x7d" } .upper [("x", "ß. $\x7bx\x7d")]
      [.literal "m_", .placeholder "x"] rfl (by simp [Pattern.escape]; decide) (by simp)
  · exact recognizes_plain_iff_meets.2.1 { before := some "agg_", casing := .exact } rfl rfl rfl "(.*)"

end AggregateNaming
