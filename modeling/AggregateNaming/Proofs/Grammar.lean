import AggregateNaming.Proofs.Fallible
import AggregateNaming.Template
import Mathlib.Data.List.Chain
import Mathlib.Data.Set.Function

/-!
# The grammar of templates

Templates have a grammar: lists of literals and placeholders in which a literal is neither empty nor
followed by another one, does not open a placeholder, and in which placeholders have names. Reading a
template is the inverse of printing such a list, so that a text has at most one list of parts.

## Main definitions

- `Template.WellFormed` : the lists of parts of the grammar.
- `TemplatePlace.Reads` : what is read from a place, said by what is printed.

## Main statements

- `Template.reads_of_parseFrom` : what has been read is well formed and prints as the text.
- `Template.parseFrom_print` : what is well formed is read as it was printed.
- `Template.parse_iff_wellFormed_print` : both, and when reading fails.
-/

namespace AggregateNaming

/-! ## §1 Well-formed parts -/

/-- The names of placeholders: not empty, and of ASCII letters, digits and underscores. -/
def IsPlaceholderName (name : String) : Prop :=
  name ≠ "" ∧ ∀ c ∈ name.toList,
    ('a' ≤ c ∧ c ≤ 'z') ∨ ('A' ≤ c ∧ c ≤ 'Z') ∨ ('0' ≤ c ∧ c ≤ '9') ∨ c = '_'

/-- The mark that opens a placeholder does not lie on two characters. -/
def Unopened (c d : Char) : Prop := ¬(c = '$' ∧ d = '{')

/-- Nothing opens a placeholder in a text when no two neighbours do. -/
theorem isChain_unopened_iff {w : List Char} : w.IsChain Unopened ↔ ¬['$', '{'] <:+: w := by
  rw [List.isChain_iff_forall_rel_of_append_cons_cons]
  constructor
  · rintro h ⟨u, v, rfl⟩
    have hcut : u ++ ['$', '{'] ++ v = u ++ '$' :: '{' :: v := by simp
    exact h hcut ⟨rfl, rfl⟩
  · rintro h _ _ u v rfl ⟨rfl, rfl⟩
    exact h ⟨u, v, by simp⟩

namespace TemplatePart

/-- A part is pattern text of the author. -/
def IsLiteral : TemplatePart → Prop
  | literal _ => True
  | placeholder _ => False

/-- The parts of the grammar: a literal is not empty and does not open a placeholder, and what a
placeholder has is a name. -/
def WellFormed : TemplatePart → Prop
  | literal text => text ≠ "" ∧ ¬['$', '{'] <:+: text.toList
  | placeholder name => IsPlaceholderName name

/-- The characters of names are the ASCII letters, digits and the underscore. -/
theorem isNameChar_iff (c : Char) :
    isNameChar c = true ↔
      ('a' ≤ c ∧ c ≤ 'z') ∨ ('A' ≤ c ∧ c ≤ 'Z') ∨ ('0' ≤ c ∧ c ≤ '9') ∨ c = '_' := by
  change (decide ('A' ≤ c ∧ c ≤ 'Z') || decide ('a' ≤ c) && decide (c ≤ 'z') ||
    decide ('0' ≤ c) && decide (c ≤ '9') || c == '_') = true ↔ _
  simp only [Bool.or_eq_true, Bool.and_eq_true, decide_eq_true_eq, beq_iff_eq, or_assoc]
  exact or_left_comm

/-- Characters make a placeholder when they make a name. -/
theorem ofName_eq_ok_iff {text : String} {cs : List Char} {p : TemplatePart} :
    ofName text cs = .ok p ↔ IsPlaceholderName (.ofList cs) ∧ p = placeholder (.ofList cs) := by
  have hname : IsPlaceholderName (.ofList cs) ↔ cs ≠ [] ∧ cs.all isNameChar = true := by
    simp only [IsPlaceholderName, String.toList_ofList, List.all_eq_true, isNameChar_iff, ne_eq,
      String.ofList_eq_empty_iff]
  rw [hname, ofName]
  split_ifs with hempty hall
  · exact iff_of_false nofun fun h => h.1.1 (List.isEmpty_iff.mp hempty)
  · rw [Except.ok.injEq, eq_comm]
    exact (and_iff_right ⟨fun h => hempty (List.isEmpty_iff.mpr h), hall⟩).symm
  · exact iff_of_false nofun fun h => hall h.1.2

end TemplatePart

namespace Template

open TemplatePart (literal placeholder)

/-- The lists of parts of the grammar: all of their parts are, and no literal follows another one. -/
structure WellFormed (parts : List TemplatePart) : Prop where
  each : ∀ p ∈ parts, p.WellFormed
  apart : parts.IsChain fun p q => ¬(p.IsLiteral ∧ q.IsLiteral)

@[simp] theorem wellFormed_nil : WellFormed [] :=
  ⟨by simp, List.isChain_nil⟩

/-- A placeholder may stand before anything. -/
@[simp] theorem wellFormed_placeholder_cons {name : String} {ps : List TemplatePart} :
    WellFormed (placeholder name :: ps) ↔ IsPlaceholderName name ∧ WellFormed ps := by
  constructor
  · intro h
    exact ⟨h.each _ List.mem_cons_self, fun p hp => h.each p (by simp [hp]), h.apart.tail⟩
  · rintro ⟨hname, h⟩
    refine ⟨List.forall_mem_cons.mpr ⟨hname, h.each⟩, List.isChain_cons.mpr ⟨?_, h.apart⟩⟩
    exact fun _ _ hboth => hboth.1

/-- A literal may stand before a placeholder and at the end. -/
theorem wellFormed_literal_cons {text : String} {ps : List TemplatePart} :
    WellFormed (literal text :: ps) ↔
      (literal text).WellFormed ∧ (∀ q ∈ ps.head?, ¬q.IsLiteral) ∧ WellFormed ps := by
  constructor
  · intro h
    obtain ⟨hhead, htail⟩ := List.isChain_cons.mp h.apart
    exact ⟨h.each _ List.mem_cons_self, fun q hq hlit => hhead q hq ⟨trivial, hlit⟩,
      fun p hp => h.each p (by simp [hp]), htail⟩
  · rintro ⟨htext, hhead, h⟩
    refine ⟨List.forall_mem_cons.mpr ⟨htext, h.each⟩, List.isChain_cons.mpr ⟨?_, h.apart⟩⟩
    exact fun q hq hboth => hhead q hq hboth.2

/-- What has been taken of a literal is one, if it is anything. -/
theorem wellFormed_literal?_append {w : List Char} {ps : List TemplatePart}
    (hw : w.IsChain Unopened) (hhead : ∀ q ∈ ps.head?, ¬q.IsLiteral) (hps : WellFormed ps) :
    WellFormed (TemplatePart.literal? w ++ ps) := by
  unfold TemplatePart.literal?
  split_ifs with hempty
  · exact hps
  · refine wellFormed_literal_cons.mpr ⟨⟨?_, ?_⟩, hhead, hps⟩
    · simpa using hempty
    · rw [String.toList_ofList]
      exact isChain_unopened_iff.mp hw

/-! ## §2 What has been read -/

/-- The characters of a list of parts. -/
def printChars (ps : List TemplatePart) : List Char := ps.flatMap TemplatePart.print

@[simp] theorem printChars_nil : printChars [] = [] := rfl

@[simp] theorem printChars_literal_cons (text : String) (ps : List TemplatePart) :
    printChars (literal text :: ps) = text.toList ++ printChars ps := rfl

@[simp] theorem printChars_placeholder_cons (name : String) (ps : List TemplatePart) :
    printChars (placeholder name :: ps) = '$' :: '{' :: (name.toList ++ '}' :: printChars ps) := by
  simp [printChars, TemplatePart.print]

@[simp] theorem printChars_literal?_append (w : List Char) (ps : List TemplatePart) :
    printChars (TemplatePart.literal? w ++ ps) = w ++ printChars ps := by
  unfold TemplatePart.literal?
  split_ifs with hempty
  · simp [List.isEmpty_iff.mp hempty]
  · simp

end Template

/-- What is read from a place on, said by what is printed: together with the characters there so far, a
well-formed list of parts, which inside of a placeholder begins with that. -/
def TemplatePlace.Reads : TemplatePlace → List Char → List TemplatePart → Prop
  | inLiteral taken, cs, ps => Template.WellFormed ps ∧ Template.printChars ps = taken.reverse ++ cs
  | inPlaceholder taken, cs, ps => ∃ name qs, ps = .placeholder name :: qs ∧
      Template.WellFormed ps ∧ name.toList ++ '}' :: Template.printChars qs = taken.reverse ++ cs

/-- Nothing opens a placeholder in the characters of a literal so far, nor where they meet the next
one. -/
def TemplatePlace.Unbroken : TemplatePlace → List Char → Prop
  | inLiteral taken, cs => (taken.reverse ++ cs.head?.toList).IsChain Unopened
  | inPlaceholder _, _ => True

/-- A literal that has not begun is unbroken. -/
theorem TemplatePlace.unbroken_nil (cs : List Char) : (inLiteral []).Unbroken cs := by
  cases cs <;> simp [Unbroken]

/-- A literal that takes a character more is unbroken as long as the character does not open a
placeholder together with the next one. -/
theorem TemplatePlace.unbroken_cons {taken : List Char} {c : Char} {rest : List Char}
    (h : (inLiteral taken).Unbroken (c :: rest))
    (hopen : ∀ rest', c = '$' → rest = '{' :: rest' → False) :
    (inLiteral (c :: taken)).Unbroken rest := by
  have hnext : ∀ d ∈ rest.head?, Unopened c d := by
    rintro d hd ⟨rfl, rfl⟩
    obtain ⟨rest', hrest⟩ := List.head?_eq_some_iff.mp hd
    exact hopen rest' rfl hrest
  change ((c :: taken).reverse ++ rest.head?.toList).IsChain Unopened
  refine List.isChain_append.mpr ⟨by rw [List.reverse_cons]; exact h, ?_, ?_⟩
  · cases rest <;> simp
  · cases rest with
    | nil => simp
    | cons d rest => simpa using hnext d

namespace Template

open TemplatePart (literal placeholder)

/-- What has been read from a place on is well formed and prints as the text there. -/
theorem reads_of_parseFrom {text : String} {place : TemplatePlace} {cs : List Char}
    {ps : List TemplatePart} (hunbroken : place.Unbroken cs)
    (h : parseFrom text place cs = .ok ps) : place.Reads cs ps := by
  -- by the turns of the reader, which are in a literal or in a placeholder
  fun_induction parseFrom text place cs generalizing ps with
  | case1 taken =>
    -- the text ends in a literal
    cases h
    have htaken : taken.reverse.IsChain Unopened := by simpa [TemplatePlace.Unbroken] using hunbroken
    have hparts := wellFormed_literal?_append htaken (by simp) wellFormed_nil
    have hprint := printChars_literal?_append taken.reverse []
    rw [List.append_nil] at hparts hprint
    exact ⟨hparts, hprint⟩
  | case2 taken rest ih =>
    -- a placeholder ends the literal
    obtain ⟨qs, hqs, h⟩ := bind_eq_ok_iff.mp h
    cases h
    obtain ⟨name, rest', rfl, hparts, hprint⟩ := ih trivial hqs
    refine ⟨wellFormed_literal?_append ?_ (by simp [TemplatePart.IsLiteral]) hparts, ?_⟩
    · exact (List.isChain_append.mp hunbroken).1
    · rw [printChars_literal?_append, printChars_placeholder_cons, hprint]
      rfl
  | case3 taken c rest hopen ih =>
    -- the literal goes on
    obtain ⟨hparts, hprint⟩ := ih (TemplatePlace.unbroken_cons hunbroken hopen) h
    exact ⟨hparts, by simpa using hprint⟩
  | case4 taken =>
    -- the text ends inside of a placeholder
    cases h
  | case5 taken rest ih =>
    -- the placeholder is closed, and the next literal begins
    obtain ⟨part, hpart, h⟩ := bind_eq_ok_iff.mp h
    obtain ⟨qs, hqs, h⟩ := bind_eq_ok_iff.mp h
    cases h
    obtain ⟨hname, rfl⟩ := TemplatePart.ofName_eq_ok_iff.mp hpart
    obtain ⟨hparts, hprint⟩ := ih (TemplatePlace.unbroken_nil rest) hqs
    refine ⟨_, qs, rfl, wellFormed_placeholder_cons.mpr ⟨hname, hparts⟩, ?_⟩
    rw [hprint, String.toList_ofList]
    rfl
  | case6 taken c rest hclose ih =>
    -- the name of the placeholder goes on
    obtain ⟨name, qs, rfl, hparts, hprint⟩ := ih trivial h
    exact ⟨name, qs, rfl, hparts, by simpa using hprint⟩

/-! ## §3 What is printed -/

/-- A character that opens no placeholder is taken into the literal. -/
theorem parseFrom_literal_cons (text : String) (taken : List Char) {c : Char} {rest : List Char}
    (h : ∀ d ∈ rest.head?, Unopened c d) :
    parseFrom text (.inLiteral taken) (c :: rest) =
      parseFrom text (.inLiteral (c :: taken)) rest := by
  rw [parseFrom]
  rintro rest' rfl rfl
  exact h '{' (by simp) ⟨rfl, rfl⟩

/-- A row of characters that opens no placeholder, not even with what follows, is taken into the
literal. -/
theorem parseFrom_literal_append (text : String) {w rest : List Char} (taken : List Char)
    (hw : w.IsChain Unopened) (hrest : rest.head? ≠ some '{') :
    parseFrom text (.inLiteral taken) (w ++ rest) =
      parseFrom text (.inLiteral (w.reverse ++ taken)) rest := by
  induction w generalizing taken with
  | nil => rfl
  | cons c w ih =>
    obtain ⟨hnext, hw⟩ := List.isChain_cons.mp hw
    have hstep : ∀ d ∈ (w ++ rest).head?, Unopened c d := by
      cases w with
      | nil =>
        rintro d hd ⟨-, rfl⟩
        exact hrest hd
      | cons d w => simpa using hnext
    rw [List.cons_append, parseFrom_literal_cons text taken hstep, ih (c :: taken) hw]
    simp

/-- A row of characters without the mark that closes a placeholder is taken into its name. -/
theorem parseFrom_name_append (text : String) {w : List Char} (taken rest : List Char)
    (hw : '}' ∉ w) :
    parseFrom text (.inPlaceholder taken) (w ++ '}' :: rest) =
      parseFrom text (.inPlaceholder (w.reverse ++ taken)) ('}' :: rest) := by
  induction w generalizing taken with
  | nil => rfl
  | cons c w ih =>
    obtain ⟨hc, hw⟩ : c ≠ '}' ∧ '}' ∉ w := by simpa [eq_comm] using hw
    have hstep : parseFrom text (.inPlaceholder taken) (c :: (w ++ '}' :: rest)) =
        parseFrom text (.inPlaceholder (c :: taken)) (w ++ '}' :: rest) := by
      rw [parseFrom]
      exact hc
    rw [List.cons_append, hstep, ih (c :: taken) hw]
    simp

/-- The mark that closes a placeholder is in no name. -/
theorem closing_notMem_of_isPlaceholderName {name : String} (h : IsPlaceholderName name) :
    '}' ∉ name.toList := by
  intro hmem
  have := h.2 '}' hmem
  revert this
  decide

/-- A placeholder ends the literal before it, and what follows it is read on its own. -/
theorem parseFrom_placeholder (text : String) (taken : List Char) {name : String}
    {ps : List TemplatePart} (hname : IsPlaceholderName name)
    (hps : parseFrom text (.inLiteral []) (printChars ps) = .ok ps) :
    parseFrom text (.inLiteral taken) (printChars (placeholder name :: ps)) =
      .ok (TemplatePart.literal? taken.reverse ++ placeholder name :: ps) := by
  have hpart : TemplatePart.ofName text name.toList = .ok (placeholder name) :=
    TemplatePart.ofName_eq_ok_iff.mpr (by simpa using hname)
  rw [printChars_placeholder_cons, parseFrom,
    parseFrom_name_append text [] _ (closing_notMem_of_isPlaceholderName hname), parseFrom,
    List.append_nil, List.reverse_reverse, hpart, hps]
  rfl

/-- What is well formed is read as it was printed. -/
theorem parseFrom_print (text : String) : {ps : List TemplatePart} → WellFormed ps →
    parseFrom text (.inLiteral []) (printChars ps) = .ok ps
  | [], _ => rfl
  | placeholder name :: ps, h => by
    obtain ⟨hname, hps⟩ := wellFormed_placeholder_cons.mp h
    exact parseFrom_placeholder text [] hname (parseFrom_print text hps)
  | literal t :: ps, h => by
    obtain ⟨⟨hempty, hopen⟩, hhead, hps⟩ := wellFormed_literal_cons.mp h
    have ht : TemplatePart.literal? t.toList = [literal t] := by
      simp [TemplatePart.literal?, hempty]
    -- what follows the literal does not end its first mark with the second one
    rw [printChars_literal_cons, parseFrom_literal_append text [] (isChain_unopened_iff.mpr hopen),
      List.append_nil]
    · match ps with
      | [] => rw [printChars_nil, parseFrom, List.reverse_reverse, ht]
      | placeholder name :: ps =>
        obtain ⟨hname, hps⟩ := wellFormed_placeholder_cons.mp hps
        rw [parseFrom_placeholder text _ hname (parseFrom_print text hps), List.reverse_reverse, ht]
        rfl
      | literal t' :: ps => exact absurd trivial (hhead (literal t') rfl)
    · match ps with
      | [] => simp
      | placeholder name :: ps => simp
      | literal t' :: ps => exact absurd trivial (hhead (literal t') rfl)

/-! ## §4 Reading and printing -/

/-- Reading succeeds with a list of parts exactly when they are well formed and print as the text. -/
theorem parse_eq_ok_iff {text : String} {ps : List TemplatePart} :
    parse text = .ok ps ↔ WellFormed ps ∧ print ps = text := by
  constructor
  · intro h
    obtain ⟨hps, hprint⟩ := reads_of_parseFrom (TemplatePlace.unbroken_nil _) h
    refine ⟨hps, ?_⟩
    change String.ofList (printChars ps) = text
    rw [hprint]
    simp
  · rintro ⟨hps, rfl⟩
    unfold parse
    rw [print, String.toList_ofList]
    exact parseFrom_print _ hps

/-- The grammar of templates. Reading answers with a list of parts exactly when the list is well formed
and prints as the text; it fails, as a template that cannot be read, exactly when the text is what no
well-formed list prints as; and no two well-formed lists print as the same text. -/
theorem parse_iff_wellFormed_print :
    (∀ text ps, parse text = .ok ps ↔ WellFormed ps ∧ print ps = text) ∧
    (∀ text, (∃ e : TemplateError, parse text = .error e) ↔ ¬∃ ps, WellFormed ps ∧ print ps = text) ∧
    {ps | WellFormed ps}.InjOn print := by
  refine ⟨fun text ps => parse_eq_ok_iff, fun text => ?_, fun ps hps qs hqs heq => ?_⟩
  · simp only [← parse_eq_ok_iff]
    cases parse text with
    | ok ps => exact iff_of_false nofun fun h => h ⟨ps, rfl⟩
    | error e => exact iff_of_true ⟨e, rfl⟩ nofun
  · have h := parse_eq_ok_iff.mpr ⟨hps, rfl⟩
    rw [heq, parse_eq_ok_iff.mpr ⟨hqs, rfl⟩] at h
    exact (Except.ok.inj h).symm

-- A lone mark is text, before a placeholder too, and what closes one is text outside of it.
example : parse "$a$$\x7bx\x7d\x7d" = .ok [.literal "$a$", .placeholder "x", .literal "\x7d"] := by
  decide

end Template

end AggregateNaming
