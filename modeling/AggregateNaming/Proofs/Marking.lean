import AggregateNaming.Proofs.CaseFolding
import AggregateNaming.Proofs.CaseMapping
import AggregateNaming.Proofs.Recognition
import Mathlib.Algebra.Order.BigOperators.Group.List
import Mathlib.Tactic.Ring

/-!
# Markers for spaces and dots

A template has a marker for the spaces of its values and one for their dots. The spaces are replaced
first, and then all dots, so that those of the marker for spaces are taken for dots of the value. Here
is what becomes of a value, and when it is the same as if both had been replaced at once.

What could make up for the difference are other values of the same template, the casing policy, which
may write several characters for one, and escaping. None of them does, for a reason of weight: an
escaped dot is lighter than any other character, whatever a policy makes of it. So a marker for dots
that is put in place of a dot in the marker for spaces makes the text heavier, unless it is a dot or
empty; and where it is empty, the text becomes lighter.

## Main definitions

- `Template.markAtOnce` : a value with its spaces and dots replaced at the same time.
- `Template.writeAll` : the parts of a template with markers for spaces and dots.
- `weight` : how heavy a pattern text is.

## Main statements

- `Template.mark_eq_markAtOnce` : what becomes of a value.
- `weight_escapeChars_foldChars` : how heavy a text is as a policy writes it.
- `Template.render_markers` : what a template is filled with, and when the marker for spaces is left as
  it is.
-/

namespace AggregateNaming

open Pattern

/-! ## §1 Replacing at once -/

namespace Template

/-- A value with its spaces and dots replaced at the same time. -/
def markAtOnce (space dot value : List Char) : List Char :=
  value.flatMap fun c => if c = ' ' then space else if c = '.' then dot else [c]

/-- To replace the spaces first and then all dots is to replace them at once, with a marker for spaces
whose dots have been replaced too. -/
theorem replaceChar_replaceChar (space dot value : List Char) :
    replaceChar '.' dot (replaceChar ' ' space value) =
      markAtOnce (replaceChar '.' dot space) dot value := by
  simp only [replaceChar, markAtOnce, List.flatMap_assoc]
  refine List.flatMap_congr fun c _ => ?_
  by_cases hspace : c = ' '
  · simp [hspace]
  · simp [hspace]

theorem mark_eq_markAtOnce (t : Template) (value : String) :
    (t.mark value).toList = markAtOnce (replaceChar '.' t.dotMarker.toList t.spaceMarker.toList)
      t.dotMarker.toList value.toList := by
  rw [mark, String.toList_ofList, replaceChar_replaceChar]

/-- Where a value has no spaces, it does not matter what stands for them. -/
theorem markAtOnce_of_notMem (space space' dot : List Char) {value : List Char} (h : ' ' ∉ value) :
    markAtOnce space dot value = markAtOnce space' dot value := by
  refine List.flatMap_congr fun c hc => ?_
  have hne : c ≠ ' ' := fun heq => h (heq ▸ hc)
  simp [hne]

/-- Dots that are replaced by dots stay. -/
theorem replaceChar_self (c : Char) (cs : List Char) : replaceChar c [c] cs = cs := by
  have hsame : ∀ d ∈ cs, (if d == c then [c] else [d]) = [d] := by
    intro d _
    by_cases hd : d = c
    · simp [hd]
    · simp [hd]
  unfold replaceChar
  rw [List.flatMap_congr hsame]
  exact List.flatMap_singleton' cs

/-- What a part of a template stands for, where `space` and `dot` stand for the spaces and dots of
values: the text of the author as it is, or a value as the policy wants it written, escaped. -/
def writePart (casing : Casing) (values : List (String × String)) (space dot : List Char) :
    TemplatePart → List Char
  | .literal text => text.toList
  | .placeholder name =>
    escapeChars (casing.foldChars (markAtOnce space dot ((values.lookup name).getD "").toList))

/-- What the parts of a template stand for, one after the other. -/
def writeAll (casing : Casing) (values : List (String × String)) (space dot : List Char)
    (parts : List TemplatePart) : List Char :=
  parts.flatMap (writePart casing values space dot)

end Template

/-! ## §2 Weights -/

/-- How heavy a pattern text is. A dot takes away 1, and every other character adds 2. -/
def weight (cs : List Char) : Int := (cs.map fun c => if c = '.' then -1 else 2).sum

@[simp] theorem weight_append (u v : List Char) : weight (u ++ v) = weight u + weight v := by
  simp [weight]

/-- An escaped dot is as light as can be. -/
theorem weight_escapeChar (c : Char) :
    weight (escapeChar c) = if c = '.' then 1 else if isMeta c then 4 else 2 := by
  unfold escapeChar
  split
  next hmeta => by_cases hdot : c = '.' <;> simp [weight, hdot]
  next hplain =>
    have hdot : c ≠ '.' := by
      rintro rfl
      exact hplain rfl
    simp [weight, hdot]

theorem weight_escapeChars_cons (c : Char) (cs : List Char) :
    weight (escapeChars (c :: cs)) = weight (escapeChar c) + weight (escapeChars cs) := by
  simp [escapeChars]

/-- No escaped text is lighter than it has characters. -/
theorem length_le_weight_escapeChars (cs : List Char) : cs.length ≤ weight (escapeChars cs) := by
  induction cs with
  | nil => exact le_refl _
  | cons c cs ih =>
    have hchar : 1 ≤ weight (escapeChar c) := by
      rw [weight_escapeChar]
      split_ifs <;> decide
    rw [weight_escapeChars_cons, List.length_cons]
    omega

/-- How heavy a character is as a policy writes it. -/
def Casing.charWeight (casing : Casing) (c : Char) : Int := weight (escapeChars (casing.foldChars [c]))

/-- A text in lower case is as heavy as its characters. Only a sigma is not always written in the same
way, and it has the same weight in both. -/
theorem weight_escapeChars_toLowerAfter (before cs : List Char) :
    weight (escapeChars (Text.toLowerAfter before cs)) =
      (cs.map (Casing.charWeight .lower)).sum := by
  induction cs generalizing before with
  | nil => rfl
  | cons c cs ih =>
    have hform : weight (escapeChars (if c == 'Σ' then
        (if Text.isFinalSigma before cs then ['ς'] else ['σ']) else Text.lowerChars c)) =
          Casing.charWeight .lower c := by
      by_cases hsigma : c = 'Σ'
      · subst hsigma
        have hweight : Casing.charWeight .lower 'Σ' = 2 := by decide +kernel
        rw [hweight]
        cases Text.isFinalSigma before cs <;> decide +kernel
      · simp [Casing.charWeight, Casing.foldChars, Text.toLower, Text.toLowerAfter, hsigma]
    rw [Text.toLowerAfter, escapeChars_append, weight_append, hform, ih, List.map_cons, List.sum_cons]

/-- A text is as heavy as its characters, whatever a policy makes of them. -/
theorem weight_escapeChars_foldChars (casing : Casing) (cs : List Char) :
    weight (escapeChars (casing.foldChars cs)) = (cs.map casing.charWeight).sum := by
  -- all policies but one write one character after the other
  have hflat : ∀ {f : Char → List Char}, (∀ c, casing.foldChars [c] = f c) →
      weight (escapeChars (cs.flatMap f)) = (cs.map casing.charWeight).sum := by
    intro f hf
    induction cs with
    | nil => rfl
    | cons c cs ih =>
      rw [List.flatMap_cons, escapeChars_append, weight_append, ih, ← hf, List.map_cons, List.sum_cons,
        Casing.charWeight]
  have hself := hflat (f := fun c => [c])
  rw [List.flatMap_singleton'] at hself
  cases casing with
  | ignore => exact hself fun _ => rfl
  | exact => exact hself fun _ => rfl
  | upper => exact hflat fun c => List.flatMap_singleton ..
  | lower => exact weight_escapeChars_toLowerAfter [] cs

/-- A dot has no other case. -/
theorem eq_dot_of_sameFold {c : Char} (h : Text.SameFold c '.') : c = '.' := by
  have hmem := Text.mem_caseVariants_iff.mpr h.symm
  rw [show Text.caseVariants '.' = ['.'] by decide +kernel] at hmem
  exact List.mem_singleton.mp hmem

/-- A dot weighs 1 under every policy, and every other character more. -/
theorem Casing.charWeight_dot (casing : Casing) : casing.charWeight '.' = 1 := by
  cases casing <;> decide +kernel

theorem Casing.two_le_charWeight (casing : Casing) {c : Char} (hc : c ≠ '.') :
    2 ≤ casing.charWeight c := by
  have hone : ∀ {d : Char}, d ≠ '.' → 2 ≤ weight (escapeChars [d]) := by
    intro d hd
    rw [weight_escapeChars_cons, weight_escapeChar, if_neg hd]
    split <;> decide
  have hlong : ∀ {cs : List Char}, 2 ≤ cs.length → 2 ≤ weight (escapeChars cs) := fun hlength =>
    le_trans (by exact_mod_cast hlength) (length_le_weight_escapeChars _)
  have hsame : ∀ {d : Char}, Text.SameFold c d → d ≠ '.' := by
    rintro d hd rfl
    exact hc (eq_dot_of_sameFold hd)
  cases casing with
  | ignore => exact hone hc
  | exact => exact hone hc
  | upper =>
    have hform : Casing.upper.foldChars [c] = Text.upperChars c := List.flatMap_singleton ..
    rw [charWeight, hform]
    by_cases hlength : (Text.upperChars c).length = 1
    · by_cases hdotless : c = 'ı'
      · subst hdotless
        decide +kernel
      · obtain ⟨d, hd, hfold⟩ := Text.sameFold_upperChars_iff.mpr ⟨hlength, hdotless⟩
        rw [hd]
        exact hone (hsame hfold)
    · have hpos := List.length_pos_iff.mpr (Text.upperChars_ne_nil c)
      exact hlong (by omega)
  | lower =>
    by_cases hdotted : c = 'İ'
    · subst hdotted
      decide +kernel
    · obtain ⟨d, hfold, hd⟩ := Text.toLowerAfter_cons [] [] hdotted
      rw [charWeight, foldChars, Text.toLower, hd]
      exact hone (hsame hfold)

/-- No text is lighter than it has characters, whatever a policy makes of them. -/
theorem Casing.length_le_sum_charWeight (casing : Casing) (cs : List Char) :
    cs.length ≤ (cs.map casing.charWeight).sum := by
  induction cs with
  | nil => exact le_refl _
  | cons c cs ih =>
    have hchar : 1 ≤ casing.charWeight c := by
      by_cases hc : c = '.'
      · rw [hc, casing.charWeight_dot]
      · exact le_trans (by decide) (casing.two_le_charWeight hc)
    rw [List.map_cons, List.sum_cons, List.length_cons]
    omega

/-- Only a dot weighs 1. -/
theorem Casing.sum_charWeight_eq_one_iff (casing : Casing) {cs : List Char} :
    (cs.map casing.charWeight).sum = 1 ↔ cs = ['.'] := by
  constructor
  · intro h
    rcases cs with _ | ⟨c, cs⟩
    · cases h
    have hrest := casing.length_le_sum_charWeight cs
    rw [List.map_cons, List.sum_cons] at h
    by_cases hc : c = '.'
    · rw [hc, casing.charWeight_dot] at h
      rw [hc, List.eq_nil_of_length_eq_zero (l := cs) (by omega)]
    · have hchar := casing.two_le_charWeight hc
      omega
  · rintro rfl
    simp [casing.charWeight_dot]

/-! ## §3 Values and templates -/

namespace Template

variable {casing : Casing} {values : List (String × String)}

/-- Every space of a value makes it as much heavier as its marker is heavy. -/
theorem sum_charWeight_markAtOnce (casing : Casing) (space dot value : List Char) :
    ((markAtOnce space dot value).map casing.charWeight).sum =
      value.count ' ' * (space.map casing.charWeight).sum +
        ((markAtOnce [] dot value).map casing.charWeight).sum := by
  induction value with
  | nil => simp [markAtOnce]
  | cons c value ih =>
    simp only [markAtOnce] at ih
    by_cases hspace : c = ' '
    · simp only [markAtOnce, hspace, List.flatMap_cons, if_true, List.map_append, List.sum_append, ih,
        List.count_cons_self, List.nil_append]
      push_cast
      ring
    · simp only [markAtOnce, List.flatMap_cons, if_neg hspace, List.map_append, List.sum_append, ih,
        List.count_cons_of_ne hspace]
      ring

/-- Every dot that is replaced makes a text heavier by what its marker weighs more than a dot. -/
theorem sum_charWeight_replaceChar (casing : Casing) (dot cs : List Char) :
    ((replaceChar '.' dot cs).map casing.charWeight).sum =
      (cs.map casing.charWeight).sum +
        cs.count '.' * ((dot.map casing.charWeight).sum - 1) := by
  induction cs with
  | nil => simp [replaceChar]
  | cons c cs ih =>
    simp only [replaceChar] at ih
    by_cases hdot : c = '.'
    · simp only [replaceChar, hdot, List.flatMap_cons, beq_self_eq_true, if_true, List.map_append,
        List.sum_append, ih, List.map_cons, List.sum_cons, casing.charWeight_dot, List.count_cons_self]
      push_cast
      ring
    · simp only [replaceChar, List.flatMap_cons, beq_false_of_ne hdot, Bool.false_eq_true, if_false,
        List.map_append, List.sum_append, ih, List.map_cons, List.map_nil, List.sum_cons, List.sum_nil,
        List.count_cons_of_ne hdot]
      ring

/-- How many spaces there are in what is put into a part. -/
def spacesIn (values : List (String × String)) : TemplatePart → Nat
  | .literal _ => 0
  | .placeholder name => ((values.lookup name).getD "").toList.count ' '

/-- How heavy a template is with a marker for spaces. -/
theorem weight_writeAll (casing : Casing) (values : List (String × String)) (space dot : List Char)
    (parts : List TemplatePart) :
    weight (writeAll casing values space dot parts) =
      (parts.map (spacesIn values)).sum * (space.map casing.charWeight).sum +
        weight (writeAll casing values [] dot parts) := by
  induction parts with
  | nil => simp [writeAll]
  | cons part parts ih =>
    have hpart : weight (writePart casing values space dot part) =
        spacesIn values part * (space.map casing.charWeight).sum +
          weight (writePart casing values [] dot part) := by
      cases part with
      | literal text => simp [writePart, spacesIn]
      | placeholder name =>
        simp only [writePart, spacesIn, weight_escapeChars_foldChars]
        exact sum_charWeight_markAtOnce casing space dot _
    simp only [writeAll] at ih
    simp only [writeAll, List.flatMap_cons, weight_append, hpart, ih, List.map_cons, List.sum_cons]
    push_cast
    ring

/-- To replace dots in the marker for spaces changes a template with spaces in its values, unless there
are none or they are replaced by dots. -/
theorem writeAll_replaceChar_eq_iff (casing : Casing) (values : List (String × String))
    (space dot : List Char) (parts : List TemplatePart) :
    writeAll casing values (replaceChar '.' dot space) dot parts =
        writeAll casing values space dot parts ↔
      '.' ∉ space ∨ dot = ['.'] ∨
        ∀ name, .placeholder name ∈ parts → ' ' ∉ ((values.lookup name).getD "").toList := by
  constructor
  · intro h
    -- both sides weigh the same
    have hweight := congrArg weight h
    rw [weight_writeAll casing values (replaceChar '.' dot space), weight_writeAll casing values space,
      sum_charWeight_replaceChar, add_left_inj, Int.mul_add, add_eq_left] at hweight
    rcases Int.mul_eq_zero.mp hweight with hspaces | hrest
    · refine .inr (.inr fun name hname => List.count_eq_zero.mp ?_)
      have hsum : (parts.map (spacesIn values)).sum = 0 := by exact_mod_cast hspaces
      exact List.sum_eq_zero_iff.mp hsum _ (List.mem_map_of_mem hname)
    rcases Int.mul_eq_zero.mp hrest with hdots | hdot
    · exact .inl (List.count_eq_zero.mp (by exact_mod_cast hdots))
    · exact .inr (.inl (casing.sum_charWeight_eq_one_iff.mp (by omega)))
  · rintro (hspace | rfl | hvalues)
    · rw [replaceChar_of_notMem dot hspace]
    · rw [replaceChar_self]
    · refine List.flatMap_congr fun part hpart => ?_
      cases part with
      | literal text => rfl
      | placeholder name =>
        rw [writePart, writePart, markAtOnce_of_notMem _ space dot (hvalues name hpart)]

/-- A template is filled exactly when it can be read and there is a value for each placeholder. -/
theorem render_eq_ok_iff {t : Template} {inherited : Casing} {text : String} :
    t.render inherited values = .ok text ↔
      ∃ parts, Template.parse t.text = .ok parts ∧
        (∀ name, .placeholder name ∈ parts → ∃ value, values.lookup name = some value) ∧
        text = .ofList (writeAll (t.casingIn inherited) values
          (replaceChar '.' t.dotMarker.toList t.spaceMarker.toList) t.dotMarker.toList parts) := by
  have hwritten : ∀ parts, fill (t.filling inherited values) (parts.flatMap TemplatePart.symbols) =
      writeAll (t.casingIn inherited) values
        (replaceChar '.' t.dotMarker.toList t.spaceMarker.toList) t.dotMarker.toList parts := by
    intro parts
    rw [fill, List.flatMap_assoc]
    refine List.flatMap_congr fun part _ => ?_
    cases part with
    | literal text => exact fill_map_char _ _
    | placeholder name =>
      simp only [TemplatePart.symbols, List.flatMap_cons, List.flatMap_nil, List.append_nil,
        Symbol.fill, Template.filling, writePart, mark_eq_markAtOnce]
  constructor
  · intro h
    cases hparse : Template.parse t.text with
    | error cause =>
      rw [render, hparse] at h
      cases h
    | ok parts =>
      have hcovers : ∀ name, .placeholder name ∈ parts → ∃ value, values.lookup name = some value := by
        intro name hname
        cases hlookup : values.lookup name with
        | some value => exact ⟨value, rfl⟩
        | none =>
          -- the part would have been refused
          cases hmapped : parts.mapM (t.renderPart inherited values) with
          | error cause =>
            simp only [render, hparse, bind, Except.bind, hmapped] at h
            cases h
          | ok texts =>
            obtain ⟨piece, hpiece⟩ := forall_of_mapM_eq_ok hmapped _ hname
            simp only [renderPart, hlookup] at hpiece
            cases hpiece
      rw [render_eq hparse hcovers, hwritten] at h
      exact ⟨parts, rfl, hcovers, (Except.ok.inj h).symm⟩
  · rintro ⟨parts, hparse, hcovers, rfl⟩
    rw [render_eq hparse hcovers, hwritten]

/-- A template is filled exactly when it can be read and there is a value for each placeholder: then its
text is the text of the author as it is, with every value escaped after its spaces and dots have been
replaced at once, the spaces by their marker with its dots replaced too. That is the same as with the
marker as it is exactly when the marker has no dots, or dots are replaced by dots, or no value that is
put in has a space. -/
theorem render_markers (t : Template) (inherited : Casing) (values : List (String × String)) :
    (∀ text, t.render inherited values = .ok text ↔
      ∃ parts, Template.parse t.text = .ok parts ∧
        (∀ name, .placeholder name ∈ parts → ∃ value, values.lookup name = some value) ∧
        text = .ofList (writeAll (t.casingIn inherited) values
          (replaceChar '.' t.dotMarker.toList t.spaceMarker.toList) t.dotMarker.toList parts)) ∧
    ∀ parts text, Template.parse t.text = .ok parts → t.render inherited values = .ok text →
      (text = .ofList (writeAll (t.casingIn inherited) values t.spaceMarker.toList
          t.dotMarker.toList parts) ↔
        '.' ∉ t.spaceMarker.toList ∨ t.dotMarker = "." ∨
          ∀ name, .placeholder name ∈ parts → ' ' ∉ ((values.lookup name).getD "").toList) := by
  refine ⟨fun text => render_eq_ok_iff, fun parts text hparse hrender => ?_⟩
  obtain ⟨parts', hparse', -, rfl⟩ := render_eq_ok_iff.mp hrender
  obtain rfl := Except.ok.inj (hparse.symm.trans hparse')
  have hdot : t.dotMarker = "." ↔ t.dotMarker.toList = ['.'] := by
    rw [← String.toList_inj]
    rfl
  rw [String.ofList_inj, writeAll_replaceChar_eq_iff, hdot]

/-- A template whose marker for spaces has a dot. -/
def dotted : Template := { id := "t", text := "$\x7bx\x7d", space := some "." }

/-- A value without spaces is written with the markers as they are, whatever they are. -/
theorem render_dotted_of_no_space :
    dotted.render .exact [("x", "a.b")] = .ok "a_b" ∧
      "a_b" = .ofList (writeAll .exact [("x", "a.b")] ['.'] ['_'] [.placeholder "x"]) := by
  have hparse : Template.parse dotted.text = .ok [.placeholder "x"] := by decide +kernel
  have hrender : dotted.render .exact [("x", "a.b")] = .ok "a_b" :=
    ((render_markers dotted .exact [("x", "a.b")]).1 "a_b").mpr
      ⟨[.placeholder "x"], hparse, by simp, by decide +kernel⟩
  refine ⟨hrender, ((render_markers dotted .exact [("x", "a.b")]).2 _ _ hparse hrender).mpr ?_⟩
  exact .inr (.inr (by simp))

/-- A space of a value, and a marker for it with a dot, which is not left as it is. -/
theorem render_dotted_of_space :
    Template.parse dotted.text = .ok [.placeholder "x"] ∧
      dotted.render .exact [("x", "a b")] = .ok "a_b" ∧
      "a_b" ≠ .ofList (writeAll (dotted.casingIn .exact) [("x", "a b")] dotted.spaceMarker.toList
        dotted.dotMarker.toList [.placeholder "x"]) := by
  decide +kernel

end Template

end AggregateNaming
