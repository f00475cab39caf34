import AggregateNaming.Proofs.Pattern.BlindBracket
import Mathlib.Data.List.Basic

/-!
# Text behind what is read

Two written patterns are put one behind the other and read as one text. Here is why the tokens of the
first one stay what they are, where blanks count: a reader that comes to the end of what it takes does
not see what follows it. The marks that would belong to what is before them are a question mark and an
opening brace, and no pattern begins with one of those.

This is the way back from the readers that do not see what they leave. There something is taken away
behind the text; here it is added.

## Main definitions

- `Quiet` : a text does not begin with a mark that belongs to what is before it.
- `Settled` : a reader that a text behind the one that it reads does not disturb.

## Main statements

- `settled_escaped`, `settled_readCounts`, `settled_readGroup` : readers one by one.
- `settled_bracketRead` : a bracket as a whole.
- `Token.read_append` : a token is the same with a text behind it.
-/

namespace AggregateNaming.Pattern

/-! ## §1 Readers with a text behind -/

/-- A text does not begin with a mark that belongs to what is before it. -/
structure Quiet (w : List Char) : Prop where
  question : ∀ k, w ≠ '?' :: k
  brace : ∀ k, w ≠ '{' :: k

/-- A reader that a text behind the one that it reads does not disturb. -/
def Settled (w : List Char) {α : Type} (f : List Char → Except PatternError (α × List Char)) : Prop :=
  ∀ s a r, f s = .ok (a, r) → f (s ++ w) = .ok (a, r ++ w)

namespace Settled

variable {w : List Char} {α β : Type} {f g : List Char → Except PatternError (α × List Char)}

/-- Two readers that take the same. -/
protected theorem congr (hf : Settled w f) (h : ∀ cs, f cs = g cs) : Settled w g :=
  funext h ▸ hf

/-- A reader that takes nothing. -/
protected theorem pure (a : α) : Settled w fun cs => .ok (a, cs) := by
  intro s a r h
  cases h
  rfl

/-- A reader that always fails. -/
protected theorem error (e : List Char → PatternError) :
    Settled w fun cs => (.error (e cs) : Except PatternError (α × List Char)) := by
  intro s a r h
  cases h

/-- One reader after another. -/
protected theorem bind {g : α → List Char → Except PatternError (β × List Char)} (hf : Settled w f)
    (hg : ∀ a, Settled w (g a)) : Settled w fun cs => f cs >>= fun p => g p.1 p.2 := by
  intro s b r h
  obtain ⟨⟨a, k⟩, hfirst, hnext⟩ := bind_eq_ok_iff.mp h
  exact bind_eq_ok_iff.mpr ⟨(a, k ++ w), hf s a k hfirst, hg a k b r hnext⟩

/-- A reader that depends on something that may fail. -/
protected theorem lift {x : Except PatternError β}
    {g : β → List Char → Except PatternError (α × List Char)} (hg : ∀ b, Settled w (g b)) :
    Settled w fun cs => x >>= fun b => g b cs := by
  intro s a r h
  obtain ⟨b, hx, hnext⟩ := bind_eq_ok_iff.mp h
  exact bind_eq_ok_iff.mpr ⟨b, hx, hg b s a r hnext⟩

/-- One of two readers. -/
protected theorem ite {P : Prop} [Decidable P] (hf : Settled w f) (hg : Settled w g) :
    Settled w fun cs => if P then f cs else g cs := by
  by_cases h : P
  · simpa only [if_pos h] using hf
  · simpa only [if_neg h] using hg

/-- A reader that needs a first character, whichever it is. -/
theorem of_consuming (hnil : ∃ e, f [] = .error e) (hcons : ∀ c, Settled w fun cs => f (c :: cs)) :
    Settled w f := by
  intro s a r h
  cases s with
  | nil =>
    obtain ⟨e, he⟩ := hnil
    rw [he] at h
    cases h
  | cons c cs => exact hcons c cs a r h

/-- A reader that takes nothing of an empty text nor of the one behind it. -/
theorem of_idle {a : α} (hnil : f [] = .ok (a, [])) (hidle : f w = .ok (a, w))
    (hcons : ∀ c, Settled w fun cs => f (c :: cs)) : Settled w f := by
  intro s b r h
  cases s with
  | nil =>
    rw [hnil] at h
    cases h
    exact hidle
  | cons c cs => exact hcons c cs b r h

/-- A reader that does before one first character what another one does. -/
theorem cons_of_eq {c : Char} (hg : Settled w g) (h : ∀ cs, f (c :: cs) = g (c :: cs)) :
    Settled w fun cs => f (c :: cs) := by
  intro s a r hs
  exact (h (s ++ w)).trans (hg (c :: s) a r ((h s).symm.trans hs))

/-- Skipping what does not count, where blanks count, and then reading. -/
theorem afterSkip (hf : Settled w f) : Settled w fun cs => f (skip false cs) := hf

end Settled

variable {w : List Char}

/-! ## §2 Numbers and escapes -/

/-- A stretch of characters ends where another character stands. -/
theorem takeCounted_append {test : Char → Bool} {cs taken r : List Char} {c : Char}
    (h : takeCounted false test false cs = (taken, c :: r)) :
    takeCounted false test false (cs ++ w) = (taken, c :: r ++ w) := by
  induction cs generalizing taken with
  | nil => cases h
  | cons d cs ih =>
    rw [takeCounted_false, List.span_eq_takeWhile_dropWhile] at h ih ⊢
    rw [takeCounted_false, List.span_eq_takeWhile_dropWhile] at ih
    cases hd : test d with
    | true =>
      simp only [List.cons_append, List.takeWhile_cons, List.dropWhile_cons, hd, if_true] at h ⊢
      obtain ⟨rfl, hrest⟩ := Prod.mk.inj h
      obtain ⟨htaken, hdropped⟩ := Prod.mk.inj (ih (Prod.ext rfl hrest))
      rw [htaken, hdropped]
      rfl
    | false =>
      simp only [List.cons_append, List.takeWhile_cons, List.dropWhile_cons, hd] at h ⊢
      cases h
      rfl

/-- A reader that goes on behind a stretch of characters, and needs one there. -/
theorem settled_counted {α : Type} (test : Char → Bool)
    {g : List Char → List Char → Except PatternError (α × List Char)}
    (hnil : ∀ taken, ∃ e, g taken [] = .error e) (hg : ∀ taken, Settled w (g taken)) :
    Settled w fun cs => g (takeCounted false test false cs).1 (takeCounted false test false cs).2 := by
  intro s a r h
  dsimp only at h ⊢
  cases hcounted : takeCounted false test false s with
  | mk taken rest =>
    rw [hcounted] at h
    cases rest with
    | nil =>
      obtain ⟨e, he⟩ := hnil taken
      rw [he] at h
      cases h
    | cons c rest =>
      rw [takeCounted_append hcounted]
      exact hg taken (c :: rest) a r h

/-- The text up to a closing brace. -/
theorem settled_takeBraced : Settled w (takeBraced false) := by
  have hrest : ∀ name : List Char, Settled w (pastBrace name) := fun name =>
    .of_consuming ⟨_, rfl⟩ fun _ => .pure name
  refine (settled_counted (· != '}') (fun _ => ⟨_, rfl⟩) hrest).congr fun cs => ?_
  unfold takeBraced
  rcases takeCounted false (· != '}') false cs with ⟨name, _ | ⟨d, rest⟩⟩ <;> rfl

/-- Blanks end where another character stands. -/
theorem dropBlanks_append {cs r : List Char} {c : Char} (h : cs.dropWhile Text.isBlank = c :: r) :
    (cs ++ w).dropWhile Text.isBlank = c :: r ++ w := by
  rw [List.dropWhile_append, h]
  rfl

/-- A decimal number ends where something else stands. -/
theorem decimal_append {cs r : List Char} {c : Char} {n : Nat}
    (h : decimal false cs = .ok (n, c :: r)) :
    decimal false (cs ++ w) = .ok (n, c :: r ++ w) := by
  unfold decimal at h ⊢
  cases hblanks : cs.dropWhile Text.isBlank with
  | nil =>
    rw [hblanks] at h
    cases h
  | cons d l =>
    rw [hblanks] at h
    rw [dropBlanks_append hblanks]
    cases hdigits : takeCounted false Char.isDigit false (d :: l) with
    | mk digits rest =>
      rw [hdigits] at h
      dsimp only at h
      split_ifs at h with hempty hsmall
      obtain ⟨rfl, hrest⟩ := Prod.mk.inj (Except.ok.inj h)
      cases rest with
      | nil => cases hrest
      | cons e rest =>
        rw [takeCounted_append hdigits]
        dsimp only
        rw [if_neg hempty, if_pos hsmall, dropBlanks_append hrest]

/-- Hexadecimal digits, as many as are asked for. -/
theorem settled_hexDigits (count number : Nat) : Settled w (hexDigits false count number) := by
  induction count generalizing number with
  | zero => exact .pure number
  | succ count ih =>
    refine .of_consuming ⟨_, rfl⟩ fun c => ?_
    simp only [hexDigits]
    cases Text.hexDigit? c with
    | none => exact .error _
    | some d => exact (ih _).afterSkip

/-- A hexadecimal escape. -/
theorem settled_hexEscape (count : Nat) : Settled w (hexEscape false count) := by
  -- a number of digits, or as many as there are between braces
  have hdigits := (settled_hexDigits (w := w) count 0).bind fun n =>
    Settled.lift (x := charOfCode n) fun c => .pure (Escape.literal ⟨c, count == 2⟩)
  have hbraced := (settled_takeBraced (w := w)).bind fun digits =>
    Settled.lift (x := hexNumber digits) fun n => .lift (x := charOfCode n) fun c =>
      Settled.afterSkip (.pure (Escape.literal ⟨c, false⟩))
  refine Settled.afterSkip (f := hexNumeral false count) ?_
  refine .of_consuming ⟨_, rfl⟩ fun c => ?_
  by_cases hc : c = '{'
  · subst hc
    exact hbraced
  · refine hdigits.cons_of_eq fun cs => ?_
    unfold hexNumeral
    split
    next heq => cases heq
    next heq => exact absurd (List.cons.inj heq).1 hc
    next => rfl

/-- A property class. -/
theorem settled_propertyEscape (negated : Bool) : Settled w (propertyEscape false negated) := by
  have hbraced := (settled_takeBraced (w := w)).bind fun name =>
    Settled.pure (Escape.property (.ofChars name) negated)
  refine Settled.afterSkip (f := propertyName false negated) ?_
  refine .of_consuming ⟨_, rfl⟩ fun c => ?_
  by_cases hopen : c = '{'
  · subst hopen
    exact hbraced
  by_cases hback : c = '\\'
  · subst hback
    exact .error _
  · refine (Settled.pure (.property (.named (.ofList [c])) negated)).congr fun cs => ?_
    unfold propertyName
    split
    next heq => cases heq
    next heq => exact absurd (List.cons.inj heq).1 hopen
    next heq => exact absurd (List.cons.inj heq).1 hback
    next heq =>
      cases heq
      rfl

theorem settled_closeBoundary (name : List Char) : Settled w (closeBoundary name) := by
  refine .of_consuming ⟨_, rfl⟩ fun c => ?_
  by_cases hc : c = '}'
  · subst hc
    simp only [closeBoundary]
    cases wordBoundaryNamed? name with
    | none => exact .error _
    | some a => exact .pure _
  · refine (Settled.error fun _ => .unknownWordBoundary).congr fun cs => ?_
    unfold closeBoundary
    split
    next heq => exact absurd (List.cons.inj heq).1 hc
    next => rfl

theorem settled_namedBoundary : Settled w (namedBoundary false) := by
  refine (settled_counted (fun c => c.isAlpha || c == '-') (fun _ => ⟨_, rfl⟩)
    settled_closeBoundary).congr fun cs => ?_
  unfold namedBoundary
  rcases takeCounted false (fun c => c.isAlpha || c == '-') false cs with ⟨name, rest⟩
  change closeBoundary name rest = _
  unfold closeBoundary
  split
  next => rfl
  next hne =>
    split
    next heq =>
      cases heq
      exact absurd rfl (hne _)
    next => rfl

/-- A mark for a word boundary, which looks for a brace. -/
theorem settled_wordBoundaryEscape (hw : Quiet w) : Settled w (wordBoundaryEscape false) := by
  refine .of_idle rfl (wordBoundaryEscape_plain hw.brace) fun c => ?_
  by_cases hc : c = '{'
  · subst hc
    simp only [wordBoundaryEscape_brace]
    refine .of_consuming ⟨_, rfl⟩ fun d => ?_
    have hmark : Settled w fun cs => .ok (Escape.assertion .wordBoundary, '{' :: d :: cs) := by
      intro s a r h
      cases h
      rfl
    exact .ite (settled_namedBoundary.cons_of_eq fun _ => rfl) hmark
  · refine (Settled.pure (Escape.assertion .wordBoundary)).cons_of_eq fun cs => ?_
    exact wordBoundaryEscape_plain fun rest heq => hc (List.cons.inj heq).1

/-- An escape. -/
theorem settled_escaped (hw : Quiet w) : Settled w (escaped false) := by
  refine .of_consuming ⟨_, rfl⟩ fun c => ?_
  -- one branch after the other, as they are written
  unfold escaped
  refine .ite (.error _) (.ite (settled_hexEscape 2) (.ite (settled_hexEscape 4)
    (.ite (settled_hexEscape 8) (.ite (settled_propertyEscape _) (.ite (settled_propertyEscape _)
      (.ite (settled_wordBoundaryEscape hw) ?_))))))
  rcases shortClass? c with _ | ⟨k, negated⟩
  · rcases assertionEscape? c with _ | a
    · rcases controlEscape? c with _ | d
      · exact .ite (.pure _) (.error _)
      · exact .pure _
    · exact .pure _
  · exact .pure _

/-! ## §3 Repetitions and groups -/

/-- The question mark that makes a repetition lazy. -/
theorem settled_takeLazy (hw : Quiet w) : Settled w fun cs => .ok (Token.takeLazy cs) := by
  have hplain : ∀ {cs}, (∀ k, cs ≠ '?' :: k) →
      (.ok (Token.takeLazy cs) : Except PatternError (Bool × List Char)) = .ok (false, cs) := by
    intro cs hcs
    unfold Token.takeLazy
    split
    next k => exact absurd rfl (hcs k)
    next => rfl
  refine .of_idle rfl (hplain hw.question) fun c => ?_
  by_cases hc : c = '?'
  · subst hc
    exact .pure true
  · exact (Settled.pure false).cons_of_eq (f := fun cs => .ok (Token.takeLazy cs)) fun cs =>
      hplain fun k heq => hc (List.cons.inj heq).1

/-- The end of the counts of a repetition. -/
theorem settled_endOfCounts (hw : Quiet w) (least : Nat) (most : Option Nat) :
    Settled w (endOfCounts false least most) := by
  refine .of_consuming ⟨_, rfl⟩ fun c => ?_
  by_cases hc : c = '}'
  · subst hc
    have hend : ∀ isLazy : Bool, Settled w fun rest =>
        if most.all (least ≤ ·) then .ok (.repetition least most isLazy, rest)
        else (.error .badRepetition : Except PatternError (Token × List Char)) := fun isLazy =>
      .ite (.pure _) (.error _)
    exact (settled_takeLazy hw).afterSkip.bind hend
  · refine (Settled.error fun _ => .badRepetition).congr fun cs => ?_
    unfold endOfCounts
    split
    next heq => exact absurd (List.cons.inj heq).1 hc
    next => rfl

/-- The greatest count of a repetition, where its closing brace is still to come. -/
theorem secondCount_append {least : Nat} {most : Option Nat} {cs r : List Char} {c : Char}
    (h : secondCount false least cs = .ok (most, c :: r)) :
    secondCount false least (cs ++ w) = .ok (most, c :: r ++ w) := by
  rcases cs with _ | ⟨d, cs⟩
  · cases h
  by_cases hd : d = ','
  · subst hd
    rcases cs with _ | ⟨e, cs⟩
    · cases h
    by_cases he : e = '}'
    · subst he
      cases h
      rfl
    · have hnumber : ∀ l, secondCount false least (',' :: e :: l) =
          decimal false (e :: l) >>= fun p => .ok (some p.1, p.2) := by
        intro l
        simp only [secondCount, skip, Bool.false_eq_true, if_false]
        split
        next heq => exact absurd (List.cons.inj heq).1 he
        next => rfl
      rw [hnumber] at h
      rw [List.cons_append, List.cons_append, hnumber]
      obtain ⟨⟨n, k⟩, hdecimal, h⟩ := bind_eq_ok_iff.mp h
      cases h
      exact bind_eq_ok_iff.mpr ⟨_, decimal_append hdecimal, rfl⟩
  · have hplain : ∀ l, secondCount false least (d :: l) = .ok (some least, d :: l) := by
      intro l
      unfold secondCount
      split
      next heq => exact absurd (List.cons.inj heq).1 hd
      next => rfl
    rw [hplain] at h
    rw [List.cons_append, hplain]
    cases h
    rfl

/-- The counts of a repetition. -/
theorem settled_readCounts (hw : Quiet w) : Settled w (Token.readCounts false) := by
  intro s t r h
  rw [readCounts_eq_bind] at h ⊢
  obtain ⟨⟨least, k⟩, hleast, h⟩ := bind_eq_ok_iff.mp h
  obtain ⟨⟨most, l⟩, hmost, hend⟩ := bind_eq_ok_iff.mp h
  -- the closing brace is still to come after each of the two counts
  cases l with
  | nil => cases hend
  | cons c l =>
    cases k with
    | nil => cases hmost
    | cons d k =>
      exact bind_eq_ok_iff.mpr ⟨_, decimal_append hleast,
        bind_eq_ok_iff.mpr ⟨_, secondCount_append hmost, settled_endOfCounts hw _ _ _ t r hend⟩⟩

/-- The name of a group. -/
theorem settled_readGroupName : Settled w Token.readGroupName := by
  have hclose : ∀ name : List Char, Settled w fun rest => match name, rest with
      | _, [] => .error .emptyGroupName
      | [], _ => .error .emptyGroupName
      | c :: name, _ :: rest =>
        if Token.isNameChar true c && name.all (Token.isNameChar false) then
          (.ok (.ofList (c :: name), rest) : Except PatternError (String × List Char))
        else .error .badGroupName := by
    intro name
    refine .of_consuming ?_ fun c => ?_
    · cases name <;> exact ⟨_, rfl⟩
    · cases name with
      | nil => exact .error fun _ => .emptyGroupName
      | cons d name => exact .ite (.pure _) (.error _)
  refine (settled_counted (· != '>') (fun name => ?_) hclose).congr fun cs => ?_
  · cases name <;> exact ⟨_, rfl⟩
  · unfold Token.readGroupName
    rw [takeCounted_false]
    rcases cs.span (· != '>') with ⟨_ | ⟨c, name⟩, _ | ⟨d, rest⟩⟩ <;> rfl

/-- Switches end at a colon or at a closing parenthesis. -/
theorem readFlags_append {cs : List Char} {seen : List Flag} {turned : Option Bool}
    {changes : List (Flag × Bool)} {last : Char} {r : List Char}
    (h : Token.readFlags seen turned cs = .ok (changes, last, r)) :
    Token.readFlags seen turned (cs ++ w) = .ok (changes, last, r ++ w) := by
  induction cs generalizing seen turned changes with
  | nil => cases h
  | cons c cs ih =>
    rw [Token.readFlags] at h
    rw [List.cons_append, Token.readFlags]
    split at h
    next hend =>
      rw [if_pos hend]
      split at h
      · cases h
      next hturned =>
        cases h
        rw [if_neg hturned]
    next hend =>
      rw [if_neg hend]
      split at h
      next hnegation =>
        rw [if_pos hnegation]
        split at h
        · cases h
        next hturned =>
          rw [if_neg hturned]
          exact ih h
      next hnegation =>
        rw [if_neg hnegation]
        split at h
        · cases h
        next f hletter =>
          split at h
          · cases h
          next hseen =>
            obtain ⟨⟨changes', last', r'⟩, hrest, h⟩ := bind_eq_ok_iff.mp h
            cases h
            rw [if_neg hseen, ih hrest]
            rfl

theorem settled_nameOfGroup : Settled w nameOfGroup :=
  settled_readGroupName.bind fun name => .pure (Token.openGroup (.capture (some name)))

theorem settled_switchesOfGroup : Settled w switchesOfGroup := by
  intro s t r h
  obtain ⟨⟨changes, last, k⟩, hread, h⟩ := bind_eq_ok_iff.mp h
  refine bind_eq_ok_iff.mpr ⟨_, readFlags_append hread, ?_⟩
  dsimp only at h ⊢
  split_ifs at h ⊢
  · cases h
    rfl
  · cases h
    rfl

/-- A group after its question mark. -/
theorem settled_markedGroup : Settled w markedGroup := by
  have hangle : Settled w fun cs => markedGroup ('<' :: cs) := by
    refine .of_consuming ⟨_, rfl⟩ fun c => ?_
    by_cases heq : c = '='
    · subst heq
      exact .error fun _ => .lookAround
    by_cases hbang : c = '!'
    · subst hbang
      exact .error fun _ => .lookAround
    · refine settled_nameOfGroup.cons_of_eq (f := fun cs => markedGroup ('<' :: cs)) fun cs => ?_
      rw [markedGroup]
      · exact fun _ h => heq (List.cons.inj h).1
      · exact fun _ h => hbang (List.cons.inj h).1
  -- a letter `P` is no switch
  have hletter : Settled w fun cs => markedGroup ('P' :: cs) := by
    refine .of_consuming ⟨_, rfl⟩ fun c => ?_
    by_cases hc : c = '<'
    · subst hc
      exact settled_nameOfGroup
    · refine (Settled.error fun _ => .unknownFlag 'P').congr fun cs => ?_
      rw [markedGroup]
      · rfl
      all_goals simp [hc]
  refine .of_consuming ⟨_, rfl⟩ fun c => ?_
  by_cases heq : c = '='
  · subst heq
    exact .error fun _ => .lookAround
  by_cases hbang : c = '!'
  · subst hbang
    exact .error fun _ => .lookAround
  by_cases hopen : c = '<'
  · subst hopen
    exact hangle
  by_cases hP : c = 'P'
  · subst hP
    exact hletter
  · refine settled_switchesOfGroup.cons_of_eq fun cs => ?_
    rw [markedGroup]
    all_goals simp [heq, hbang, hopen, hP]

/-- What follows the opening parenthesis of a group. -/
theorem settled_readGroup (hw : Quiet w) : Settled w (Token.readGroup false) := by
  have hplain : ∀ {cs}, (∀ k, cs ≠ '?' :: k) → anyGroup cs = .ok (.openGroup (.capture none), cs) := by
    intro cs hcs
    unfold anyGroup
    split
    next k => exact absurd rfl (hcs k)
    next => rfl
  have hany : Settled w anyGroup := by
    refine .of_idle rfl (hplain hw.question) fun c => ?_
    by_cases hc : c = '?'
    · subst hc
      exact settled_markedGroup
    · exact (Settled.pure _).cons_of_eq fun cs => hplain fun k heq => hc (List.cons.inj heq).1
  exact hany.afterSkip.congr fun cs => (readGroup_eq_anyGroup cs).symm

/-! ## §4 Brackets -/

/-- Hyphens at the beginning of a bracket end where something else stands. -/
theorem leadingHyphens_append {b b' : OpenBracket} {cs r : List Char} {c : Char}
    (h : leadingHyphens false b false cs = (b', c :: r)) :
    leadingHyphens false b false (cs ++ w) = (b', c :: r ++ w) := by
  induction cs generalizing b with
  | nil => cases h
  | cons d cs ih =>
    simp only [List.cons_append, leadingHyphens, Bool.false_and, Bool.false_eq_true, if_false] at h ⊢
    split at h
    next hhyphen =>
      rw [if_pos hhyphen]
      exact ih h
    next hhyphen =>
      rw [if_neg hhyphen]
      cases h
      rfl

/-- The opening of a bracket, where there is more of it to come. -/
theorem openBracket_append {b : OpenBracket} {cs r : List Char} {c : Char}
    (h : openBracket false cs = (b, c :: r)) :
    openBracket false (cs ++ w) = (b, c :: r ++ w) := by
  have hstart : ∀ {negated : Bool} {l : List Char}, startOfBracket false negated l = (b, c :: r) →
      startOfBracket false negated (l ++ w) = (b, c :: r ++ w) := by
    intro negated l h
    rcases l with _ | ⟨d, l⟩
    · cases h
    by_cases hd : d = ']'
    · subst hd
      cases h
      rfl
    · have hplain : ∀ l, startOfBracket false negated (d :: l) =
          leadingHyphens false { negated } false (d :: l) := by
        intro l
        rw [startOfBracket]
        exact fun _ heq => hd (List.cons.inj heq).1
      rw [hplain] at h
      rw [List.cons_append, hplain]
      exact leadingHyphens_append h
  rw [openBracket_eq_start] at h ⊢
  change startOfBracket false (caretOfBracket false cs).1 (caretOfBracket false cs).2 = _ at h
  change startOfBracket false (caretOfBracket false (cs ++ w)).1
    (caretOfBracket false (cs ++ w)).2 = _
  rcases cs with _ | ⟨d, cs⟩
  · cases h
  by_cases hd : d = '^'
  · subst hd
    exact hstart h
  · have hplain : ∀ l, caretOfBracket false (d :: l) = (false, d :: l) := by
      intro l
      rw [caretOfBracket]
      exact fun _ heq => hd (List.cons.inj heq).1
    rw [hplain] at h
    rw [List.cons_append, hplain]
    exact hstart h

/-- What is no named class is none with a text behind it, if there is a closing bracket before. -/
theorem asciiClass?_append_none {cs : List Char} (h : asciiClass? cs = none) (hclose : ']' ∈ cs) :
    asciiClass? (cs ++ w) = none := by
  cases hclass : asciiClass? (cs ++ w) with
  | none => rfl
  | some p =>
    obtain ⟨item, r⟩ := p
    obtain ⟨k, hcs, hk, -, hread⟩ := asciiClass?_eq_some hclass
    -- a named class ends at the first closing bracket
    obtain ⟨x, y, rfl, hx⟩ := List.eq_append_cons_of_mem hclose
    have hnotMem : ']' ∉ ':' :: k := by
      intro hmem
      rcases List.mem_cons.mp hmem with heq | hmem
      · cases heq
      · exact absurd (hk _ hmem) (by decide)
    have hx' : x = ':' :: k := by
      rw [List.append_assoc] at hcs
      rcases List.append_eq_append_iff.mp hcs with ⟨l, hl, hrest⟩ | ⟨l, hl, hrest⟩
      · cases l with
        | nil => simpa using hl.symm
        | cons d l =>
          obtain ⟨rfl, -⟩ := List.cons.inj hrest
          exact absurd (by rw [hl]; simp) hnotMem
      · cases l with
        | nil => simpa using hl
        | cons d l =>
          obtain ⟨rfl, -⟩ := List.cons.inj hrest
          exact absurd (by rw [hl]; simp) hx
    rw [hx'] at h
    exact absurd (h.symm.trans (hread y)) nofun

/-- An item of a bracket. -/
theorem settled_bracketItem (hw : Quiet w) : Settled w (bracketItem false) := by
  have hitem : ∀ e : Escape, Settled w (itemOfEscape e) := by
    intro e
    cases e with
    | literal l => exact .pure _
    | short c negated => exact .pure _
    | property q negated => exact .pure _
    | assertion a => exact .error fun _ => .badBracketItem
  refine .of_consuming ⟨_, rfl⟩ fun c => ?_
  by_cases hc : c = '\\'
  · subst hc
    simp only [bracketItem_backslash]
    exact (settled_escaped hw).bind hitem
  · refine (Settled.pure (.literal ⟨c, false⟩)).congr fun cs => ?_
    rw [bracketItem]
    exact fun h => hc h

/-- One item or range of a bracket. -/
theorem settled_bracketRange (hw : Quiet w) : Settled w (bracketRange false) := by
  have hend : ∀ first : Bracket, Settled w (endOfRange false first) := fun first =>
    (settled_bracketItem hw).bind fun _ => .lift fun r => .pure r
  have hrest : ∀ first : Bracket, Settled w (restOfRange false first) := by
    intro first
    refine .of_consuming ⟨_, rfl⟩ fun c => ?_
    by_cases hc : c = '-'
    · subst hc
      -- what follows the hyphen is needed
      simp only [restOfRange_hyphen]
      refine .of_consuming ⟨_, rfl⟩ fun d => ?_
      have hnext : ∀ cs, decisive? false (d :: cs) = some d := fun _ => rfl
      have hhyphen : Settled w fun cs => .ok (first, '-' :: d :: cs) := by
        intro s a r h
        cases h
        rfl
      simp only [hnext]
      exact .ite hhyphen ((hend first).cons_of_eq fun _ => rfl)
    · exact (Settled.pure first).cons_of_eq (restOfRange_plain hc)
  exact ((settled_bracketItem hw).bind fun first => (hrest first).afterSkip).congr fun cs =>
    (bracketRange_eq_restOfRange cs).symm

/-- A turn of the reader of brackets is the same with a text behind, if the closing bracket is still to
come. -/
theorem Turn.append (hw : Quiet w) {b b' : OpenBracket} {outer outer' : List OpenBracket}
    {cs cs' : List Char} (hclose : ']' ∈ cs') (h : Turn false b outer cs b' outer' cs') :
    Turn false b outer (cs ++ w) b' outer' (cs' ++ w) := by
  obtain ⟨c, l, rfl, hsuffix⟩ := h.suffix
  cases h with
  | namedClass hclass =>
    obtain ⟨k, rfl, -, -, hread⟩ := asciiClass?_eq_some hclass
    apply Turn.namedClass
    have hread' := hread (cs' ++ w)
    rwa [← List.cons_append, ← List.append_assoc] at hread'
  | openNested hclass hopen =>
    obtain ⟨d, r, rfl⟩ := List.exists_cons_of_ne_nil (List.ne_nil_of_mem hclose)
    exact .openNested (asciiClass?_append_none hclass (hsuffix.subset hclose))
      (openBracket_append hopen)
  | closeNested => exact .closeNested
  | operation hop => exact .operation hop
  | item hopen hnot hop hrange =>
    refine .item hopen hnot (fun k hk => ?_) (settled_bracketRange hw _ _ _ hrange)
    -- the next character is still one of the bracket
    cases l with
    | nil => exact absurd (hsuffix.subset hclose) (by simp)
    | cons d l =>
      obtain ⟨rfl, -⟩ := List.cons.inj hk
      exact hop l rfl

/-- A bracket is the same with a text behind it. -/
theorem readBracket_append (hw : Quiet w) {n : Nat} {b : OpenBracket} {outer : List OpenBracket}
    {cs r : List Char} {whole : Bracket} (h : readBracket false n b outer cs = .ok (whole, r)) :
    readBracket false n b outer (cs ++ w) = .ok (whole, r ++ w) := by
  induction n generalizing b outer cs with
  | zero => cases h
  | succ n ih =>
    rcases turn_of_readBracket h with ⟨hskip, rfl, rfl⟩ | ⟨n', b', outer', cs', hn, hturn, hrest⟩
    · -- the last turn, at the closing bracket
      obtain rfl : cs = ']' :: r := hskip
      rfl
    · cases hn
      have hclose : ']' ∈ cs' := (readBracket_suffix hrest).subset List.mem_cons_self
      have hturn' : Turn false b outer (skip false (cs ++ w)) b' outer' (cs' ++ w) :=
        hturn.append hw hclose
      rw [hturn'.readBracket_eq]
      exact ih hrest

/-- A bracket, after its opening. -/
theorem settled_bracketRead (hw : Quiet w) : Settled w (Bracket.read false) := by
  intro s whole r h
  unfold Bracket.read at h ⊢
  generalize hopen : openBracket false s = p at h
  obtain ⟨b, rest⟩ := p
  dsimp only at h
  have hclose : ']' ∈ rest := (readBracket_suffix h).subset List.mem_cons_self
  obtain ⟨c, l, rfl⟩ := List.exists_cons_of_ne_nil (List.ne_nil_of_mem hclose)
  rw [openBracket_append hopen]
  exact readBracket_mono (readBracket_append hw h) (by simp)

/-! ## §5 Tokens -/

/-- A token is the same with a text behind it. -/
theorem Token.read_append (hw : Quiet w) {cs r : List Char} {t : Token}
    (h : Token.read false cs = .ok (some t, r)) :
    Token.read false (cs ++ w) = .ok (some t, r ++ w) := by
  rcases cs with _ | ⟨c, cs⟩
  · cases h
  suffices hcons : Settled w fun cs => Token.read false (c :: cs) from hcons cs (some t) r h
  -- by what the first character stands for, in the order of the reader
  have hrepetition (least : Nat) (most : Option Nat) :=
    (settled_takeLazy hw).bind fun isLazy =>
      Settled.pure (some (Token.repetition least most isLazy))
  by_cases hopen : c = '('
  · subst hopen
    exact (settled_readGroup hw).bind fun t => .pure (some t)
  by_cases hclose : c = ')'
  · subst hclose
    exact .pure _
  by_cases hbar : c = '|'
  · subst hbar
    exact .pure _
  by_cases hbracket : c = '['
  · subst hbracket
    exact (settled_bracketRead hw).bind fun b => .pure (some (Token.bracket b))
  by_cases hquestion : c = '?'
  · subst hquestion
    exact hrepetition 0 (some 1)
  by_cases hstar : c = '*'
  · subst hstar
    exact hrepetition 0 none
  by_cases hplus : c = '+'
  · subst hplus
    exact hrepetition 1 none
  by_cases hbrace : c = '{'
  · subst hbrace
    exact (settled_readCounts hw).bind fun t => .pure (some t)
  by_cases hback : c = '\\'
  · subst hback
    exact (settled_escaped hw).bind fun e => .pure (some (Token.ofEscape e))
  by_cases hdot : c = '.'
  · subst hdot
    exact .pure _
  by_cases hcaret : c = '^'
  · subst hcaret
    exact .pure _
  by_cases hdollar : c = '$'
  · subst hdollar
    exact .pure _
  · refine (Settled.pure (some (Token.literal ⟨c, false⟩))).congr fun cs => ?_
    rw [Token.read]
    all_goals assumption

end AggregateNaming.Pattern
