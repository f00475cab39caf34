import AggregateNaming.Proofs.Fallible
import AggregateNaming.Proofs.Pattern.BracketTurn
import AggregateNaming.Proofs.Pattern.Hole

/-!
# Readers that do not see what they leave

An author writes a pattern, and it is read with a closing parenthesis and more behind it. Here is why
that makes no difference to the readers of single tokens: a reader takes a beginning of a text, and
as long as it leaves the parenthesis alone, it takes the same where the text ends before it. A
parenthesis continues nothing that has been begun, and blanks and comments change nothing about that.

There is one exception, which is refused by the next token: a mark for a word boundary before a brace
that is not closed. And some readers see the end of a text where there should be more, but then they
have left nothing.

## Main definitions

- `Blind` : a reader that does not see what it leaves.

## Main statements

- `Blind.bind`, `Blind.of_head`, `Blind.of_consuming` : how readers are put together.
- `blind_takeCounted`, `blind_escaped`, `blind_readCounts`, `blind_readGroup` and others : readers one
  by one.
- `wordBoundaryEscape_cut` : the mark for a word boundary, with its exception.
-/

namespace AggregateNaming.Pattern

/-! ## §1 Ends of texts -/

/-- Nothing with a closing parenthesis before `w` is an end of `w`. -/
theorem not_suffix_of_paren {r w : List Char} : ¬(r ++ ')' :: w <:+ w) := by
  intro h
  have hlen := h.length_le
  simp only [List.length_append, List.length_cons] at hlen
  omega

/-- What comes before a closing parenthesis and `w` is known from the whole. -/
theorem append_paren_inj {a b w : List Char} (h : a ++ ')' :: w = b ++ ')' :: w) : a = b :=
  List.append_cancel_right h

/-- What ends with a closing parenthesis and `w` can be cut off before them. -/
theorem exists_of_paren_suffix {r l w : List Char} (h : r ++ ')' :: w <:+ l) :
    ∃ k, l = k ++ ')' :: w ∧ r <:+ k := by
  obtain ⟨x, rfl⟩ := h
  exact ⟨x ++ r, by simp, List.suffix_append x r⟩

/-- A reader that gives back an end of what it is given, and that does not see a closing parenthesis
and what follows it, as long as it leaves them alone. -/
structure Blind (w : List Char) {α : Type}
    (f : List Char → Except PatternError (α × List Char)) : Prop where
  suffix : ∀ {s a r}, f s = .ok (a, r) → r <:+ s
  cut : ∀ {s a r}, f (s ++ ')' :: w) = .ok (a, r ++ ')' :: w) → f s = .ok (a, r)

namespace Blind

variable {w : List Char} {α β : Type} {f g : List Char → Except PatternError (α × List Char)}

/-- Two readers that take the same. -/
protected theorem congr (hf : Blind w f) (h : ∀ cs, f cs = g cs) : Blind w g :=
  funext h ▸ hf

/-- A reader that takes nothing. -/
protected theorem pure (a : α) : Blind w fun cs => .ok (a, cs) where
  suffix h := by
    cases h
    exact List.suffix_refl _
  cut h := by
    obtain ⟨rfl, hrest⟩ := Prod.mk.inj (Except.ok.inj h)
    rw [List.append_cancel_right hrest]

/-- A reader that always fails. -/
protected theorem error (e : List Char → PatternError) :
    Blind w fun cs => (.error (e cs) : Except PatternError (α × List Char)) where
  suffix h := nomatch h
  cut h := nomatch h

/-- One reader after another. -/
protected theorem bind {g : α → List Char → Except PatternError (β × List Char)} (hf : Blind w f)
    (hg : ∀ a, Blind w (g a)) : Blind w fun cs => f cs >>= fun p => g p.1 p.2 where
  suffix h := by
    obtain ⟨⟨a, r⟩, hfirst, hnext⟩ := bind_eq_ok_iff.mp h
    exact ((hg a).suffix hnext).trans (hf.suffix hfirst)
  cut h := by
    obtain ⟨⟨a, r'⟩, hfirst, hnext⟩ := bind_eq_ok_iff.mp h
    -- what the first one has left ends with what the second one leaves
    obtain ⟨k, rfl, -⟩ := exists_of_paren_suffix ((hg a).suffix hnext)
    exact bind_eq_ok_iff.mpr ⟨(a, k), hf.cut hfirst, (hg a).cut hnext⟩

/-- A reader that depends on something that may fail. -/
protected theorem lift {x : Except PatternError β}
    {g : β → List Char → Except PatternError (α × List Char)} (hg : ∀ b, Blind w (g b)) :
    Blind w fun cs => x >>= fun b => g b cs where
  suffix h := by
    obtain ⟨b, -, hnext⟩ := bind_eq_ok_iff.mp h
    exact (hg b).suffix hnext
  cut h := by
    obtain ⟨b, hx, hnext⟩ := bind_eq_ok_iff.mp h
    exact bind_eq_ok_iff.mpr ⟨b, hx, (hg b).cut hnext⟩

/-- One of two readers. -/
protected theorem ite {P : Prop} [Decidable P] (hf : Blind w f) (hg : Blind w g) :
    Blind w fun cs => if P then f cs else g cs := by
  by_cases h : P
  · simpa only [if_pos h] using hf
  · simpa only [if_neg h] using hg

/-- A reader that takes the first character, whichever it is. -/
theorem of_consuming (hnil : ∃ e, f [] = .error e) (hcons : ∀ c, Blind w fun cs => f (c :: cs)) :
    Blind w f where
  suffix := by
    intro cs a r h
    cases cs with
    | nil =>
      obtain ⟨e, he⟩ := hnil
      rw [he] at h
      cases h
    | cons c cs => exact ((hcons c).suffix h).trans (List.suffix_cons c cs)
  cut := by
    intro cs a r h
    cases cs with
    | nil =>
      -- it would take the parenthesis, which is still there
      exact absurd ((hcons ')').suffix h) not_suffix_of_paren
    | cons c cs => exact (hcons c).cut h

/-- A reader that does something of its own for some first characters, but not for a closing
parenthesis, and otherwise what another one does. -/
theorem of_head (hg : Blind w g) (hnil : f [] = g []) (hparen : ∀ cs, f (')' :: cs) = g (')' :: cs))
    (hcons : ∀ c, c ≠ ')' → (Blind w fun cs => f (c :: cs)) ∨
      ∃ g', Blind w g' ∧ ∀ cs, f (c :: cs) = g' (c :: cs)) : Blind w f where
  suffix := by
    intro cs a r h
    cases cs with
    | nil => exact hg.suffix (hnil ▸ h)
    | cons c cs =>
      by_cases hc : c = ')'
      · subst hc
        exact hg.suffix (hparen cs ▸ h)
      · rcases hcons c hc with hf | ⟨g', hg', heq⟩
        · exact (hf.suffix h).trans (List.suffix_cons c cs)
        · exact hg'.suffix (heq cs ▸ h)
  cut := by
    intro cs a r h
    cases cs with
    | nil =>
      -- at the end of the text and before the parenthesis it does what the other one does
      rw [hnil]
      exact hg.cut (hparen w ▸ h)
    | cons c cs =>
      by_cases hc : c = ')'
      · subst hc
        rw [hparen]
        exact hg.cut (hparen _ ▸ h)
      · rcases hcons c hc with hf | ⟨g', hg', heq⟩
        · exact hf.cut h
        · rw [heq]
          exact hg'.cut (heq _ ▸ h)

end Blind

variable {w : List Char} {v : Bool}

/-! ## §2 Blanks, comments and rows of characters -/

/-- A closing parenthesis is no blank. -/
theorem isBlank_paren : Text.isBlank ')' = false := by decide

theorem skipFrom_suffix (inComment : Bool) (cs : List Char) : skipFrom inComment cs <:+ cs := by
  induction cs generalizing inComment with
  | nil =>
    cases inComment <;> exact List.suffix_refl _
  | cons c cs ih =>
    cases inComment with
    | true => exact (ih _).trans (List.suffix_cons c cs)
    | false =>
      rw [skipFrom]
      split
      · exact (ih _).trans (List.suffix_cons c cs)
      · split
        · exact (ih _).trans (List.suffix_cons c cs)
        · exact List.suffix_refl _

theorem skip_suffix (v : Bool) (cs : List Char) : skip v cs <:+ cs := by
  unfold skip
  split
  · exact skipFrom_suffix false cs
  · exact List.suffix_refl _

/-- Skipping stops at a closing parenthesis at the latest, unless a comment has begun before it. -/
theorem skipFrom_append_paren (inComment : Bool) (cs : List Char) :
    skipFrom inComment (cs ++ ')' :: w) = skipFrom inComment cs ++ ')' :: w ∨
      skipFrom inComment cs = [] ∧ skipFrom inComment (cs ++ ')' :: w) <:+ w := by
  induction cs generalizing inComment with
  | nil =>
    cases inComment with
    | true =>
      -- the parenthesis is part of the comment
      exact .inr ⟨rfl, skipFrom_suffix _ w⟩
    | false =>
      refine .inl ?_
      change skipFrom false (')' :: w) = ')' :: w
      rw [skipFrom, if_neg (by simp [isBlank_paren]), if_neg (by simp)]
  | cons c cs ih =>
    cases inComment with
    | true => exact ih _
    | false =>
      rw [List.cons_append, skipFrom, skipFrom]
      split
      · exact ih _
      · split
        · exact ih _
        · exact .inl rfl

theorem skip_append_paren (v : Bool) (cs : List Char) :
    skip v (cs ++ ')' :: w) = skip v cs ++ ')' :: w ∨
      skip v cs = [] ∧ skip v (cs ++ ')' :: w) <:+ w := by
  unfold skip
  cases v with
  | true => exact skipFrom_append_paren false cs
  | false => exact .inl rfl

/-- Where something is left with the parenthesis at its end, skipping has not come to it. -/
theorem skip_append_of_suffix {cs r : List Char}
    (h : r ++ ')' :: w <:+ skip v (cs ++ ')' :: w)) :
    skip v (cs ++ ')' :: w) = skip v cs ++ ')' :: w := by
  rcases skip_append_paren v cs with heq | ⟨-, hsuffix⟩
  · exact heq
  · exact absurd (h.trans hsuffix) not_suffix_of_paren

/-- Skipping what does not count. -/
theorem blind_skip (v : Bool) : Blind w fun cs => .ok ((), skip v cs) where
  suffix h := by
    cases h
    exact skip_suffix _ _
  cut := by
    intro cs a r h
    have hskip := (Prod.mk.inj (Except.ok.inj h)).2
    rw [skip_append_of_suffix ⟨[], hskip.symm⟩] at hskip
    rw [List.append_cancel_right hskip]

/-- Skipping what does not count, and then reading. -/
theorem Blind.afterSkip {α : Type} {f : List Char → Except PatternError (α × List Char)}
    (hf : Blind w f) (v : Bool) : Blind w fun cs => f (skip v cs) :=
  (blind_skip v).bind fun _ => hf

theorem dropBlanks_append_paren (cs : List Char) :
    (cs ++ ')' :: w).dropWhile Text.isBlank = cs.dropWhile Text.isBlank ++ ')' :: w := by
  induction cs with
  | nil => simp [isBlank_paren]
  | cons c cs ih =>
    rw [List.cons_append, List.dropWhile_cons, List.dropWhile_cons]
    split
    · exact ih
    · rfl

/-- Leaving out blanks. -/
theorem blind_dropBlanks : Blind w fun cs => .ok ((), cs.dropWhile Text.isBlank) where
  suffix h := by
    cases h
    exact List.dropWhile_suffix _
  cut := by
    intro cs a r h
    have hdrop := (Prod.mk.inj (Except.ok.inj h)).2
    rw [dropBlanks_append_paren] at hdrop
    rw [List.append_cancel_right hdrop]

theorem takeCounted_suffix (test : Char → Bool) (inComment : Bool) (cs : List Char) :
    (takeCounted v test inComment cs).2 <:+ cs := by
  induction cs generalizing inComment with
  | nil =>
    cases inComment <;> exact List.suffix_refl _
  | cons c cs ih =>
    cases inComment with
    | true => exact (ih _).trans (List.suffix_cons c cs)
    | false =>
      rw [takeCounted]
      split
      · exact (ih _).trans (List.suffix_cons c cs)
      · split
        · exact (ih _).trans (List.suffix_cons c cs)
        · split
          · exact (ih false).trans (List.suffix_cons c cs)
          · exact List.suffix_refl _

/-- A closing parenthesis is a character as any other when characters are taken. -/
theorem takeCounted_paren (test : Char → Bool) :
    takeCounted v test false (')' :: w) =
      if test ')' then
        (')' :: (takeCounted v test false w).1, (takeCounted v test false w).2)
      else ([], ')' :: w) := by
  rw [takeCounted, if_neg (by simp [isBlank_paren]), if_neg (by simp)]

theorem takeCounted_cut {test : Char → Bool} {inComment : Bool} {cs taken r : List Char}
    (h : takeCounted v test inComment (cs ++ ')' :: w) = (taken, r ++ ')' :: w)) :
    takeCounted v test inComment cs = (taken, r) := by
  have hsuffix (inComment : Bool) := takeCounted_suffix (v := v) test inComment w
  induction cs generalizing inComment taken with
  | nil =>
    cases inComment with
    | true =>
      -- the comment has swallowed the parenthesis
      rw [List.nil_append, takeCounted] at h
      have hw := hsuffix (')' != '\n')
      rw [h] at hw
      exact absurd hw not_suffix_of_paren
    | false =>
      rw [List.nil_append, takeCounted_paren] at h
      split at h
      · -- the parenthesis passes the test and is taken
        have hw := hsuffix false
        rw [(Prod.mk.inj h).2] at hw
        exact absurd hw not_suffix_of_paren
      · -- it does not, so that nothing is taken
        obtain ⟨rfl, hrest⟩ := Prod.mk.inj h
        have hr : [] = r := append_paren_inj (a := []) hrest
        rw [← hr]
        rfl
  | cons c cs ih =>
    cases inComment with
    | true => exact ih h
    | false =>
      rw [List.cons_append, takeCounted] at h
      rw [takeCounted]
      split at h
      next hblank =>
        rw [if_pos hblank]
        exact ih h
      next hblank =>
        rw [if_neg hblank]
        split at h
        next hmark =>
          rw [if_pos hmark]
          exact ih h
        next hmark =>
          rw [if_neg hmark]
          split at h
          next htest =>
            obtain ⟨rfl, hrest⟩ := Prod.mk.inj h
            rw [if_pos htest, ih (Prod.ext rfl hrest)]
          next htest =>
            obtain ⟨rfl, hrest⟩ := Prod.mk.inj h
            have hr : c :: cs = r := append_paren_inj (a := c :: cs) hrest
            rw [if_neg htest, hr]

/-- Taking characters that pass a test. -/
theorem blind_takeCounted (test : Char → Bool) (inComment : Bool) :
    Blind w fun cs => .ok (takeCounted v test inComment cs) where
  suffix := by
    intro cs a r h
    have hsuffix := takeCounted_suffix (v := v) test inComment cs
    rw [Except.ok.inj h] at hsuffix
    exact hsuffix
  cut h := congrArg _ (takeCounted_cut (Except.ok.inj h))

/-! ## §3 Numbers and escapes -/

/-- The brace that ends a text is taken too. -/
def pastBrace (name : List Char) : List Char → Except PatternError (List Char × List Char)
  | [] => .error .unfinishedEscape
  | _ :: rest => .ok (name, rest)

/-- The text up to a closing brace. -/
theorem blind_takeBraced : Blind w (takeBraced v) := by
  have hrest : ∀ name : List Char, Blind w (pastBrace name) := fun name =>
    .of_consuming ⟨_, rfl⟩ fun _ => .pure name
  refine ((blind_takeCounted (v := v) (· != '}') false).bind hrest).congr fun cs => ?_
  unfold takeBraced
  rcases takeCounted v (· != '}') false cs with ⟨name, _ | ⟨d, rest⟩⟩ <;> rfl

/-- A decimal number. -/
theorem blind_decimal : Blind w (decimal v) := by
  have hend : ∀ n : Nat, Blind w fun rest =>
      .ok (n, rest.dropWhile Text.isBlank) := fun n => blind_dropBlanks.bind fun _ => .pure n
  -- the number fails or not, whatever comes next
  have hdigits : ∀ digits : List Char, Blind w fun rest =>
      if digits.isEmpty then .error .badRepetition
      else if digits.foldl (fun n c => n * 10 + (c.toNat - '0'.toNat)) 0 < Nat.pow 2 32 then
        .ok (digits.foldl (fun n c => n * 10 + (c.toNat - '0'.toNat)) 0,
          rest.dropWhile Text.isBlank)
      else .error .badRepetition := fun digits =>
    .ite (.error _) (.ite (hend _) (.error _))
  exact blind_dropBlanks.bind fun _ => (blind_takeCounted Char.isDigit false).bind hdigits

/-- Hexadecimal digits, as many as are asked for. -/
theorem blind_hexDigits (count number : Nat) : Blind w (hexDigits v count number) := by
  induction count generalizing number with
  | zero => exact .pure number
  | succ count ih =>
    refine .of_consuming ⟨_, rfl⟩ fun c => ?_
    simp only [hexDigits]
    cases Text.hexDigit? c with
    | none => exact .error _
    | some d => exact (ih _).afterSkip v

/-- What follows the blanks of a hexadecimal escape. -/
def hexNumeral (v : Bool) (count : Nat) :
    List Char → Except PatternError (Escape × List Char)
  | [] => .error .unfinishedEscape
  | '{' :: rest => do
    let (digits, rest) ← takeBraced v rest
    let c ← charOfCode (← hexNumber digits)
    return (.literal ⟨c, false⟩, skip v rest)
  | cs => do
    let (number, rest) ← hexDigits v count 0 cs
    let c ← charOfCode number
    return (.literal ⟨c, count == 2⟩, rest)

/-- A hexadecimal escape. -/
theorem blind_hexEscape {count : Nat} (hcount : count ≠ 0) : Blind w (hexEscape v count) := by
  obtain ⟨count, rfl⟩ := Nat.exists_eq_succ_of_ne_zero hcount
  -- a number of digits, or as many as there are between braces
  have hdigits := (blind_hexDigits (w := w) (v := v) (count + 1) 0).bind fun n =>
    Blind.lift (x := charOfCode n) fun c => .pure (Escape.literal ⟨c, count + 1 == 2⟩)
  have hbraced := (blind_takeBraced (w := w) (v := v)).bind fun digits =>
    Blind.lift (x := hexNumber digits) fun n => .lift (x := charOfCode n) fun c =>
      Blind.afterSkip (.pure (Escape.literal ⟨c, false⟩)) v
  refine Blind.afterSkip (f := hexNumeral v (count + 1)) ?_ v
  refine .of_head hdigits rfl (fun _ => rfl) fun c _ => ?_
  by_cases hc : c = '{'
  · subst hc
    exact .inl hbraced
  · refine .inr ⟨_, hdigits, fun cs => ?_⟩
    unfold hexNumeral
    split
    next heq => cases heq
    next heq => exact absurd (List.cons.inj heq).1 hc
    next => rfl

/-- What follows the blanks of a property class. -/
def propertyName (v negated : Bool) : List Char → Except PatternError (Escape × List Char)
  | [] => .error .unfinishedEscape
  | '{' :: rest => do
    let (name, rest) ← takeBraced v rest
    return (.property (.ofChars name) negated, rest)
  | '\\' :: _ => .error .unknownProperty
  | c :: rest => .ok (.property (.named (.ofList [c])) negated, skip v rest)

/-- A property class. -/
theorem blind_propertyEscape (negated : Bool) : Blind w (propertyEscape v negated) := by
  have hbraced := (blind_takeBraced (w := w) (v := v)).bind fun name =>
    Blind.pure (Escape.property (.ofChars name) negated)
  refine Blind.afterSkip (f := propertyName v negated) ?_ v
  -- a name between braces, or the one letter that comes next
  refine .of_consuming ⟨_, rfl⟩ fun c => ?_
  by_cases hopen : c = '{'
  · subst hopen
    exact hbraced
  by_cases hback : c = '\\'
  · subst hback
    exact .error _
  · refine (Blind.afterSkip (.pure (.property (.named (.ofList [c])) negated)) v).congr
      fun cs => ?_
    unfold propertyName
    split
    next heq => cases heq
    next heq => exact absurd (List.cons.inj heq).1 hopen
    next heq => exact absurd (List.cons.inj heq).1 hback
    next heq =>
      cases heq
      rfl

/-- The kind of a word boundary, from its name in braces on. -/
def namedBoundary (v : Bool) (cs : List Char) :
    Except PatternError (Escape × List Char) :=
  match takeCounted v (fun c => c.isAlpha || c == '-') false cs with
  | (name, '}' :: rest) =>
    match wordBoundaryNamed? name with
    | some a => .ok (.assertion a, rest)
    | none => .error .unknownWordBoundary
  | _ => .error .unknownWordBoundary

/-- The kind of a word boundary, after its name. -/
def closeBoundary (name : List Char) : List Char → Except PatternError (Escape × List Char)
  | '}' :: rest =>
    match wordBoundaryNamed? name with
    | some a => .ok (.assertion a, rest)
    | none => .error .unknownWordBoundary
  | _ => .error .unknownWordBoundary

private theorem blind_namedBoundary : Blind w (namedBoundary v) := by
  have hclose : ∀ name : List Char, Blind w (closeBoundary name) := by
    intro name
    refine .of_head (.error fun _ => .unknownWordBoundary) rfl (fun _ => rfl) fun c _ => ?_
    by_cases hc : c = '}'
    · subst hc
      simp only [closeBoundary]
      cases wordBoundaryNamed? name with
      | none => exact .inl (.error _)
      | some a => exact .inl (.pure _)
    · refine .inr ⟨_, .error fun _ => .unknownWordBoundary, fun cs => ?_⟩
      unfold closeBoundary
      split
      next heq => exact absurd (List.cons.inj heq).1 hc
      next => rfl
  refine ((blind_takeCounted (v := v) (fun c => c.isAlpha || c == '-') false).bind
    hclose).congr fun cs => ?_
  unfold namedBoundary
  rcases takeCounted v (fun c => c.isAlpha || c == '-') false cs with ⟨name, rest⟩
  change closeBoundary name rest = _
  unfold closeBoundary
  split
  next => rfl
  next hne =>
    split
    next heq =>
      cases heq
      exact absurd rfl (hne _)
    next => rfl

theorem wordBoundaryEscape_brace (cs : List Char) :
    wordBoundaryEscape v ('{' :: cs) =
      match skip v cs with
      | [] => .error .unknownWordBoundary
      | c :: rest =>
        if c.isAlpha || c == '-' then namedBoundary v (c :: rest)
        else .ok (.assertion .wordBoundary, '{' :: cs) := rfl

theorem wordBoundaryEscape_plain {cs : List Char} (h : ∀ rest, cs ≠ '{' :: rest) :
    wordBoundaryEscape v cs = .ok (.assertion .wordBoundary, cs) := by
  unfold wordBoundaryEscape
  split
  next rest => exact absurd rfl (h rest)
  next => rfl

/-- A mark for a word boundary is an assertion, whatever follows it. -/
theorem exists_of_wordBoundaryEscape {s r : List Char} {e : Escape}
    (h : wordBoundaryEscape v s = .ok (e, r)) : (∃ a, e = .assertion a) ∧ r <:+ s := by
  by_cases hbrace : ∃ rest, s = '{' :: rest
  · obtain ⟨rest, rfl⟩ := hbrace
    rw [wordBoundaryEscape_brace] at h
    have hskip := skip_suffix v rest
    split at h
    · cases h
    next c rest' heq =>
      split at h
      · -- the name of a kind of boundary
        refine ⟨?_, ?_⟩
        · unfold namedBoundary at h
          split at h
          · split at h
            · cases h
              exact ⟨_, rfl⟩
            · cases h
          · cases h
        · rw [heq] at hskip
          exact ((blind_namedBoundary (w := []).suffix h).trans hskip).trans (List.suffix_cons _ _)
      · -- the brace is the beginning of counts
        cases h
        exact ⟨⟨_, rfl⟩, List.suffix_refl _⟩
  · rw [wordBoundaryEscape_plain fun rest heq => hbrace ⟨rest, heq⟩] at h
    cases h
    exact ⟨⟨_, rfl⟩, List.suffix_refl _⟩

/-- A mark for a word boundary sees what follows it only where that is a brace with nothing but
blanks behind it. -/
theorem wordBoundaryEscape_cut {cs r : List Char} {e : Escape}
    (h : wordBoundaryEscape v (cs ++ ')' :: w) = .ok (e, r ++ ')' :: w)) :
    wordBoundaryEscape v cs = .ok (e, r) ∨ ∃ k, r = '{' :: k ∧ skip v k = [] := by
  -- where no kind is named, the mark is all that is taken
  have hpure : ∀ l : List Char, (Except.ok (Escape.assertion .wordBoundary, l ++ ')' :: w) :
      Except PatternError (Escape × List Char)) = .ok (e, r ++ ')' :: w) →
      e = .assertion .wordBoundary ∧ l = r := by
    intro l hl
    obtain ⟨he, hr⟩ := Prod.mk.inj (Except.ok.inj hl)
    exact ⟨he.symm, List.append_cancel_right hr⟩
  by_cases hbrace : ∃ rest, cs = '{' :: rest
  · obtain ⟨rest, rfl⟩ := hbrace
    rw [List.cons_append, wordBoundaryEscape_brace] at h
    rcases skip_append_paren (w := w) v rest with heq | ⟨hnil, hsuffix⟩
    · rw [heq] at h
      cases hrest : skip v rest with
      | nil =>
        -- a parenthesis is no name
        rw [hrest] at h
        obtain ⟨-, rfl⟩ := hpure ('{' :: rest) h
        exact .inr ⟨rest, rfl, hrest⟩
      | cons c l =>
        refine .inl ?_
        rw [hrest, List.cons_append] at h
        rw [wordBoundaryEscape_brace, hrest]
        dsimp only at h ⊢
        split at h
        next hname =>
          rw [if_pos hname]
          exact blind_namedBoundary.cut (s := c :: l) h
        next hname =>
          obtain ⟨rfl, rfl⟩ := hpure ('{' :: rest) h
          rw [if_neg hname]
    · -- what follows the brace is a comment: it swallows the parenthesis
      refine .inr ⟨rest, ?_, hnil⟩
      split at h
      · cases h
      next c l hskip =>
        split at h
        · rw [hskip] at hsuffix
          exact absurd ((blind_namedBoundary (w := []).suffix h).trans hsuffix) not_suffix_of_paren
        · exact (hpure ('{' :: rest) h).2.symm
  · have hplain : ∀ rest, cs ≠ '{' :: rest := fun rest heq => hbrace ⟨rest, heq⟩
    have hplain' : ∀ rest, cs ++ ')' :: w ≠ '{' :: rest := by
      intro rest heq
      cases cs with
      | nil => cases heq
      | cons c cs => exact hplain cs (by rw [(List.cons.inj heq).1])
    rw [wordBoundaryEscape_plain hplain'] at h
    obtain ⟨rfl, rfl⟩ := hpure cs h
    exact .inl (wordBoundaryEscape_plain hplain)

/-- An escape other than the mark for a word boundary. -/
theorem blind_escaped {c : Char} (hc : c ≠ 'b') : Blind w fun cs => escaped v (c :: cs) := by
  -- one branch after the other, as they are written
  unfold escaped
  refine .ite (.error _) (.ite (blind_hexEscape (by decide)) (.ite (blind_hexEscape (by decide))
    (.ite (blind_hexEscape (by decide)) (.ite (blind_propertyEscape _)
      (.ite (blind_propertyEscape _) ?_)))))
  rw [show (c == 'b') = false by simpa using hc]
  simp only [Bool.false_eq_true, if_false]
  rcases shortClass? c with _ | ⟨k, negated⟩
  · rcases assertionEscape? c with _ | a
    · rcases controlEscape? c with _ | d
      · exact .ite (.pure _) (.error _)
      · exact .pure _
    · exact .pure _
  · exact .pure _

/-! ## §4 Repetitions and groups -/

/-- The question mark that makes a repetition lazy. -/
theorem blind_takeLazy : Blind w fun cs => .ok (Token.takeLazy cs) := by
  refine .of_head (.pure false) rfl (fun _ => rfl) fun c _ => ?_
  by_cases hc : c = '?'
  · subst hc
    exact .inl (.pure true)
  · refine .inr ⟨_, .pure false, fun cs => ?_⟩
    unfold Token.takeLazy
    split
    next heq => exact absurd (List.cons.inj heq).1 hc
    next => rfl

/-- The greatest count of a repetition, after its least. -/
def secondCount (v : Bool) (least : Nat) (rest : List Char) :
    Except PatternError (Option Nat × List Char) :=
  match rest with
  | ',' :: rest =>
    match skip v rest with
    | '}' :: _ => .ok (none, skip v rest)
    | rest => do
      let (most, rest) ← decimal v rest
      return (some most, rest)
  | _ => .ok (some least, rest)

/-- The end of the counts of a repetition. -/
def endOfCounts (v : Bool) (least : Nat) (most : Option Nat) :
    List Char → Except PatternError (Token × List Char)
  | '}' :: rest =>
    let (isLazy, rest) := Token.takeLazy (skip v rest)
    if most.all (least ≤ ·) then .ok (.repetition least most isLazy, rest)
    else .error .badRepetition
  | _ => .error .badRepetition

theorem readCounts_eq_bind (cs : List Char) :
    Token.readCounts v cs = decimal v (skip v cs) >>= fun p =>
      secondCount v p.1 p.2 >>= fun q => endOfCounts v p.1 q.1 q.2 := by
  refine congrArg (decimal v (skip v cs) >>= ·) (funext fun ⟨least, rest⟩ => ?_)
  exact congrArg (secondCount v least rest >>= ·) (funext fun ⟨most, rest⟩ => rfl)

private theorem blind_secondCount (least : Nat) : Blind w (secondCount v least) := by
  -- only a comma makes a difference
  refine .of_head (.pure (some least)) rfl (fun _ => rfl) fun c _ => ?_
  by_cases hc : c = ','
  · subst hc
    have hnumber := (blind_decimal (w := w) (v := v)).bind fun most =>
      Blind.pure (some most)
    refine .inl (Blind.afterSkip (f := fun cs => match cs with
      | '}' :: _ => .ok (none, cs)
      | rest => (do
        let (most, rest) ← decimal v rest
        return (some most, rest) : Except PatternError (Option Nat × List Char))) ?_ v)
    -- after the comma there may be a brace in place of a number
    refine .of_head hnumber rfl (fun _ => rfl) fun c _ => ?_
    by_cases hc : c = '}'
    · subst hc
      exact .inr ⟨_, .pure none, fun _ => rfl⟩
    · refine .inr ⟨_, hnumber, fun cs => ?_⟩
      split
      next heq => exact absurd (List.cons.inj heq).1 hc
      next => rfl
  · refine .inr ⟨_, .pure (some least), fun cs => ?_⟩
    unfold secondCount
    split
    next heq => exact absurd (List.cons.inj heq).1 hc
    next => rfl

private theorem blind_endOfCounts (least : Nat) (most : Option Nat) :
    Blind w (endOfCounts v least most) := by
  refine .of_head (.error fun _ => .badRepetition) rfl (fun _ => rfl) fun c _ => ?_
  by_cases hc : c = '}'
  · subst hc
    have hlazy : Blind w fun cs => Except.ok (Token.takeLazy (skip v cs)) :=
      blind_takeLazy.afterSkip v
    have hend : ∀ isLazy : Bool, Blind w fun rest =>
        if most.all (least ≤ ·) then .ok (.repetition least most isLazy, rest)
        else (.error .badRepetition : Except PatternError (Token × List Char)) := fun isLazy =>
      .ite (.pure _) (.error _)
    exact .inl (hlazy.bind hend)
  · refine .inr ⟨_, .error fun _ => .badRepetition, fun cs => ?_⟩
    unfold endOfCounts
    split
    next heq => exact absurd (List.cons.inj heq).1 hc
    next => rfl

/-- The counts of a repetition. -/
theorem blind_readCounts : Blind w (Token.readCounts v) := by
  have hcounts := (blind_decimal (w := w) (v := v)).afterSkip v
  refine (hcounts.bind fun least => (blind_secondCount (v := v) least).bind fun most =>
    blind_endOfCounts (v := v) least most).congr fun cs => ?_
  exact (readCounts_eq_bind cs).symm

/-- The name of a group. -/
theorem blind_readGroupName : Blind w Token.readGroupName := by
  have hclose : ∀ name : List Char, Blind w fun rest => match name, rest with
      | _, [] => .error .emptyGroupName
      | [], _ => .error .emptyGroupName
      | c :: name, _ :: rest =>
        if Token.isNameChar true c && name.all (Token.isNameChar false) then
          (.ok (.ofList (c :: name), rest) : Except PatternError (String × List Char))
        else .error .badGroupName := by
    intro name
    refine .of_consuming ?_ fun c => ?_
    · cases name <;> exact ⟨_, rfl⟩
    · cases name with
      | nil => exact .error fun _ => .emptyGroupName
      | cons d name => exact .ite (.pure _) (.error _)
  refine ((blind_takeCounted (v := false) (· != '>') false).bind hclose).congr fun cs => ?_
  unfold Token.readGroupName
  rw [takeCounted_false]
  rcases cs.span (· != '>') with ⟨_ | ⟨c, name⟩, _ | ⟨d, rest⟩⟩ <;> rfl

/-- Switches are a beginning of what is read. -/
theorem readFlags_suffix {cs : List Char} {seen : List Flag} {turned : Option Bool}
    {changes : List (Flag × Bool)} {last : Char} {r : List Char}
    (h : Token.readFlags seen turned cs = .ok (changes, last, r)) : r <:+ cs := by
  induction cs generalizing seen turned changes with
  | nil => cases h
  | cons c cs ih =>
    rw [Token.readFlags] at h
    split at h
    · split at h
      · cases h
      · cases h
        exact List.suffix_cons _ r
    · split at h
      · split at h
        · cases h
        · exact (ih h).trans (List.suffix_cons c cs)
      · split at h
        · cases h
        · split at h
          · cases h
          · obtain ⟨p, hrest, h⟩ := bind_eq_ok_iff.mp h
            cases h
            exact (ih hrest).trans (List.suffix_cons c cs)

/-- Switches end at a colon or at a closing parenthesis, and the one that is behind the text may not be
taken for theirs. -/
theorem readFlags_cut {cs : List Char} {seen : List Flag} {turned : Option Bool}
    {changes : List (Flag × Bool)} {last : Char} {r : List Char}
    (h : Token.readFlags seen turned (cs ++ ')' :: w) = .ok (changes, last, r ++ ')' :: w)) :
    Token.readFlags seen turned cs = .ok (changes, last, r) := by
  induction cs generalizing seen turned changes with
  | nil =>
    -- a closing parenthesis would end the switches
    rw [List.nil_append, Token.readFlags] at h
    split at h
    · split at h
      · cases h
      · have hw := (Prod.mk.inj (Prod.mk.inj (Except.ok.inj h)).2).2
        exact absurd ⟨[], hw.symm⟩ not_suffix_of_paren
    next hend => exact absurd rfl hend
  | cons c cs ih =>
    rw [List.cons_append, Token.readFlags] at h
    rw [Token.readFlags]
    split at h
    next hend =>
      rw [if_pos hend]
      split at h
      · cases h
      next hturned =>
        rw [if_neg hturned]
        obtain ⟨rfl, hlast⟩ := Prod.mk.inj (Except.ok.inj h)
        obtain ⟨rfl, hrest⟩ := Prod.mk.inj hlast
        rw [List.append_cancel_right hrest]
    next hend =>
      rw [if_neg hend]
      split at h
      next hnegation =>
        rw [if_pos hnegation]
        split at h
        · cases h
        next hturned =>
          rw [if_neg hturned]
          exact ih h
      next hnegation =>
        rw [if_neg hnegation]
        split at h
        · cases h
        next f hletter =>
          split at h
          · cases h
          next hseen =>
            obtain ⟨⟨changes', last', r'⟩, hrest, h⟩ := bind_eq_ok_iff.mp h
            obtain ⟨rfl, hlast⟩ := Prod.mk.inj (Except.ok.inj h)
            obtain ⟨rfl, rfl⟩ := Prod.mk.inj hlast
            rw [if_neg hseen, ih hrest]
            rfl

/-- A group with a name, from the name on. -/
def nameOfGroup (cs : List Char) : Except PatternError (Token × List Char) := do
  let (name, rest) ← Token.readGroupName cs
  return (.openGroup (.capture (some name)), rest)

/-- A group with switches, from the switches on. -/
def switchesOfGroup (cs : List Char) : Except PatternError (Token × List Char) := do
  let (changes, last, rest) ← Token.readFlags [] none cs
  if last == ':' then return (.openGroup (.plain changes), rest)
  else if changes.isEmpty then .error .repetitionWithoutPattern
  else return (.directive changes, rest)

private theorem blind_nameOfGroup : Blind w nameOfGroup :=
  blind_readGroupName.bind fun name => .pure (Token.openGroup (.capture (some name)))

private theorem blind_switchesOfGroup : Blind w switchesOfGroup := by
  -- what is read beside the switches is the character that they end with
  have hswitches : Blind w fun cs => Token.readFlags [] none cs >>= fun p =>
      .ok ((p.1, p.2.1), p.2.2) := by
    constructor
    · intro cs a r h
      obtain ⟨⟨changes, last, r'⟩, hread, h⟩ := bind_eq_ok_iff.mp h
      cases h
      exact readFlags_suffix hread
    · intro cs a r h
      obtain ⟨⟨changes, last, r'⟩, hread, h⟩ := bind_eq_ok_iff.mp h
      obtain ⟨rfl, rfl⟩ := Prod.mk.inj (Except.ok.inj h)
      exact bind_eq_ok_iff.mpr ⟨_, readFlags_cut hread, rfl⟩
  have hend : ∀ p : List (Flag × Bool) × Char, Blind w fun rest =>
      if p.2 == ':' then .ok (Token.openGroup (.plain p.1), rest)
      else if p.1.isEmpty then .error .repetitionWithoutPattern
      else .ok (.directive p.1, rest) := fun p =>
    .ite (.pure _) (.ite (.error _) (.pure _))
  refine (hswitches.bind hend).congr fun cs => ?_
  unfold switchesOfGroup
  cases Token.readFlags [] none cs <;> rfl

/-- A group after its question mark. Angle brackets begin the name of a group, after a letter `P` too,
and whatever else stands there are switches. -/
def markedGroup : List Char → Except PatternError (Token × List Char)
  | '=' :: _ | '!' :: _ | '<' :: '=' :: _ | '<' :: '!' :: _ => .error .lookAround
  | 'P' :: '<' :: rest | '<' :: rest => nameOfGroup rest
  | rest => switchesOfGroup rest

/-- A group after its opening parenthesis. -/
def anyGroup : List Char → Except PatternError (Token × List Char)
  | '?' :: rest => markedGroup rest
  | rest => .ok (.openGroup (.capture none), rest)

theorem readGroup_eq_anyGroup (cs : List Char) :
    Token.readGroup v cs = anyGroup (skip v cs) := by
  unfold Token.readGroup
  generalize skip v cs = l
  split
  next => rfl
  next => rfl
  next => rfl
  next => rfl
  next => rfl
  next heq hbang =>
    simp only [anyGroup, markedGroup]
    rfl
  next h₁ h₂ h₃ h₄ h₅ h₆ =>
    simp only [anyGroup]
    rw [markedGroup]
    · rfl
    all_goals assumption
  next hne =>
    rw [anyGroup]
    exact hne

private theorem blind_markedGroup : Blind w markedGroup := by
  have hangle : Blind w fun cs => markedGroup ('<' :: cs) := by
    refine .of_head blind_nameOfGroup rfl (fun _ => rfl) fun c _ => ?_
    by_cases heq : c = '='
    · subst heq
      exact .inl (.error fun _ => .lookAround)
    by_cases hbang : c = '!'
    · subst hbang
      exact .inl (.error fun _ => .lookAround)
    · refine .inr ⟨_, blind_nameOfGroup, fun cs => ?_⟩
      rw [markedGroup]
      · exact fun _ h => heq (List.cons.inj h).1
      · exact fun _ h => hbang (List.cons.inj h).1
  -- a letter `P` is no switch
  have hletter : Blind w fun cs => markedGroup ('P' :: cs) := by
    refine .of_head (.error fun _ => .unknownFlag 'P') rfl (fun _ => rfl) fun c _ => ?_
    by_cases hc : c = '<'
    · subst hc
      exact .inl blind_nameOfGroup
    · refine .inr ⟨_, .error fun _ => .unknownFlag 'P', fun cs => ?_⟩
      rw [markedGroup]
      · rfl
      all_goals simp [hc]
  refine .of_head blind_switchesOfGroup rfl (fun _ => rfl) fun c _ => ?_
  by_cases heq : c = '='
  · subst heq
    exact .inl (.error fun _ => .lookAround)
  by_cases hbang : c = '!'
  · subst hbang
    exact .inl (.error fun _ => .lookAround)
  by_cases hopen : c = '<'
  · subst hopen
    exact .inl hangle
  by_cases hP : c = 'P'
  · subst hP
    exact .inl hletter
  · refine .inr ⟨_, blind_switchesOfGroup, fun cs => ?_⟩
    rw [markedGroup]
    all_goals simp [heq, hbang, hopen, hP]

/-- What follows the opening parenthesis of a group. -/
theorem blind_readGroup : Blind w (Token.readGroup v) := by
  have hany : Blind w anyGroup := by
    refine .of_head (.pure _) rfl (fun _ => rfl) fun c _ => ?_
    by_cases hc : c = '?'
    · subst hc
      exact .inl blind_markedGroup
    · refine .inr ⟨_, .pure (.openGroup (.capture none)), fun cs => ?_⟩
      rw [anyGroup]
      exact fun _ h => hc (List.cons.inj h).1
  exact (hany.afterSkip v).congr fun cs => (readGroup_eq_anyGroup cs).symm

end AggregateNaming.Pattern
