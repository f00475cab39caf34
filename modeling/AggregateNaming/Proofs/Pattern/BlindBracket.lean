import AggregateNaming.Proofs.Pattern.Blind

/-!
# Brackets and tokens that do not see what they leave

The readers of brackets and of whole tokens see as little of what they leave as those of their parts.
A bracket needs a second look, since the reader asks what follows a hyphen, and there blanks are
skipped in another way: where it would come to the end of the text, the bracket is not closed.

## Main statements

- `bracketRange_cut`, `Turn.cut` : what the reader of brackets takes at a turn.
- `blind_bracketRead` : a bracket as a whole.
- `Token.read_suffix` : a token takes at least one character.
- `Token.read_cut` : what a token is does not depend on a closing parenthesis behind it.
-/

namespace AggregateNaming.Pattern

variable {w : List Char} {v : Bool}

/-! ## §1 Openings -/

theorem leadingHyphens_suffix (b : OpenBracket) (inComment : Bool) (cs : List Char) :
    (leadingHyphens v b inComment cs).2 <:+ cs := by
  induction cs generalizing b inComment with
  | nil =>
    cases inComment <;> exact List.suffix_refl _
  | cons c cs ih =>
    cases inComment with
    | true => exact (ih b _).trans (List.suffix_cons c cs)
    | false =>
      rw [leadingHyphens]
      split
      · exact (ih b _).trans (List.suffix_cons c cs)
      · split
        · exact (ih b _).trans (List.suffix_cons c cs)
        · split
          · exact (ih _ false).trans (List.suffix_cons c cs)
          · exact List.suffix_refl _

theorem leadingHyphens_cut {b b' : OpenBracket} {inComment : Bool} {cs r : List Char}
    (h : leadingHyphens v b inComment (cs ++ ')' :: w) = (b', r ++ ')' :: w)) :
    leadingHyphens v b inComment cs = (b', r) := by
  induction cs generalizing b inComment with
  | nil =>
    cases inComment with
    | true =>
      -- the comment has swallowed the parenthesis
      rw [List.nil_append, leadingHyphens] at h
      have hw := leadingHyphens_suffix (v := v) b (')' != '\n') w
      rw [h] at hw
      exact absurd hw not_suffix_of_paren
    | false =>
      -- the parenthesis is neither a blank nor a hyphen
      rw [List.nil_append, leadingHyphens, if_neg (by simp [isBlank_paren]), if_neg (by simp),
        if_neg (by decide)] at h
      obtain ⟨rfl, hrest⟩ := Prod.mk.inj h
      have hr : [] = r := append_paren_inj (a := []) hrest
      rw [← hr]
      rfl
  | cons c cs ih =>
    cases inComment with
    | true => exact ih h
    | false =>
      rw [List.cons_append, leadingHyphens] at h
      rw [leadingHyphens]
      split at h
      next hblank =>
        rw [if_pos hblank]
        exact ih h
      next hblank =>
        rw [if_neg hblank]
        split at h
        next hmark =>
          rw [if_pos hmark]
          exact ih h
        next hmark =>
          rw [if_neg hmark]
          split at h
          next hhyphen =>
            rw [if_pos hhyphen]
            exact ih h
          next hhyphen =>
            obtain ⟨rfl, hrest⟩ := Prod.mk.inj h
            have hr : c :: cs = r := append_paren_inj (a := c :: cs) hrest
            rw [if_neg hhyphen, hr]

/-- Hyphens at the beginning of a bracket. -/
theorem blind_leadingHyphens (b : OpenBracket) :
    Blind w fun cs => .ok (leadingHyphens v b false cs) where
  suffix := by
    intro cs a r h
    have hsuffix := leadingHyphens_suffix (v := v) b false cs
    rw [Except.ok.inj h] at hsuffix
    exact hsuffix
  cut h := congrArg _ (leadingHyphens_cut (Except.ok.inj h))

/-- The opening of a bracket, from its caret on. -/
def caretOfBracket (v : Bool) : List Char → Bool × List Char
  | '^' :: rest => (true, skip v rest)
  | cs => (false, cs)

/-- The opening of a bracket, after its caret. -/
def startOfBracket (v negated : Bool) : List Char → OpenBracket × List Char
  | ']' :: rest => ({ negated, items := .literal ⟨']', false⟩ }, skip v rest)
  | cs => leadingHyphens v { negated } false cs

theorem openBracket_eq_start (cs : List Char) :
    openBracket v cs = startOfBracket v (caretOfBracket v (skip v cs)).1
      (caretOfBracket v (skip v cs)).2 := rfl

/-- The opening of a bracket. -/
theorem blind_openBracket : Blind w fun cs => .ok (openBracket v cs) := by
  -- first a caret or none, then a closing bracket that is a character or the hyphens
  have hcaret : Blind w fun cs => .ok (caretOfBracket v cs) := by
    refine .of_head (.pure false) rfl (fun _ => rfl) fun c _ => ?_
    by_cases hc : c = '^'
    · subst hc
      exact .inl ((Blind.pure true).afterSkip v)
    · refine .inr ⟨_, .pure false, fun cs => ?_⟩
      rw [caretOfBracket]
      exact fun _ h => hc (List.cons.inj h).1
  have hstart : ∀ negated : Bool, Blind w fun cs =>
      .ok (startOfBracket v negated cs) := by
    intro negated
    refine .of_head (blind_leadingHyphens _) rfl (fun _ => rfl) fun c _ => ?_
    by_cases hc : c = ']'
    · subst hc
      exact .inl (Blind.afterSkip (.pure _) v)
    · refine .inr ⟨_, blind_leadingHyphens (v := v) { negated }, fun cs => ?_⟩
      rw [startOfBracket]
      exact fun _ h => hc (List.cons.inj h).1
  exact ((hcaret.afterSkip v).bind hstart).congr fun cs => rfl

/-- Named classes. -/
theorem asciiClass?_cut {cs r : List Char} {item : Bracket}
    (h : asciiClass? (cs ++ ')' :: w) = some (item, r ++ ')' :: w)) :
    asciiClass? cs = some (item, r) := by
  -- the class ends with its first closing bracket, which is before the parenthesis
  obtain ⟨k, heq, -, -, hread⟩ := asciiClass?_eq_some h
  have hcs : cs = (':' :: k) ++ ']' :: r := by
    have hall : cs ++ ')' :: w = ((':' :: k) ++ ']' :: r) ++ ')' :: w := by
      rw [heq, List.append_assoc]
      rfl
    exact List.append_cancel_right hall
  rw [hcs]
  exact hread r

/-- What is no named class is none without the parenthesis behind it. -/
theorem asciiClass?_cut_none {cs : List Char} (h : asciiClass? (cs ++ ')' :: w) = none) :
    asciiClass? cs = none := by
  cases hclass : asciiClass? cs with
  | none => rfl
  | some p =>
    obtain ⟨item, r⟩ := p
    -- a class is one whatever follows it
    obtain ⟨k, rfl, -, -, hread⟩ := asciiClass?_eq_some hclass
    rw [List.append_assoc] at h
    exact absurd (h.symm.trans (hread _)) nofun

theorem asciiClass?_suffix {cs r : List Char} {item : Bracket}
    (h : asciiClass? cs = some (item, r)) : r <:+ cs := by
  obtain ⟨k, rfl, -⟩ := asciiClass?_eq_some h
  exact ⟨(':' :: k) ++ [']'], by simp⟩

/-! ## §2 Items and ranges -/

/-- An item of a bracket, from an escape. -/
def itemOfEscape : Escape → List Char → Except PatternError (Bracket × List Char)
  | .literal l, rest => .ok (.literal l, rest)
  | .short c negated, rest => .ok (.short c negated, rest)
  | .property q negated, rest => .ok (.property q negated, rest)
  | .assertion _, _ => .error .badBracketItem

theorem bracketItem_backslash (cs : List Char) :
    bracketItem v ('\\' :: cs) = escaped v cs >>= fun p => itemOfEscape p.1 p.2 := by
  rw [bracketItem]
  rcases escaped v cs with e | ⟨_ | _ | _ | _, rest⟩ <;> rfl

/-- An item of a bracket, after its first character. -/
theorem blind_bracketItem_cons (c : Char) : Blind w fun cs => bracketItem v (c :: cs) := by
  have hitem : ∀ e : Escape, Blind w (itemOfEscape e) := by
    intro e
    cases e with
    | literal l => exact .pure _
    | short c negated => exact .pure _
    | property q negated => exact .pure _
    | assertion a => exact .error fun _ => .badBracketItem
  by_cases hc : c = '\\'
  · subst hc
    simp only [bracketItem_backslash]
    refine .of_consuming ⟨_, rfl⟩ fun c => ?_
    by_cases hb : c = 'b'
    · -- an assertion is no item, wherever its mark ends
      subst hb
      have hnone : ∀ cs a r, (escaped v ('b' :: cs) >>= fun p => itemOfEscape p.1 p.2) ≠
          .ok (a, r) := by
        intro cs a r h
        obtain ⟨⟨e, rest⟩, hread, h⟩ := bind_eq_ok_iff.mp h
        obtain ⟨⟨a, rfl⟩, -⟩ := exists_of_wordBoundaryEscape (v := v) (s := cs) hread
        cases h
      exact ⟨fun h => absurd h (hnone _ _ _), fun h => absurd h (hnone _ _ _)⟩
    · exact (blind_escaped hb).bind hitem
  · refine (Blind.pure (.literal ⟨c, false⟩)).congr fun cs => ?_
    rw [bracketItem]
    exact fun h => hc h

/-- An item of a bracket. -/
theorem blind_bracketItem : Blind w (bracketItem v) :=
  .of_consuming ⟨_, rfl⟩ blind_bracketItem_cons

private theorem blind_endOfRange (first : Bracket) : Blind w (endOfRange v first) :=
  blind_bracketItem.bind fun _ => .lift fun r => .pure r

/-- A parenthesis is the first thing that is neither a blank nor a mark for a comment, if there was
nothing of the kind before it. -/
private theorem go_append_paren (seen : Bool) (cs : List Char) :
    peekPast.go seen (cs ++ ')' :: w) = (peekPast.go seen cs).or (some ')') := by
  induction cs generalizing seen with
  | nil =>
    change peekPast.go seen (')' :: w) = some ')'
    rw [peekPast.go, if_neg (by simp [isBlank_paren]), if_neg (by simp)]
  | cons c cs ih =>
    rw [List.cons_append, peekPast.go, peekPast.go]
    split
    · exact ih seen
    · split
      · exact ih true
      · rfl

/-- Where there is nothing of the kind at all, nothing is left by skipping either. -/
private theorem skipFrom_eq_nil_of_go {seen : Bool} {cs : List Char}
    (h : peekPast.go seen cs = none) :
    skipFrom false cs = [] ∧ (seen = true → skipFrom true cs = []) := by
  induction cs generalizing seen with
  | nil => exact ⟨rfl, fun _ => rfl⟩
  | cons c cs ih =>
    rw [peekPast.go] at h
    split at h
    next hblank =>
      obtain ⟨hplain, hcomment⟩ := ih h
      refine ⟨by simpa only [skipFrom, if_pos hblank] using hplain, fun hseen => ?_⟩
      rw [skipFrom]
      cases c != '\n' with
      | true => exact hcomment hseen
      | false => exact hplain
    next hblank =>
      split at h
      next hmark =>
        obtain ⟨-, hcomment⟩ := ih h
        simp only [Bool.and_eq_true, Bool.not_eq_true', beq_iff_eq] at hmark
        refine ⟨?_, fun hseen => absurd (hmark.1.symm.trans hseen) Bool.false_ne_true⟩
        rw [skipFrom, if_neg hblank, if_pos (by simpa using hmark.2)]
        exact hcomment rfl
      · cases h

/-- The decisive character is the same, or it is the parenthesis; then nothing is left by skipping
what comes before it. -/
private theorem decisive?_append_paren (cs : List Char) :
    decisive? v (cs ++ ')' :: w) = decisive? v cs ∨
      decisive? v (cs ++ ')' :: w) = some ')' ∧ skip v cs = [] := by
  unfold decisive? skip
  cases v with
  | false =>
    cases cs with
    | nil => exact .inr ⟨rfl, rfl⟩
    | cons c cs => exact .inl rfl
  | true =>
    simp only [if_true, peekPast, go_append_paren]
    cases hgo : peekPast.go false cs with
    | some c => exact .inl rfl
    | none => exact .inr ⟨rfl, (skipFrom_eq_nil_of_go hgo).1⟩

private theorem restOfRange_suffix {first item : Bracket} {cs r : List Char}
    (h : restOfRange v first cs = .ok (item, r)) : r <:+ cs := by
  unfold restOfRange at h
  split at h
  · cases h
  next rest =>
    split at h
    · cases h
      exact List.suffix_refl _
    · have hend := (blind_endOfRange (w := []) first).suffix h
      exact (hend.trans (skip_suffix v rest)).trans (List.suffix_cons _ _)
  · cases h
    exact List.suffix_refl _

/-- What follows the first item of a range is the same without the parenthesis, where something is
left before it. -/
private theorem restOfRange_cut {first item : Bracket} {cs r : List Char} (hr : r ≠ [])
    (h : restOfRange v first (cs ++ ')' :: w) = .ok (item, r ++ ')' :: w)) :
    restOfRange v first cs = .ok (item, r) := by
  rcases cs with _ | ⟨c, cs⟩
  · -- nothing would be left
    rw [List.nil_append, restOfRange_plain (by decide)] at h
    have hnil : [] = r := append_paren_inj (a := [])
      (Prod.mk.inj (Except.ok.inj h)).2
    exact absurd hnil.symm hr
  by_cases hc : c = '-'
  · subst hc
    -- the end of the range is read after blanks, where the parenthesis makes no difference
    have hend : ∀ {item r}, endOfRange v first (skip v (cs ++ ')' :: w)) =
        .ok (item, r ++ ')' :: w) → endOfRange v first (skip v cs) = .ok (item, r) :=
      fun h => ((blind_endOfRange first).afterSkip v).cut h
    rw [List.cons_append, restOfRange] at h
    rw [restOfRange]
    rcases decisive?_append_paren (w := w) (v := v) cs with heq | ⟨hparen, hskip⟩
    · rw [heq] at h
      split at h
      next hnext =>
        obtain ⟨rfl, hrest⟩ := Prod.mk.inj (Except.ok.inj h)
        have hcs : '-' :: cs = r := append_paren_inj (a := '-' :: cs) hrest
        rw [if_pos hnext, hcs]
      next hnext =>
        rw [if_neg hnext]
        exact hend h
    · -- the range would have to end with the parenthesis
      rw [hparen, if_neg (by decide)] at h
      have hcut := hend h
      rw [hskip] at hcut
      cases hcut
  · -- without a hyphen there is no range
    rw [List.cons_append, restOfRange_plain hc] at h
    obtain ⟨rfl, hrest⟩ := Prod.mk.inj (Except.ok.inj h)
    have hcs : c :: cs = r := append_paren_inj (a := c :: cs) hrest
    rw [restOfRange_plain hc, hcs]

theorem bracketRange_suffix {c : Char} {cs r : List Char} {item : Bracket}
    (h : bracketRange v (c :: cs) = .ok (item, r)) : r <:+ cs := by
  rw [bracketRange_eq_restOfRange] at h
  obtain ⟨⟨first, rest⟩, hfirst, hrest⟩ := bind_eq_ok_iff.mp h
  have hitem := (blind_bracketItem_cons (w := []) c).suffix hfirst
  exact ((restOfRange_suffix hrest).trans (skip_suffix v rest)).trans hitem

/-- An item or a range is the same without the parenthesis, where something is left before it. -/
theorem bracketRange_cut {s r : List Char} {item : Bracket} (hr : r ≠ [])
    (h : bracketRange v (s ++ ')' :: w) = .ok (item, r ++ ')' :: w)) :
    bracketRange v s = .ok (item, r) := by
  rw [bracketRange_eq_restOfRange] at h ⊢
  obtain ⟨⟨first, rest⟩, hfirst, hrest⟩ := bind_eq_ok_iff.mp h
  dsimp only at hrest
  have hsuffix := restOfRange_suffix hrest
  obtain ⟨k, rfl, -⟩ := exists_of_paren_suffix (hsuffix.trans (skip_suffix v rest))
  rw [skip_append_of_suffix hsuffix] at hrest
  exact bind_eq_ok_iff.mpr ⟨(first, k), blind_bracketItem.cut hfirst, restOfRange_cut hr hrest⟩

/-! ## §3 Turns and whole brackets -/

/-- What is left after a turn of the reader is left after the first character too. -/
theorem Turn.suffix {b b' : OpenBracket} {outer outer' : List OpenBracket} {cs cs' : List Char}
    (h : Turn v b outer cs b' outer' cs') : ∃ c rest, cs = c :: rest ∧ cs' <:+ rest := by
  cases h with
  | namedClass hclass => exact ⟨_, _, rfl, asciiClass?_suffix hclass⟩
  | openNested _ hopen =>
    exact ⟨_, _, rfl, (blind_openBracket (w := [])).suffix (congrArg Except.ok hopen)⟩
  | closeNested => exact ⟨_, _, rfl, List.suffix_refl _⟩
  | operation => exact ⟨_, _, rfl, List.suffix_cons _ _⟩
  | item _ _ _ hrange => exact ⟨_, _, rfl, bracketRange_suffix hrange⟩

/-- A turn is the same without the parenthesis, where something is left before it. -/
theorem Turn.cut {b b' : OpenBracket} {outer outer' : List OpenBracket} {cs r : List Char}
    (hr : r ≠ []) (h : Turn v b outer (cs ++ ')' :: w) b' outer' (r ++ ')' :: w)) :
    Turn v b outer cs b' outer' r := by
  rcases cs with _ | ⟨c, cs⟩
  · -- nothing but a part of `w` is left after the parenthesis
    obtain ⟨c, rest, heq, hsuffix⟩ := h.suffix
    rw [(List.cons.inj heq).2] at hsuffix
    exact absurd hsuffix not_suffix_of_paren
  generalize hcs' : c :: cs ++ ')' :: w = l at h
  generalize hr' : r ++ ')' :: w = l' at h
  cases h with
  | namedClass hclass =>
    obtain ⟨rfl, rfl⟩ := List.cons.inj hcs'
    subst hr'
    exact .namedClass (asciiClass?_cut hclass)
  | openNested hclass hopen =>
    obtain ⟨rfl, rfl⟩ := List.cons.inj hcs'
    subst hr'
    have hcut := blind_openBracket.cut (congrArg Except.ok hopen)
    exact .openNested (asciiClass?_cut_none hclass) (Except.ok.inj hcut)
  | closeNested =>
    obtain ⟨rfl, hrest⟩ := List.cons.inj hcs'
    rw [List.append_cancel_right (hrest.trans hr'.symm)]
    exact .closeNested
  | operation hop =>
    obtain ⟨rfl, hrest⟩ := List.cons.inj hcs'
    cases cs with
    | nil =>
      -- a parenthesis is no operation
      obtain ⟨rfl, -⟩ := List.cons.inj hrest
      cases hop
    | cons d cs =>
      -- one of the two characters is left, and what follows it
      obtain ⟨rfl, rfl⟩ := List.cons.inj hrest
      rw [List.append_cancel_right hr']
      exact .operation hop
  | item hopen hclose hop hrange =>
    obtain ⟨rfl, rfl⟩ := List.cons.inj hcs'
    subst hr'
    refine .item hopen hclose (fun cs' hcs => hop (cs' ++ ')' :: w) ?_)
      (bracketRange_cut (s := c :: cs) hr hrange)
    rw [hcs]
    rfl

/-- A bracket ends with a closing bracket. -/
theorem readBracket_suffix {n : Nat} {b : OpenBracket} {outer : List OpenBracket} {cs r : List Char}
    {whole : Bracket} (h : readBracket v n b outer cs = .ok (whole, r)) :
    ']' :: r <:+ cs := by
  induction n generalizing b outer cs with
  | zero => cases h
  | succ n ih =>
    rcases turn_of_readBracket h with ⟨hskip, -, -⟩ | ⟨n', b', outer', cs', hn, hturn, hrest⟩
    · rw [← hskip]
      exact skip_suffix v cs
    · cases hn
      obtain ⟨c, rest, hskip, hsuffix⟩ := hturn.suffix
      have hrest' : ']' :: r <:+ skip v cs := by
        rw [hskip]
        exact ((ih hrest).trans hsuffix).trans (List.suffix_cons c rest)
      exact hrest'.trans (skip_suffix v cs)

/-- A bracket is the same without the parenthesis behind it, and as much fuel as there are characters
is enough for it. -/
theorem readBracket_cut {n : Nat} {b : OpenBracket} {outer : List OpenBracket} {cs r : List Char}
    {whole : Bracket}
    (h : readBracket v n b outer (cs ++ ')' :: w) = .ok (whole, r ++ ')' :: w)) :
    readBracket v cs.length b outer cs = .ok (whole, r) := by
  induction n generalizing b outer cs with
  | zero => cases h
  | succ n ih =>
    have hlength : (skip v cs).length ≤ cs.length := (skip_suffix v cs).length_le
    rcases turn_of_readBracket h with
      ⟨hskip, rfl, rfl⟩ | ⟨n', b', outer', cs', hn, hturn, hrest⟩
    · -- the last turn, at the closing bracket
      rw [skip_append_of_suffix ⟨[']'], hskip.symm⟩] at hskip
      have hcs : skip v cs = ']' :: r :=
        append_paren_inj (b := ']' :: r) hskip
      rw [hcs] at hlength
      obtain ⟨m, hm⟩ := Nat.exists_eq_add_of_le' hlength
      rw [hm, List.length_cons, ← Nat.add_assoc, readBracket, hcs]
      rfl
    · cases hn
      -- the closing bracket is still to come after the turn
      have hclosing := readBracket_suffix hrest
      obtain ⟨k, rfl, hk⟩ := exists_of_paren_suffix (r := ']' :: r) hclosing
      have hne : k ≠ [] := by
        rintro rfl
        exact List.cons_ne_nil _ _ (List.suffix_nil.mp hk)
      obtain ⟨c, rest, hskip, hsuffix⟩ := hturn.suffix
      rw [skip_append_of_suffix] at hturn
      · have hcut := hturn.cut hne
        obtain ⟨c, rest, hcs, hkrest⟩ := hcut.suffix
        have hlt : k.length < cs.length := by
          have hle := hkrest.length_le
          rw [hcs, List.length_cons] at hlength
          omega
        obtain ⟨m, hm⟩ := Nat.exists_eq_add_of_lt hlt
        rw [hm, hcut.readBracket_eq]
        exact readBracket_mono (ih hrest) (Nat.le_add_right _ _)
      · rw [hskip]
        exact hsuffix.trans (List.suffix_cons c rest)

/-- A bracket, after its opening. -/
theorem blind_bracketRead : Blind w (Bracket.read v) where
  suffix := by
    intro cs a r h
    unfold Bracket.read at h
    have hopening : (openBracket v cs).2 <:+ cs := (blind_openBracket (w := [])).suffix rfl
    exact ((List.suffix_cons _ r).trans (readBracket_suffix h)).trans hopening
  cut := by
    intro cs a r h
    unfold Bracket.read at h ⊢
    generalize hopen : openBracket v (cs ++ ')' :: w) = p at h
    obtain ⟨b, rest⟩ := p
    dsimp only at h
    obtain ⟨k, rfl, -⟩ := exists_of_paren_suffix ((List.suffix_cons _ _).trans (readBracket_suffix h))
    have hcut : openBracket v cs = (b, k) :=
      Except.ok.inj (blind_openBracket.cut (congrArg Except.ok hopen))
    have hlength : k.length ≤ cs.length :=
      ((blind_openBracket (w := [])).suffix (congrArg Except.ok hcut)).length_le
    rw [hcut]
    exact readBracket_mono (readBracket_cut h) (by omega)

/-! ## §4 Tokens -/

/-- The token that a reader has read. -/
private theorem blind_some {f : List Char → Except PatternError (Token × List Char)}
    (hf : Blind w f) : Blind w fun cs => f cs >>= fun p => .ok (some p.1, p.2) :=
  hf.bind fun t => .pure (some t)

/-- A token that begins with anything but a backslash. -/
theorem blind_tokenRead_cons {c : Char} (hc : c ≠ '\\') :
    Blind w fun cs => Token.read v (c :: cs) := by
  -- by what the first character stands for, in the order of the reader
  have hrepetition (least : Nat) (most : Option Nat) :=
    blind_takeLazy.bind fun isLazy =>
      Blind.pure (w := w) (some (Token.repetition least most isLazy))
  by_cases hopen : c = '('
  · subst hopen
    exact blind_some blind_readGroup
  by_cases hclose : c = ')'
  · subst hclose
    exact .pure _
  by_cases hbar : c = '|'
  · subst hbar
    exact .pure _
  by_cases hbracket : c = '['
  · subst hbracket
    exact blind_bracketRead.bind fun b => .pure (some (Token.bracket b))
  by_cases hquestion : c = '?'
  · subst hquestion
    exact hrepetition 0 (some 1)
  by_cases hstar : c = '*'
  · subst hstar
    exact hrepetition 0 none
  by_cases hplus : c = '+'
  · subst hplus
    exact hrepetition 1 none
  by_cases hbrace : c = '{'
  · subst hbrace
    exact blind_some blind_readCounts
  by_cases hdot : c = '.'
  · subst hdot
    exact .pure _
  by_cases hcaret : c = '^'
  · subst hcaret
    exact .pure _
  by_cases hdollar : c = '$'
  · subst hdollar
    exact .pure _
  · refine (Blind.pure (some (Token.literal ⟨c, false⟩))).congr fun cs => ?_
    rw [Token.read]
    all_goals assumption

/-- A token takes at least one character. -/
theorem Token.read_suffix {c : Char} {cs r : List Char} {t : Option Token}
    (h : Token.read v (c :: cs) = .ok (t, r)) : r <:+ cs := by
  by_cases hc : c = '\\'
  · subst hc
    obtain ⟨⟨e, rest⟩, hread, h⟩ := bind_eq_ok_iff.mp h
    cases h
    rcases cs with _ | ⟨d, cs⟩
    · cases hread
    refine List.IsSuffix.trans ?_ (List.suffix_cons d cs)
    by_cases hd : d = 'b'
    · -- the one escape that looks ahead
      subst hd
      exact (exists_of_wordBoundaryEscape (v := v) hread).2
    · exact (blind_escaped (w := []) hd).suffix hread
  · exact (blind_tokenRead_cons (w := []) hc).suffix h

/-- A token is the same without the parenthesis behind it, unless it is a mark for a word boundary
before a brace with nothing but blanks behind it. -/
theorem Token.read_cut {cs r : List Char} {t : Token}
    (h : Token.read v (cs ++ ')' :: w) = .ok (some t, r ++ ')' :: w)) :
    Token.read v cs = .ok (some t, r) ∨
      (∃ a, t = .assertion a) ∧ ∃ k, r = '{' :: k ∧ skip v k = [] := by
  rcases cs with _ | ⟨c, cs⟩
  · exact absurd (Token.read_suffix h) not_suffix_of_paren
  by_cases hc : c = '\\'
  · subst hc
    obtain ⟨⟨e, rest⟩, hread, h⟩ := bind_eq_ok_iff.mp h
    obtain ⟨ht, rfl⟩ := Prod.mk.inj (Except.ok.inj h)
    rcases cs with _ | ⟨d, cs⟩
    · exact absurd ((blind_escaped (w := []) (by decide)).suffix hread) not_suffix_of_paren
    -- what has been read of the escape makes the token
    have hescape : ∀ {e r}, escaped v (d :: cs) = .ok (e, r) →
        Token.read v ('\\' :: d :: cs) = .ok (some (.ofEscape e), r) :=
      fun hread => bind_eq_ok_iff.mpr ⟨_, hread, rfl⟩
    obtain rfl : .ofEscape e = t := Option.some.inj ht
    by_cases hd : d = 'b'
    · subst hd
      obtain ⟨⟨a, rfl⟩, -⟩ := exists_of_wordBoundaryEscape (v := v) hread
      exact (wordBoundaryEscape_cut hread).imp hescape fun hbrace => ⟨⟨a, rfl⟩, hbrace⟩
    · exact .inl (hescape ((blind_escaped hd).cut hread))
  · exact .inl ((blind_tokenRead_cons hc).cut h)

end AggregateNaming.Pattern
