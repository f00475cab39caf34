import AggregateNaming.Proofs.Pattern.Hole
import AggregateNaming.Proofs.Pattern.Percent

/-!
# Readers that are steady

Where blanks count, most readers take offence at a hole: none of the things that they read has a
percent sign in it. So what they accept with percent signs in the holes has no hole in it, and they
take the same from it however holes are filled. There are two exceptions, which are refused later: a
property that does not exist, and a mark for a word boundary before braces that are no repetition.

## Main statements

- `steady_readGroupName`, `steady_readCounts`, `steady_hexEscape`, `steady_readGroup` : readers that
  are steady on every text that they accept with percent signs in its holes.
- `escaped_fill`, `tokenRead_fill` : what escapes and tokens come to.
-/

namespace AggregateNaming.Pattern

variable {α β : Filling}

/-! ## §1 Marks and flags -/

/-- Whether a repetition is lazy does not depend on how holes are filled. -/
theorem takeLazy_fill (S : List Symbol) :
    ∃ b T, T <:+ S ∧ ∀ ρ : Filling, ρ.Full → Token.takeLazy (fill ρ S) = (b, fill ρ T) := by
  rcases begins_or_forall_ne (d := '?') rfl (by decide) S with ⟨S, rfl⟩ | hne
  · exact ⟨true, S, List.suffix_cons _ _, fun _ _ => rfl⟩
  · refine ⟨false, S, List.suffix_refl _, fun ρ hρ => ?_⟩
    rw [Token.takeLazy]
    exact hne ρ hρ

/-- Switches that are accepted with percent signs in the holes have no hole among them. -/
theorem readFlags_fill (hβ : β.Only '%') {S : List Symbol} {seen : List Flag}
    {turned : Option Bool} {changes : List (Flag × Bool)} {last : Char} {rest : List Char}
    (h : Token.readFlags seen turned (fill β S) = .ok (changes, last, rest)) :
    ∃ T, T <:+ S ∧
      ∀ ρ : Filling, Token.readFlags seen turned (fill ρ S) = .ok (changes, last, fill ρ T) := by
  induction S generalizing seen turned changes last rest with
  | nil => cases h
  | cons a S ih =>
    cases a with
    | hole name =>
      -- a percent sign is no switch
      obtain ⟨k, hk⟩ := hβ.fill_hole_percent name S
      rw [hk] at h
      cases h
    | char c =>
      -- the same branches are taken for all fillings, as they look at this character only
      rw [fill_char, Token.readFlags] at h
      simp only [fill_char, Token.readFlags]
      split at h
      next hend =>
        split at h
        · cases h
        next hturned =>
          cases h
          exact ⟨S, List.suffix_cons _ _, fun ρ => by rw [if_pos hend, if_neg hturned]⟩
      next hend =>
        split at h
        next hminus =>
          split at h
          · cases h
          next hturned =>
            obtain ⟨T, hT, hread⟩ := ih h
            refine ⟨T, hT.trans (List.suffix_cons _ _), fun ρ => ?_⟩
            rw [if_neg hend, if_pos hminus, if_neg hturned, hread ρ]
        next hminus =>
          split at h
          · cases h
          next f hf =>
            split at h
            · cases h
            next hseen =>
              obtain ⟨⟨changes', last', rest'⟩, hrec, h⟩ := bind_eq_ok_iff.mp h
              cases h
              obtain ⟨T, hT, hread⟩ := ih hrec
              refine ⟨T, hT.trans (List.suffix_cons _ _), fun ρ => ?_⟩
              rw [if_neg hend, if_neg hminus, if_neg hseen, hread ρ]
              rfl

/-- The name of a group that is accepted with percent signs in the holes has no hole in it. -/
theorem steady_readGroupName (hβ : β.Only '%') {S : List Symbol} {name : String}
    {rest : List Char} (h : Token.readGroupName (fill β S) = .ok (name, rest)) :
    (∃ c S', S = .char c :: S') ∧ ∃ T, Steady Token.readGroupName S name T := by
  have hspan := span_until_fill hβ (d := '>') (by decide) S
  unfold Token.readGroupName at h
  rcases hspan with ⟨pre, T, hpre, rfl⟩ | hspan | hspan
  · -- the mark for the end is one of the author, with no hole before it
    rw [span_until_char hpre] at h
    cases pre with
    | nil => cases h
    | cons c pre =>
      refine ⟨⟨c, _, rfl⟩, T, (List.suffix_cons _ _).trans (List.suffix_append _ _), fun ρ _ => ?_⟩
      unfold Token.readGroupName
      rw [span_until_char hpre]
      dsimp only at h ⊢
      split at h
      next hname =>
        cases h
        rw [if_pos hname]
      · cases h
  · -- there is a percent sign before the mark, which no name has
    split at h
    · cases h
    · cases h
    next c cs d rest' heq =>
      rw [heq] at hspan
      split at h
      next hname =>
        simp only [Bool.and_eq_true, List.all_eq_true] at hname
        rcases List.mem_cons.mp hspan with rfl | hmem
        · simp [isNameChar_percent] at hname
        · exact absurd (hname.2 _ hmem) (by simp [isNameChar_percent])
      · cases h
  · -- there is no such mark
    split at h
    · cases h
    · cases h
    next heq =>
      rw [heq] at hspan
      cases hspan

/-! ## §2 Numbers -/

/-- A decimal number is the same however holes are filled, unless a hole follows it. -/
theorem decimal_fill (hβ : β.Only '%') {S : List Symbol} {n : Nat} {rest : List Char}
    (h : decimal false (fill β S) = .ok (n, rest)) :
    ∃ T, T <:+ S ∧ rest = fill β T ∧
      ((∃ name T', T = .hole name :: T') ∨
        ∀ ρ : Filling, decimal false (fill ρ S) = .ok (n, fill ρ T)) := by
  have hdrop : ∀ S : List Symbol, ∃ T, T <:+ S ∧
      (fill β S).dropWhile Text.isBlank = fill β T ∧
      ((∃ name T', T = .hole name :: T') ∨
        ∀ ρ : Filling, (fill ρ S).dropWhile Text.isBlank = fill ρ T) := by
    intro S
    obtain ⟨pre, T, hS, hspan, hrest⟩ := span_fill hβ Text.isBlank_percent S
    rw [List.span_eq_takeWhile_dropWhile] at hspan
    refine ⟨T, hS ▸ List.suffix_append _ _, congrArg Prod.snd hspan, hrest.imp_right fun h ρ => ?_⟩
    have := h ρ
    rw [List.span_eq_takeWhile_dropWhile] at this
    exact congrArg Prod.snd this
  obtain ⟨S₁, hS₁, hβ₁, hρ₁⟩ := hdrop S
  obtain ⟨digits, S₂, hS₂, hβ₂, hρ₂⟩ := span_fill hβ (p := Char.isDigit) (by decide) S₁
  obtain ⟨S₃, hS₃, hβ₃, hρ₃⟩ := hdrop S₂
  have hsuffix₂ : S₂ <:+ S := .trans (hS₂ ▸ List.suffix_append _ _) hS₁
  unfold decimal at h
  rw [hβ₁, takeCounted_false, hβ₂] at h
  dsimp only at h
  split at h
  · cases h
  next hdigits =>
    split at h
    next hsmall =>
      cases h
      -- a hole before the digits leaves none of them, and a hole after them stays where it is
      rcases hρ₁ with ⟨name, S', rfl⟩ | hρ₁
      · obtain ⟨k, hk⟩ := hβ.fill_hole_percent name S'
        rw [hk, List.span_eq_takeWhile_dropWhile] at hβ₂
        have hnone : digits = [] := by simpa using (congrArg Prod.fst hβ₂).symm
        simp [hnone] at hdigits
      rcases hρ₂ with ⟨name, S', rfl⟩ | hρ₂
      · obtain ⟨k, hk⟩ := hβ.fill_hole_percent name S'
        refine ⟨.hole name :: S', hsuffix₂, ?_, Or.inl ⟨name, S', rfl⟩⟩
        rw [hk]
        simp [Text.isBlank_percent]
      refine ⟨S₃, hS₃.trans hsuffix₂, hβ₃, hρ₃.imp_right fun hρ₃ ρ => ?_⟩
      unfold decimal
      rw [hρ₁, takeCounted_false, hρ₂]
      dsimp only
      rw [if_neg hdigits, if_pos hsmall, hρ₃]
    · cases h

/-- What ends a counted repetition. -/
private def endCounts (least : Nat) (most : Option Nat) :
    List Char → Except PatternError (Token × List Char)
  | '}' :: rest =>
    let (isLazy, rest) := Token.takeLazy rest
    if most.all (least ≤ ·) then .ok (.repetition least most isLazy, rest)
    else .error .badRepetition
  | _ => .error .badRepetition

/-- What follows the first number of a counted repetition. -/
private def afterLeast (least : Nat) : List Char → Except PatternError (Token × List Char)
  | ',' :: '}' :: rest => endCounts least none ('}' :: rest)
  | ',' :: rest => do
    let (most, rest) ← decimal false rest
    endCounts least (some most) rest
  | rest => endCounts least (some least) rest

private theorem readCounts_eq (cs : List Char) :
    Token.readCounts false cs = decimal false cs >>= fun p => afterLeast p.1 p.2 := by
  unfold Token.readCounts
  refine congrArg (decimal false cs >>= ·) (funext fun p => ?_)
  obtain ⟨least, rest⟩ := p
  dsimp only
  split
  next rest =>
    rcases rest with _ | ⟨d, rest⟩
    · rfl
    · by_cases hd : d = '}'
      · subst hd
        rfl
      · have hafter : afterLeast least (',' :: d :: rest) = (do
            let (most, rest) ← decimal false (d :: rest)
            endCounts least (some most) rest) := by
          rw [afterLeast]
          simpa using hd
        rw [hafter]
        simp only [skip, Bool.false_eq_true, if_false]
        split
        next heq => exact absurd (List.cons.inj heq).1 hd
        next => cases decimal false (d :: rest) <;> rfl
  next rest hne =>
    rw [afterLeast]
    · rfl
    · exact fun rest' => hne _
    · exact hne

/-- The end of a counted repetition is accepted with percent signs in the holes only if it is one of
the author. -/
private theorem endCounts_fill (hβ : β.Only '%') {S : List Symbol} {least : Nat}
    {most : Option Nat} {t : Token} {rest : List Char}
    (h : endCounts least most (fill β S) = .ok (t, rest)) :
    ∃ T, Steady (endCounts least most) S t T := by
  rcases begins_or_forall_ne (d := '}') rfl (by decide) S with ⟨S, rfl⟩ | hne
  · obtain ⟨isLazy, T, hT, hlazy⟩ := takeLazy_fill S
    simp only [fill_char, endCounts, hlazy β hβ.full] at h
    split at h
    next hmost =>
      cases h
      refine ⟨T, hT.trans (List.suffix_cons _ _), fun ρ hρ => ?_⟩
      simp only [fill_char, endCounts, hlazy ρ hρ, if_pos hmost]
    · cases h
  · rw [endCounts] at h
    · cases h
    · exact hne β hβ.full

/-- A second number and the end of a counted repetition have no hole in them. -/
private theorem steady_secondCount (hβ : β.Only '%') {S : List Symbol} {least : Nat} {t : Token}
    {rest : List Char}
    (h : (decimal false (fill β S) >>= fun p => endCounts least (some p.1) p.2) = .ok (t, rest)) :
    ∃ T, Steady (fun cs => decimal false cs >>= fun p => endCounts least (some p.1) p.2) S t T := by
  obtain ⟨⟨most, rest'⟩, hmost, hend⟩ := bind_eq_ok_iff.mp h
  obtain ⟨S', hS', rfl, ⟨name, S'', rfl⟩ | hsteady⟩ := decimal_fill hβ hmost
  · obtain ⟨k, hk⟩ := hβ.fill_hole_percent name S''
    rw [hk] at hend
    cases hend
  · obtain ⟨T, hT, hread⟩ := endCounts_fill hβ hend
    refine ⟨T, hT.trans hS', fun ρ hρ => ?_⟩
    dsimp only
    rw [hsteady ρ]
    exact hread ρ hρ

/-- What follows the first number of a counted repetition has no hole in it. -/
private theorem steady_afterLeast (hβ : β.Only '%') {S : List Symbol} {least : Nat} {t : Token}
    {rest : List Char} (h : afterLeast least (fill β S) = .ok (t, rest)) :
    ∃ T, Steady (afterLeast least) S t T := by
  rcases S with _ | ⟨c | name, S⟩
  · cases h
  · by_cases hc : c = ','
    · subst hc
      rcases begins_or_forall_ne (d := '}') rfl (by decide) S with ⟨S, rfl⟩ | hne
      · have hend : endCounts least none (fill β (.char '}' :: S)) = .ok (t, rest) := h
        obtain ⟨T, hT, hread⟩ := endCounts_fill hβ hend
        exact ⟨T, hT.trans (List.suffix_cons _ _), hread⟩
      · have hsecond : ∀ ρ : Filling, ρ.Full → afterLeast least (fill ρ (.char ',' :: S)) =
            decimal false (fill ρ S) >>= fun p => endCounts least (some p.1) p.2 := by
          intro ρ hρ
          rw [fill_char, afterLeast]
          exact hne ρ hρ
        rw [hsecond β hβ.full] at h
        obtain ⟨T, hT, hread⟩ := steady_secondCount hβ h
        refine ⟨T, hT.trans (List.suffix_cons _ _), fun ρ hρ => ?_⟩
        rw [hsecond ρ hρ]
        exact hread ρ hρ
    · have hend : ∀ ρ : Filling, afterLeast least (fill ρ (.char c :: S)) =
          endCounts least (some least) (fill ρ (.char c :: S)) := by
        intro ρ
        rw [fill_char, afterLeast]
        · exact fun cs heq => absurd (List.cons.inj heq).1 hc
        · exact fun cs heq => absurd (List.cons.inj heq).1 hc
      rw [hend β] at h
      obtain ⟨T, hT, hread⟩ := endCounts_fill hβ h
      refine ⟨T, hT, fun ρ hρ => ?_⟩
      rw [hend ρ]
      exact hread ρ hρ
  · obtain ⟨k, hk⟩ := hβ.fill_hole_percent name S
    rw [hk] at h
    cases h

/-- A counted repetition that is accepted with percent signs in the holes has no hole in it. -/
theorem steady_readCounts (hβ : β.Only '%') {S : List Symbol} {t : Token} {rest : List Char}
    (h : Token.readCounts false (fill β S) = .ok (t, rest)) :
    ∃ T, Steady (Token.readCounts false) S t T := by
  rw [readCounts_eq] at h
  obtain ⟨⟨least, rest'⟩, hleast, h⟩ := bind_eq_ok_iff.mp h
  obtain ⟨S', hS', rfl, ⟨name, S'', rfl⟩ | hsteady⟩ := decimal_fill hβ hleast
  · obtain ⟨k, hk⟩ := hβ.fill_hole_percent name S''
    rw [hk] at h
    cases h
  · obtain ⟨T, hT, hread⟩ := steady_afterLeast hβ h
    refine ⟨T, hT.trans hS', fun ρ hρ => ?_⟩
    rw [readCounts_eq, hsteady ρ]
    exact hread ρ hρ

/-- Hexadecimal digits that are accepted with percent signs in the holes have no hole among them. -/
theorem steady_hexDigits (hβ : β.Only '%') {S : List Symbol} {count number n : Nat}
    {rest : List Char} (h : hexDigits false count number (fill β S) = .ok (n, rest)) :
    ∃ T, Steady (hexDigits false count number) S n T := by
  induction count generalizing number S with
  | zero =>
    cases h
    exact ⟨S, List.suffix_refl _, fun _ _ => rfl⟩
  | succ count ih =>
    rcases S with _ | ⟨c | name, S⟩
    · cases h
    · simp only [fill_char, hexDigits] at h
      split at h
      next d hd =>
        obtain ⟨T, hT, hread⟩ := ih h
        refine ⟨T, hT.trans (List.suffix_cons _ _), fun ρ hρ => ?_⟩
        simp only [fill_char, hexDigits, hd]
        exact hread ρ hρ
      next => cases h
    · obtain ⟨k, hk⟩ := hβ.fill_hole_percent name S
      rw [hk] at h
      cases h

/-- A name in braces is the same however holes are filled, unless there is a percent sign in it. -/
theorem takeBraced_fill (hβ : β.Only '%') {S : List Symbol} {name rest : List Char}
    (h : takeBraced false (fill β S) = .ok (name, rest)) :
    (∃ T, Steady (takeBraced false) S name T) ∨ '%' ∈ name := by
  unfold takeBraced at h
  rw [takeCounted_false] at h
  rcases span_until_fill hβ (d := '}') (by decide) S with ⟨pre, T, hpre, rfl⟩ | hspan | hspan
  · rw [span_until_char hpre] at h
    cases h
    refine Or.inl ⟨T, (List.suffix_cons _ _).trans (List.suffix_append _ _), fun ρ _ => ?_⟩
    unfold takeBraced
    rw [takeCounted_false, span_until_char hpre]
  · split at h
    · cases h
    next heq =>
      cases h
      rw [heq] at hspan
      exact Or.inr hspan
  · split at h
    · cases h
    next heq =>
      rw [heq] at hspan
      cases hspan

/-- A hexadecimal escape that is accepted with percent signs in the holes has no hole in it. -/
theorem steady_hexEscape (hβ : β.Only '%') {S : List Symbol} {count : Nat} {e : Escape}
    {rest : List Char} (h : hexEscape false count (fill β S) = .ok (e, rest)) :
    ∃ T, Steady (hexEscape false count) S e T := by
  -- without a brace: a row of digits
  have hdigits : (∀ ρ : Filling, ρ.Full → hexEscape false count (fill ρ S) = do
      let (number, rest) ← hexDigits false count 0 (fill ρ S)
      let c ← charOfCode number
      return (.literal ⟨c, count == 2⟩, rest)) → ∃ T, Steady (hexEscape false count) S e T := by
    intro heq
    rw [heq β hβ.full] at h
    obtain ⟨⟨number, rest'⟩, hnumber, h⟩ := bind_eq_ok_iff.mp h
    obtain ⟨c, hc, h⟩ := bind_eq_ok_iff.mp h
    cases h
    obtain ⟨T, hT, hread⟩ := steady_hexDigits hβ hnumber
    refine ⟨T, hT, fun ρ hρ => ?_⟩
    rw [heq ρ hρ, hread ρ hρ]
    show (charOfCode number >>= _) = _
    rw [hc]
    rfl
  rcases begins_or_forall_ne (d := '{') rfl (by decide) S with ⟨S, rfl⟩ | hne
  · -- with braces: any number of digits, none of which is a percent sign
    change (takeBraced false (fill β S) >>= _) = _ at h
    obtain ⟨⟨digits, rest'⟩, hbraced, h⟩ := bind_eq_ok_iff.mp h
    obtain ⟨n, hn, h⟩ := bind_eq_ok_iff.mp h
    obtain ⟨c, hc, h⟩ := bind_eq_ok_iff.mp h
    cases h
    rcases takeBraced_fill hβ hbraced with ⟨T, hT, hread⟩ | hpercent
    · refine ⟨T, hT.trans (List.suffix_cons _ _), fun ρ hρ => ?_⟩
      show (takeBraced false (fill ρ S) >>= _) = _
      rw [hread ρ hρ]
      show (hexNumber digits >>= _) = _
      rw [hn]
      show (charOfCode n >>= _) = _
      rw [hc]
      rfl
    · rw [hexNumber_percent hpercent] at hn
      cases hn
  · rcases S with _ | ⟨a, S⟩
    · cases h
    refine hdigits fun ρ hρ => ?_
    unfold hexEscape
    simp only [skip, Bool.false_eq_true, if_false]
    split
    next heq => exact absurd heq (hρ.fill_ne_nil a S)
    next heq => exact absurd heq (hne ρ hρ _)
    next => rfl

/-! ## §4 Escapes -/

/-- A property class that is accepted with percent signs in the holes has no hole in it, or there is
no such property. -/
theorem propertyEscape_fill (hβ : β.Only '%') {S : List Symbol} {negated : Bool} {e : Escape}
    {rest : List Char} (h : propertyEscape false negated (fill β S) = .ok (e, rest)) :
    (∃ T, Steady (propertyEscape false negated) S e T) ∨
      ∃ q : PropertyQuery, e = .property q negated ∧ q.table? = none := by
  rcases S with _ | ⟨c | name, S⟩
  · cases h
  · by_cases hbrace : c = '{'
    · subst hbrace
      change (takeBraced false (fill β S) >>= _) = _ at h
      obtain ⟨⟨name, rest'⟩, hbraced, h⟩ := bind_eq_ok_iff.mp h
      cases h
      rcases takeBraced_fill hβ hbraced with ⟨T, hT, hread⟩ | hpercent
      · refine Or.inl ⟨T, hT.trans (List.suffix_cons _ _), fun ρ hρ => ?_⟩
        show (takeBraced false (fill ρ S) >>= _) = _
        rw [hread ρ hρ]
        rfl
      · exact Or.inr ⟨_, rfl, PropertyQuery.table?_ofChars_percent hpercent⟩
    · by_cases hback : c = '\\'
      · subst hback
        cases h
      · have hletter : ∀ ρ : Filling, propertyEscape false negated (fill ρ (.char c :: S)) =
            .ok (.property (.named (.ofList [c])) negated, fill ρ S) := by
          intro ρ
          unfold propertyEscape
          simp only [skip, fill_char, Bool.false_eq_true, if_false]
        rw [hletter β] at h
        cases h
        exact Or.inl ⟨S, List.suffix_cons _ _, fun ρ _ => hletter ρ⟩
  · obtain ⟨k, hk⟩ := hβ.fill_hole_percent name S
    rw [hk] at h
    cases h
    have hnone : (PropertyQuery.ofChars ['%']).table? = none :=
      PropertyQuery.table?_ofChars_percent (by simp)
    exact Or.inr ⟨_, rfl, hnone⟩

/-- The mark for a word boundary is read the same, or its braces have a hole right after the opening
one, and are left to be read as a repetition. -/
theorem wordBoundaryEscape_fill (hβ : β.Only '%') {S : List Symbol} {e : Escape}
    {rest : List Char} (h : wordBoundaryEscape false (fill β S) = .ok (e, rest)) :
    (∃ T, Steady (wordBoundaryEscape false) S e T) ∨
      ∃ a cs, e = .assertion a ∧ rest = '{' :: '%' :: cs := by
  rcases begins_or_forall_ne (d := '{') rfl (by decide) S with ⟨S, rfl⟩ | hne
  · rcases S with _ | ⟨c | name, S⟩
    · cases h
    · left
      unfold wordBoundaryEscape at h
      simp only [skip, fill_char, Bool.false_eq_true, if_false] at h
      split at h
      next hname =>
        obtain ⟨pre, T, hS, hspan, hrest⟩ :=
          span_fill hβ (p := fun c => c.isAlpha || c == '-') (by decide) (.char c :: S)
        rw [fill_char] at hspan
        rw [takeCounted_false, hspan] at h
        split at h
        next heq =>
          obtain ⟨rfl, hT⟩ := Prod.mk.inj heq
          rcases begins_or_forall_ne (d := '}') rfl (by decide) T with ⟨T, rfl⟩ | hne
          · have hsame : ∀ ρ : Filling, (fill ρ (.char c :: S)).span
                (fun c => c.isAlpha || c == '-') = (pre, '}' :: fill ρ T) := by
              rcases hrest with ⟨name, T', hT'⟩ | hrest
              · cases hT'
              · exact hrest
            have hsuffix : T <:+ .char '{' :: .char c :: S := by
              rw [hS]
              exact (List.suffix_cons _ _).trans
                ((List.suffix_append _ _).trans (List.suffix_cons _ _))
            split at h
            next a ha =>
              cases h
              refine ⟨T, hsuffix, fun ρ _ => ?_⟩
              have hρ := hsame ρ
              rw [fill_char] at hρ
              unfold wordBoundaryEscape
              simp only [skip, fill_char, Bool.false_eq_true, if_false]
              rw [if_pos hname, takeCounted_false, hρ]
              simp only [ha]
            next => cases h
          · exact absurd hT (hne β hβ.full _)
        · cases h
      next hname =>
        cases h
        refine ⟨.char '{' :: .char c :: S, List.suffix_refl _, fun ρ hρ => ?_⟩
        unfold wordBoundaryEscape
        simp only [skip, fill_char, Bool.false_eq_true, if_false]
        rw [if_neg hname]
    · obtain ⟨k, hk⟩ := hβ.fill_hole_percent name S
      rw [fill_char, hk] at h
      cases h
      exact Or.inr ⟨_, _, rfl, rfl⟩
  · have hplain : ∀ ρ : Filling, ρ.Full → wordBoundaryEscape false (fill ρ S) =
        .ok (.assertion .wordBoundary, fill ρ S) := by
      intro ρ hρ
      unfold wordBoundaryEscape
      split
      next heq => exact absurd heq (hne ρ hρ _)
      next => rfl
    rw [hplain β hβ.full] at h
    cases h
    exact Or.inl ⟨S, List.suffix_refl _, hplain⟩

/-- An escape cannot begin with the last of all characters. -/
theorem escaped_lastChar (cs : List Char) :
    escaped false (lastChar :: cs) = .error (.unknownEscape lastChar) := rfl

/-- The character after the backslash selects what reads the rest of an escape. -/
theorem escaped_cases (c : Char) :
    (∃ count, ∀ cs, escaped false (c :: cs) = hexEscape false count cs) ∨
      (∃ negated, ∀ cs, escaped false (c :: cs) = propertyEscape false negated cs) ∨
      (∀ cs, escaped false (c :: cs) = wordBoundaryEscape false cs) ∨
      ∃ r : Except PatternError Escape, ∀ cs, escaped false (c :: cs) = r.map (·, cs) := by
  simp only [escaped]
  by_cases hdigit : c.isDigit = true
  · exact Or.inr (Or.inr (Or.inr ⟨.error .backReference, fun cs => if_pos hdigit⟩))
  by_cases hx : (c == 'x') = true
  · exact Or.inl ⟨2, fun cs => by rw [if_neg hdigit, if_pos hx]⟩
  by_cases hu : (c == 'u') = true
  · exact Or.inl ⟨4, fun cs => by rw [if_neg hdigit, if_neg hx, if_pos hu]⟩
  by_cases hU : (c == 'U') = true
  · exact Or.inl ⟨8, fun cs => by rw [if_neg hdigit, if_neg hx, if_neg hu, if_pos hU]⟩
  simp only [if_neg hdigit, if_neg hx, if_neg hu, if_neg hU]
  by_cases hp : (c == 'p') = true
  · exact Or.inr (Or.inl ⟨false, fun cs => if_pos hp⟩)
  by_cases hP : (c == 'P') = true
  · exact Or.inr (Or.inl ⟨true, fun cs => by rw [if_neg hp, if_pos hP]⟩)
  by_cases hb : (c == 'b') = true
  · exact Or.inr (Or.inr (Or.inl fun cs => by rw [if_neg hp, if_neg hP, if_pos hb]))
  -- every other escape is of one character
  simp only [if_neg hp, if_neg hP, if_neg hb]
  refine Or.inr (Or.inr (Or.inr ?_))
  rcases shortClass? c with _ | ⟨k, negated⟩
  · rcases assertionEscape? c with _ | a
    · rcases controlEscape? c with _ | d
      · dsimp only
        split
        · exact ⟨.ok (.literal ⟨c, false⟩), fun _ => rfl⟩
        · exact ⟨.error (.unknownEscape c), fun _ => rfl⟩
      · exact ⟨.ok (.literal ⟨d, false⟩), fun _ => rfl⟩
    · exact ⟨.ok (.assertion a), fun _ => rfl⟩
  · exact ⟨.ok (.short k negated), fun _ => rfl⟩

/-- What an escape that is accepted with percent signs in the holes has come to: it is read the
same, or it is a property that does not exist, or it is a mark for a word boundary before a brace
and a hole. That no hole follows the backslash shows with the last of all characters in the holes.
-/
theorem escaped_fill (hα : α.Only lastChar) (hβ : β.Only '%') {S : List Symbol} {e : Escape}
    {rest : List Char} (hαok : ∃ p, escaped false (fill α S) = .ok p)
    (h : escaped false (fill β S) = .ok (e, rest)) :
    (∃ T, Steady (escaped false) S e T) ∨
      (∃ q negated, e = .property q negated ∧ PropertyQuery.table? q = none) ∨
      ∃ a cs, e = .assertion a ∧ rest = '{' :: '%' :: cs := by
  rcases S with _ | ⟨c | name, S⟩
  · cases h
  · -- what is read steadily after the first character is read steadily with it
    have hlift : ∀ {f : List Char → Except PatternError (Escape × List Char)} {e : Escape},
        (∀ cs, escaped false (c :: cs) = f cs) → (∃ T, Steady f S e T) →
        ∃ T, Steady (escaped false) (.char c :: S) e T := by
      rintro f e hf ⟨T, hT, hread⟩
      exact ⟨T, hT.trans (List.suffix_cons _ _), fun ρ hρ => (hf _).trans (hread ρ hρ)⟩
    rw [fill_char] at h
    rcases escaped_cases c with ⟨count, hf⟩ | ⟨negated, hf⟩ | hf | ⟨r, hf⟩
    · rw [hf] at h
      exact Or.inl (hlift hf (steady_hexEscape hβ h))
    · rw [hf] at h
      rcases propertyEscape_fill hβ h with hsteady | ⟨q, hq, hnone⟩
      · exact Or.inl (hlift hf hsteady)
      · exact Or.inr (Or.inl ⟨q, negated, hq, hnone⟩)
    · rw [hf] at h
      rcases wordBoundaryEscape_fill hβ h with hsteady | hbrace
      · exact Or.inl (hlift hf hsteady)
      · exact Or.inr (Or.inr hbrace)
    · rw [hf] at h
      cases r with
      | error _ => cases h
      | ok e' =>
        cases h
        exact Or.inl (hlift hf ⟨S, List.suffix_refl _, fun _ _ => rfl⟩)
  · obtain ⟨k, hk⟩ := hα.fill_hole (by decide) name S
    obtain ⟨p, hp⟩ := hαok
    rw [hk, escaped_lastChar] at hp
    cases hp

/-! ## §5 Groups -/

/-- A group with a name, after its opening angle bracket. -/
private def namedGroup (cs : List Char) : Except PatternError (Token × List Char) := do
  let (name, rest) ← Token.readGroupName cs
  return (.openGroup (.capture (some name)), rest)

/-- The switches of a group. -/
private def flaggedGroup (cs : List Char) : Except PatternError (Token × List Char) := do
  let (changes, last, rest) ← Token.readFlags [] none cs
  if last == ':' then return (.openGroup (.plain changes), rest)
  else if changes.isEmpty then .error .repetitionWithoutPattern
  else return (.directive changes, rest)

private theorem readGroup_named {c : Char} (heq : c ≠ '=') (hbang : c ≠ '!') (cs : List Char) :
    Token.readGroup false ('?' :: '<' :: c :: cs) = namedGroup (c :: cs) := by
  unfold Token.readGroup
  simp only [skip, Bool.false_eq_true, if_false]
  split
  next h => cases h
  next h => cases h
  next h =>
    cases h
    exact absurd rfl heq
  next h =>
    cases h
    exact absurd rfl hbang
  next h => cases h
  next h =>
    cases h
    rfl
  next hne h =>
    cases h
    exact (hne _ rfl).elim
  next hne => exact (hne _ rfl).elim

private theorem readGroup_flagged {c : Char} {cs : List Char}
    (hc : c ≠ '=' ∧ c ≠ '!' ∧ c ≠ '<') (hP : ∀ cs', c = 'P' → cs ≠ '<' :: cs') :
    Token.readGroup false ('?' :: c :: cs) = flaggedGroup (c :: cs) := by
  unfold Token.readGroup
  simp only [skip, Bool.false_eq_true, if_false]
  split
  next h => exact absurd (List.cons.inj (List.cons.inj h).2).1 hc.1
  next h => exact absurd (List.cons.inj (List.cons.inj h).2).1 hc.2.1
  next h => exact absurd (List.cons.inj (List.cons.inj h).2).1 hc.2.2
  next h => exact absurd (List.cons.inj (List.cons.inj h).2).1 hc.2.2
  next h =>
    obtain ⟨hP', h⟩ := List.cons.inj (List.cons.inj h).2
    exact absurd h (hP _ hP')
  next h => exact absurd (List.cons.inj (List.cons.inj h).2).1 hc.2.2
  next h =>
    cases h
    rfl
  next hne => exact (hne _ rfl).elim

private theorem steady_namedGroup (hβ : β.Only '%') {S : List Symbol} {t : Token}
    {rest : List Char} (h : namedGroup (fill β S) = .ok (t, rest)) :
    (∃ c S', S = .char c :: S') ∧ ∃ T, Steady namedGroup S t T := by
  obtain ⟨⟨name, rest'⟩, hname, h⟩ := bind_eq_ok_iff.mp h
  cases h
  obtain ⟨hhead, T, hT, hread⟩ := steady_readGroupName hβ hname
  refine ⟨hhead, T, hT, fun ρ hρ => ?_⟩
  rw [namedGroup, hread ρ hρ]
  rfl

private theorem steady_flaggedGroup (hβ : β.Only '%') {S : List Symbol} {t : Token}
    {rest : List Char} (h : flaggedGroup (fill β S) = .ok (t, rest)) :
    ∃ T, Steady flaggedGroup S t T := by
  obtain ⟨⟨changes, last, rest'⟩, hflags, h⟩ := bind_eq_ok_iff.mp h
  obtain ⟨T, hT, hread⟩ := readFlags_fill hβ hflags
  refine ⟨T, hT, fun ρ _ => ?_⟩
  rw [flaggedGroup, hread ρ]
  show (if last == ':' then _ else _) = _
  dsimp only at h
  split at h
  next hlast =>
    cases h
    rw [if_pos hlast]
    rfl
  next hlast =>
    split at h
    · cases h
    next hchanges =>
      cases h
      rw [if_neg hlast, if_neg hchanges]
      rfl

/-- A group with an angle bracket after the question mark has a name. -/
private theorem steady_angledGroup (hβ : β.Only '%') {S : List Symbol} {t : Token}
    {rest : List Char}
    (h : Token.readGroup false (fill β (.char '?' :: .char '<' :: S)) = .ok (t, rest)) :
    ∃ T, Steady (Token.readGroup false) (.char '?' :: .char '<' :: S) t T := by
  rcases S with _ | ⟨c | name, S⟩
  · cases h
  · by_cases hlook : c = '=' ∨ c = '!'
    · rcases hlook with rfl | rfl <;> cases h
    · rw [not_or] at hlook
      have hnamed : ∀ ρ : Filling,
          Token.readGroup false (fill ρ (.char '?' :: .char '<' :: .char c :: S)) =
            namedGroup (fill ρ (.char c :: S)) := fun ρ =>
        readGroup_named hlook.1 hlook.2 (fill ρ S)
      rw [hnamed] at h
      obtain ⟨-, T, hT, hread⟩ := steady_namedGroup hβ h
      refine ⟨T, hT.trans ((List.suffix_cons _ _).trans (List.suffix_cons _ _)), fun ρ hρ => ?_⟩
      rw [hnamed]
      exact hread ρ hρ
  · obtain ⟨k, hk⟩ := hβ.fill_hole_percent name S
    rw [fill_char, fill_char, hk, readGroup_named (by decide) (by decide), ← hk] at h
    obtain ⟨⟨c, S', hhead⟩, -⟩ := steady_namedGroup hβ h
    cases hhead

/-- A group with a capital letter P after the question mark has a name. -/
private theorem steady_letteredGroup (hβ : β.Only '%') {S : List Symbol} {t : Token}
    {rest : List Char}
    (h : Token.readGroup false (fill β (.char '?' :: .char 'P' :: S)) = .ok (t, rest)) :
    ∃ T, Steady (Token.readGroup false) (.char '?' :: .char 'P' :: S) t T := by
  by_cases hangle : ∃ S', S = .char '<' :: S'
  · obtain ⟨S, rfl⟩ := hangle
    have hnamed : namedGroup (fill β S) = .ok (t, rest) := h
    obtain ⟨-, T, hT, hread⟩ := steady_namedGroup hβ hnamed
    exact ⟨T, hT.trans ((List.suffix_cons _ _).trans
      ((List.suffix_cons _ _).trans (List.suffix_cons _ _))), hread⟩
  · -- no switch is a capital letter P
    rw [fill_char, fill_char, readGroup_flagged (by decide)] at h
    · cases h
    · intro cs _ hcs
      rcases S with _ | ⟨c | name, S⟩
      · cases hcs
      · obtain ⟨rfl, -⟩ := List.cons.inj hcs
        exact hangle ⟨S, rfl⟩
      · obtain ⟨k, hk⟩ := hβ.fill_hole_percent name S
        rw [hk] at hcs
        cases hcs

/-- The beginning of a group that is accepted with percent signs in the holes has no hole in it. -/
theorem steady_readGroup (hβ : β.Only '%') {S : List Symbol} {t : Token} {rest : List Char}
    (h : Token.readGroup false (fill β S) = .ok (t, rest)) :
    ∃ T, Steady (Token.readGroup false) S t T := by
  rcases begins_or_forall_ne (d := '?') rfl (by decide) S with ⟨S, rfl⟩ | hne
  · rcases S with _ | ⟨c | name, S⟩
    · cases h
    · by_cases hlook : c = '=' ∨ c = '!'
      · rcases hlook with rfl | rfl <;> cases h
      · rw [not_or] at hlook
        by_cases hangle : c = '<'
        · subst hangle
          exact steady_angledGroup hβ h
        · have hc : c ≠ '=' ∧ c ≠ '!' ∧ c ≠ '<' := ⟨hlook.1, hlook.2, hangle⟩
          by_cases hP : c = 'P'
          · subst hP
            exact steady_letteredGroup hβ h
          · have hflags : ∀ ρ : Filling,
                Token.readGroup false (fill ρ (.char '?' :: .char c :: S)) =
                  flaggedGroup (fill ρ (.char c :: S)) := fun ρ =>
              readGroup_flagged hc fun _ h => absurd h hP
            rw [hflags] at h
            obtain ⟨T, hT, hread⟩ := steady_flaggedGroup hβ h
            refine ⟨T, hT.trans (List.suffix_cons _ _), fun ρ hρ => ?_⟩
            rw [hflags]
            exact hread ρ hρ
    · obtain ⟨k, hk⟩ := hβ.fill_hole_percent name S
      rw [fill_char, hk] at h
      cases h
  · have hplain : ∀ ρ : Filling, ρ.Full → Token.readGroup false (fill ρ S) =
        .ok (.openGroup (.capture none), fill ρ S) := by
      intro ρ hρ
      unfold Token.readGroup
      simp only [skip, Bool.false_eq_true, if_false]
      split
      next heq => exact absurd heq (hne ρ hρ _)
      next heq => exact absurd heq (hne ρ hρ _)
      next heq => exact absurd heq (hne ρ hρ _)
      next heq => exact absurd heq (hne ρ hρ _)
      next heq => exact absurd heq (hne ρ hρ _)
      next heq => exact absurd heq (hne ρ hρ _)
      next heq => exact absurd heq (hne ρ hρ _)
      next => rfl
    rw [hplain β hβ.full] at h
    cases h
    exact ⟨S, List.suffix_refl _, hplain⟩

/-! ## §6 Tokens -/

/-- What a token has come to that is no bracket and is accepted with percent signs in the holes: it
is read the same, or it is a property that does not exist, or it is a mark for a word boundary
before a brace and a hole. -/
theorem tokenRead_fill (hα : α.Only lastChar) (hβ : β.Only '%') {c : Char} (hc : c ≠ '[')
    {S : List Symbol} {t : Token} {rest : List Char}
    (hαok : ∃ p, Token.read false (c :: fill α S) = .ok p)
    (h : Token.read false (c :: fill β S) = .ok (some t, rest)) :
    (∃ T, Steady (fun cs => Token.read false (c :: cs)) S (some t) T) ∨
      (∃ q negated, t = .property q negated ∧ PropertyQuery.table? q = none) ∨
      ∃ a cs, t = .assertion a ∧ rest = '{' :: '%' :: cs := by
  have hlift : ∀ {f : List Char → Except PatternError (Token × List Char)},
      (∀ cs, Token.read false (c :: cs) = f cs >>= fun p => .ok (some p.1, p.2)) →
      (∀ t' rest', f (fill β S) = .ok (t', rest') → ∃ T, Steady f S t' T) →
      ∃ T, Steady (fun cs => Token.read false (c :: cs)) S (some t) T := by
    intro f hf hsteady
    rw [hf] at h
    obtain ⟨p, hp, h⟩ := bind_eq_ok_iff.mp h
    cases h
    obtain ⟨T, hT, hread⟩ := hsteady p.1 p.2 hp
    refine ⟨T, hT, fun ρ hρ => ?_⟩
    dsimp only
    rw [hf, hread ρ hρ]
    rfl
  by_cases hopen : c = '('
  · subst hopen
    exact Or.inl (hlift (fun _ => rfl) fun _ _ => steady_readGroup hβ)
  by_cases hbrace : c = '{'
  · subst hbrace
    exact Or.inl (hlift (fun _ => rfl) fun _ _ => steady_readCounts hβ)
  by_cases hback : c = '\\'
  · subst hback
    obtain ⟨⟨e, rest'⟩, he, h⟩ := bind_eq_ok_iff.mp h
    cases h
    obtain ⟨p, hp⟩ := hαok
    obtain ⟨p', hp', -⟩ := bind_eq_ok_iff.mp hp
    rcases escaped_fill hα hβ ⟨p', hp'⟩ he with ⟨T, hT, hread⟩ | ⟨q, negated, rfl, hq⟩ |
      ⟨a, cs, rfl, hrest⟩
    · refine Or.inl ⟨T, hT, fun ρ hρ => ?_⟩
      show (escaped false (fill ρ S) >>= _) = _
      rw [hread ρ hρ]
      rfl
    · exact Or.inr (Or.inl ⟨q, negated, rfl, hq⟩)
    · exact Or.inr (Or.inr ⟨a, cs, rfl, hrest⟩)
  -- all other tokens are single characters, some of them with a mark for laziness
  have hmark : ∀ least most,
      (∀ cs, Token.read false (c :: cs) =
        .ok (some (.repetition least most (Token.takeLazy cs).1), (Token.takeLazy cs).2)) →
      ∃ T, Steady (fun cs => Token.read false (c :: cs)) S (some t) T := by
    intro least most hf
    obtain ⟨isLazy, T, hT, hlazy⟩ := takeLazy_fill S
    rw [hf, hlazy β hβ.full] at h
    cases h
    refine ⟨T, hT, fun ρ hρ => ?_⟩
    dsimp only
    rw [hf, hlazy ρ hρ]
  have hone : ∀ t', (∀ cs, Token.read false (c :: cs) = .ok (some t', cs)) →
      ∃ T, Steady (fun cs => Token.read false (c :: cs)) S (some t) T := by
    intro t' hf
    rw [hf] at h
    cases h
    exact ⟨S, List.suffix_refl _, fun _ _ => hf _⟩
  left
  by_cases hquestion : c = '?'
  · subst hquestion
    exact hmark 0 (some 1) fun _ => rfl
  by_cases hstar : c = '*'
  · subst hstar
    exact hmark 0 none fun _ => rfl
  by_cases hplus : c = '+'
  · subst hplus
    exact hmark 1 none fun _ => rfl
  by_cases hclose : c = ')'
  · subst hclose
    exact hone _ fun _ => rfl
  by_cases hbar : c = '|'
  · subst hbar
    exact hone _ fun _ => rfl
  by_cases hdot : c = '.'
  · subst hdot
    exact hone _ fun _ => rfl
  by_cases hstart : c = '^'
  · subst hstart
    exact hone _ fun _ => rfl
  by_cases hend : c = '$'
  · subst hend
    exact hone _ fun _ => rfl
  · refine hone (.literal ⟨c, false⟩) fun cs => ?_
    unfold Token.read
    split <;> simp_all

end AggregateNaming.Pattern
