import AggregateNaming.Proofs.Pattern.Probe

/-!
# Brackets with holes

A bracket with holes that comes to its end with every probe in them does so with everything else.
What is read is not the same for all fillings, but what is left after it is.

## Main definitions

- `Kin` : what has been read so far of an open bracket, for a filling and for its probes.
- `Concludes` : from a place on, the bracket comes to its end if it does with all probes.

## Main statements

- `concludes_range` : from the first character, class or escape of a range.
- `sound_fill` : from any place of a bracket.
- `bracketRead_fill` : a whole bracket.
-/

namespace AggregateNaming.Pattern

variable {σ : Filling} {f : Flags}

/-! ## §1 Items -/

/-- What an item that is accepted with probes in the holes has come to: it is read the same, or it
does not stand for a set. -/
theorem bracketItem_fill {α β : Filling} (hα : α.Only lastChar) (hβ : β.Only '%') {c : Char}
    {S : List Symbol} {it : Bracket} {rest : List Char}
    (hαok : ∃ p, bracketItem false (c :: fill α S) = .ok p)
    (h : bracketItem false (c :: fill β S) = .ok (it, rest)) :
    (∃ T, Steady (fun cs => bracketItem false (c :: cs)) S it T) ∨ ∀ f, ¬it.Fits f := by
  by_cases hback : c = '\\'
  · subst hback
    -- what an escape is taken for in a bracket depends on the escape only, not on what follows it
    obtain ⟨e, hbeta, heq⟩ : ∃ e, escaped false (fill β S) = .ok (e, rest) ∧
        ∀ cs cs', escaped false cs = .ok (e, cs') →
          bracketItem false ('\\' :: cs) = .ok (it, cs') := by
      rw [bracketItem] at h
      split at h
      next he =>
        cases h
        exact ⟨_, he, fun cs cs' hcs => by rw [bracketItem, hcs]⟩
      next he =>
        cases h
        exact ⟨_, he, fun cs cs' hcs => by rw [bracketItem, hcs]⟩
      next he =>
        cases h
        exact ⟨_, he, fun cs cs' hcs => by rw [bracketItem, hcs]⟩
      · cases h
      · cases h
    have hαesc : ∃ p, escaped false (fill α S) = .ok p := by
      obtain ⟨p, hp⟩ := hαok
      rw [bracketItem] at hp
      cases hesc : escaped false (fill α S) with
      | ok p => exact ⟨p, rfl⟩
      | error e =>
        rw [hesc] at hp
        cases hp
    rcases escaped_fill hα hβ hαesc hbeta with ⟨T, hT, hread⟩ | ⟨q, negated, rfl, hq⟩ |
      ⟨a, cs, rfl, -⟩
    · exact Or.inl ⟨T, hT, fun ρ hρ => heq _ _ (hread ρ hρ)⟩
    · rw [bracketItem, hbeta] at h
      cases h
      exact Or.inr fun f => Bracket.not_fits_property hq
    · rw [bracketItem, hbeta] at h
      cases h
  · have hplain : ∀ cs, bracketItem false (c :: cs) = .ok (.literal ⟨c, false⟩, cs) := by
      intro cs
      rw [bracketItem]
      exact hback
    rw [hplain] at h
    cases h
    exact Or.inl ⟨S, List.suffix_refl _, fun ρ _ => hplain _⟩

/-! ## §2 From probes to all fillings -/

/-- What has been read so far of an open bracket, for a filling and for its probes: for the filling
it stands for a set, and all of them are negated or none. -/
structure Kin (σ : Filling) (f : Flags) (b : Filling → OpenBracket) : Prop where
  fits : (b σ).Fits f
  negated : ∀ ρ, σ.Run ρ → (b ρ).negated = (b σ).negated

/-- The open brackets around a place, for one filling. -/
def along (outer : List (Filling → OpenBracket)) (ρ : Filling) : List OpenBracket :=
  outer.map (· ρ)

/-- From a place on, the bracket comes to its end with the same left over for a filling and all its
probes, if it comes to an end with all probes. -/
def Concludes (σ : Filling) (f : Flags) (b : Filling → OpenBracket)
    (outer : List (Filling → OpenBracket)) (text : Filling → List Char) (S : List Symbol) : Prop :=
  (∀ τ, σ.Probes τ → Closes f (b τ) (along outer τ) (text τ)) →
    ∃ T, T <:+ S ∧ ∀ ρ, σ.Run ρ → ClosesTo f (b ρ) (along outer ρ) (text ρ) (fill ρ T)

/-- It is enough to go on after some turns. -/
theorem concludes_of_turns {b : Filling → OpenBracket} {outer : List (Filling → OpenBracket)}
    {text : Filling → List Char} {S S' : List Symbol} (b' : Filling → OpenBracket)
    (outer' : List (Filling → OpenBracket)) (text' : Filling → List Char) (hS : S' <:+ S)
    (hturns : ∀ ρ, σ.Run ρ →
      Turns (b ρ) (along outer ρ) (text ρ) (b' ρ) (along outer' ρ) (text' ρ))
    (hnext : (∀ τ, σ.Probes τ → Closes f (b' τ) (along outer' τ) (text' τ)) →
      Concludes σ f b' outer' text' S') :
    Concludes σ f b outer text S := by
  intro hcloses
  have hcloses' := fun τ hτ => (hturns τ (Or.inr hτ)).closes (hcloses τ hτ)
  obtain ⟨T, hT, hends⟩ := hnext hcloses' hcloses'
  exact ⟨T, hT.trans hS, fun ρ hρ => (hturns ρ hρ).closesTo (hends ρ hρ)⟩

/-- It is enough to go on after an item that stands for a set if all probes of it do. -/
theorem concludes_of_item {b : Filling → OpenBracket} {outer : List (Filling → OpenBracket)}
    {text : Filling → List Char} {S S' : List Symbol} (hS : S' <:+ S) (hb : Kin σ f b)
    (it : Filling → Bracket) (text' : Filling → List Char)
    (hturns : ∀ ρ, σ.Run ρ →
      Turns (b ρ) (along outer ρ) (text ρ) ((b ρ).add (it ρ)) (along outer ρ) (text' ρ))
    (hit : (∀ τ, σ.Probes τ → (it τ).Fits f) → (it σ).Fits f)
    (hnext : ∀ b', Kin σ f b' → Concludes σ f b' outer text' S') :
    Concludes σ f b outer text S := by
  refine concludes_of_turns _ outer text' hS hturns fun hcloses =>
    hnext (fun ρ => (b ρ).add (it ρ)) ⟨?_, hb.2⟩
  exact OpenBracket.fits_add_iff.mpr
    ⟨hb.fits, hit fun τ hτ => (OpenBracket.fits_add_iff.mp (hcloses τ hτ).fits.1).2⟩

/-- The same for all fillings: what probes say of it holds. -/
theorem of_probes (σ : Filling) {p : Prop} (h : ∀ τ, σ.Probes τ → p) : p :=
  h _ σ.probes_percent

/-! ## §3 Ranges -/

instance : Nonempty Bracket := ⟨.empty⟩

/-- Every place of a text after which the bracket comes to its end. -/
def Sound (σ : Filling) (f : Flags) (S : List Symbol) : Prop :=
  ∀ b outer, Kin σ f b → (∀ o ∈ outer, Kin σ f o) → Concludes σ f b outer (fill · S) S

/-- As `Sound`, where the end of what fills a hole is still to be read before the text. -/
def SoundIn (σ : Filling) (f : Flags) (S : List Symbol) : Prop :=
  ∀ name (w : Filling → List Char) b outer, (∀ ρ, σ.Run ρ → w ρ ≠ [] ∧ w ρ <:+ ρ name) → Kin σ f b →
    (∀ o ∈ outer, Kin σ f o) → Concludes σ f b outer (fun ρ => escapeChars (w ρ) ++ fill ρ S) S

/-- A character of a hole can stand in brackets under the switches in force only if all characters
can. -/
theorem unicode_of_lastChar {isByte : Bool} (h : (Bracket.literal ⟨lastChar, isByte⟩).Fits f) :
    f.unicode = true := by
  rcases Bracket.fits_literal_iff.mp h with h | h
  · exact h
  · exact absurd h (show ¬lastChar.toNat < 0x80 by decide)

/-- A hyphen and the last end of a range. -/
theorem rangeFrom_hyphen {first : Bracket} {cs : List Char} (hclose : ∀ cs', cs ≠ ']' :: cs')
    (hhyphen : ∀ cs', cs ≠ '-' :: cs') :
    rangeFrom first ('-' :: cs) =
      bracketItem false cs >>= fun p => first.upTo p.1 >>= fun r => .ok (r, p.2) := by
  rcases cs with _ | ⟨c, cs⟩
  · rfl
  · have hc : ¬(c = ']' ∨ c = '-') := by
      rintro (rfl | rfl)
      · exact hclose cs rfl
      · exact hhyphen cs rfl
    simp only [rangeFrom]
    rw [if_neg (by simpa using hc)]
    rfl

/-- The range between two items stands for a set if both of them do. -/
theorem Bracket.fits_upTo {first last r : Bracket} (h : first.upTo last = .ok r) :
    r.Fits f ↔ first.Fits f ∧ last.Fits f := by
  obtain ⟨a, b, rfl, rfl, -, rfl⟩ := Bracket.upTo_eq_ok_iff.mp h
  exact Bracket.fits_range_iff

/-- Whatever is left of a text is sound. -/
def SoundAfter (σ : Filling) (f : Flags) (S : List Symbol) : Prop :=
  ∀ T, T <:+ S → T.length < S.length → Sound σ f T ∧ SoundIn σ f T

/-- A place of a bracket where a range may begin, with its first end. -/
structure RangePlace (σ : Filling) (f : Flags) (b : Filling → OpenBracket)
    (outer : List (Filling → OpenBracket)) (text : Filling → List Char) (first : Filling → Bracket)
    (S : List Symbol) : Prop where
  kin : Kin σ f b
  outer : ∀ o ∈ outer, Kin σ f o
  start : RangeStart σ first
  fits : (∀ τ, σ.Probes τ → (first τ).Fits f) → (first σ).Fits f
  begins : ∀ ρ, σ.Run ρ → Begins (text ρ) (first ρ) (fill ρ S)

section RangePlace

variable {b : Filling → OpenBracket} {outer : List (Filling → OpenBracket)}
variable {text : Filling → List Char} {first : Filling → Bracket} {S : List Symbol}

/-- What is read with probes after the first end of a range. -/
theorem RangePlace.exists_item (h : RangePlace σ f b outer text first S)
    (hcloses : ∀ τ, σ.Probes τ → Closes f (b τ) (along outer τ) (text τ)) {τ : Filling}
    (hτ : σ.Probes τ) : ∃ it rest, rangeFrom (first τ) (fill τ S) = .ok (it, rest) ∧ it.Fits f :=
  (h.begins τ (Or.inr hτ)).closes (hcloses τ hτ)

/-- The first end stands alone. -/
theorem concludes_alone (h : RangePlace σ f b outer text first S) (hsound : Sound σ f S)
    (halone : ∀ ρ, σ.Run ρ → rangeFrom (first ρ) (fill ρ S) = .ok (first ρ, fill ρ S)) :
    Concludes σ f b outer text S :=
  concludes_of_item (List.suffix_refl S) h.kin first (fill · S)
    (fun ρ hρ => (h.begins ρ hρ).turns (halone ρ hρ) (Nat.le_refl _) _ _) h.fits
    fun b' hb' => hsound b' outer hb' h.outer

/-- A range with two ends. -/
theorem concludes_between (hσ : σ.Full) (h : RangePlace σ f b outer text first S)
    (last : Filling → Bracket) (hlast : RangeStop σ last)
    (hfits : (∀ τ, σ.Probes τ → (last τ).Fits f) → (last σ).Fits f) {S' : List Symbol}
    (hS : S' <:+ S) (text' : Filling → List Char)
    (hrange : ∀ ρ, σ.Run ρ → rangeFrom (first ρ) (fill ρ S) =
      (first ρ).upTo (last ρ) >>= fun r => .ok (r, text' ρ))
    (hlength : ∀ ρ, σ.Run ρ → (text' ρ).length ≤ (fill ρ S).length)
    (hnext : ∀ b', Kin σ f b' → Concludes σ f b' outer text' S') :
    Concludes σ f b outer text S := by
  intro hcloses
  have hprobes : ∀ τ, σ.Probes τ → ∃ r, (first τ).upTo (last τ) = .ok r := by
    intro τ hτ
    obtain ⟨it, rest, hit, -⟩ := h.exists_item hcloses hτ
    rw [hrange τ (Or.inr hτ)] at hit
    obtain ⟨r, hr, -⟩ := bind_eq_ok_iff.mp hit
    exact ⟨r, hr⟩
  -- with the ends in order for probes they are in order for what these are probes of
  have hall : ∀ ρ, σ.Run ρ → ∃ r, (first ρ).upTo (last ρ) = .ok r := by
    rintro ρ (rfl | hτ)
    · exact upTo_of_probes hσ h.start hlast hprobes
    · exact hprobes ρ hτ
  choose! it hit using hall
  refine concludes_of_item hS h.kin it text' (fun ρ hρ => ?_) (fun hitem => ?_) hnext hcloses
  · refine (h.begins ρ hρ).turns ?_ (hlength ρ hρ) _ _
    rw [hrange ρ hρ, hit ρ hρ]
    rfl
  · have hends := fun τ hτ => (Bracket.fits_upTo (hit τ (Or.inr hτ))).mp (hitem τ hτ)
    exact (Bracket.fits_upTo (hit σ (Or.inl rfl))).mpr
      ⟨h.fits fun τ hτ => (hends τ hτ).1, hfits fun τ hτ => (hends τ hτ).2⟩

/-- A range whose last end is one of the author. -/
theorem concludes_range_char (hσ : σ.Full) {d : Char}
    (h : RangePlace σ f b outer text first (.char '-' :: .char d :: S))
    (hafter : SoundAfter σ f (.char '-' :: .char d :: S))
    (hrange : ∀ ρ, σ.Run ρ → rangeFrom (first ρ) (fill ρ (.char '-' :: .char d :: S)) =
      bracketItem false (d :: fill ρ S) >>= fun p => (first ρ).upTo p.1 >>= fun r => .ok (r, p.2)) :
    Concludes σ f b outer text (.char '-' :: .char d :: S) := by
  intro hcloses
  have hlast : ∀ τ, σ.Probes τ → ∃ last rest r, bracketItem false (d :: fill τ S) =
      .ok (last, rest) ∧ (first τ).upTo last = .ok r ∧ r.Fits f := by
    intro τ hτ
    obtain ⟨it, rest, hit, hfits⟩ := h.exists_item hcloses hτ
    rw [hrange τ (Or.inr hτ)] at hit
    obtain ⟨⟨last, rest'⟩, hlast, hit⟩ := bind_eq_ok_iff.mp hit
    obtain ⟨r, hr, hit⟩ := bind_eq_ok_iff.mp hit
    cases hit
    exact ⟨last, rest', it, hlast, hr, hfits⟩
  obtain ⟨_, _, _, hα, -⟩ := hlast _ σ.probes_lastChar
  obtain ⟨last, rest, r, hβ, hr, hrfits⟩ := hlast _ σ.probes_percent
  rcases bracketItem_fill (Filling.only_copies hσ _) (Filling.only_copies hσ _) ⟨_, hα⟩ hβ with
    ⟨T, hT, hread⟩ | hnot
  · have hsuffix : T <:+ .char '-' :: .char d :: S :=
      hT.trans ((List.suffix_cons _ _).trans (List.suffix_cons _ _))
    have hlt : T.length < (Symbol.char '-' :: .char d :: S).length :=
      length_lt_of_suffix (hT.trans (List.suffix_cons _ _)) _
    refine concludes_between hσ h (fun _ => last) (Or.inl ⟨last, fun _ _ => rfl⟩) (of_probes σ)
      hsuffix (fill · T) (fun ρ hρ => ?_) (fun ρ _ => length_fill_le hsuffix ρ)
      (fun b' hb' => (hafter T hsuffix hlt).1 b' outer hb' h.outer) hcloses
    have hitem : bracketItem false (d :: fill ρ S) = .ok (last, fill ρ T) :=
      hread ρ (hρ.full hσ)
    rw [hrange ρ hρ, hitem]
    rfl
  · exact absurd ((Bracket.fits_upTo hr).mp hrfits).2 (hnot f)

/-- A range whose last end is the first character of a hole. -/
theorem concludes_range_hole (hσ : σ.Full) {name : String}
    (h : RangePlace σ f b outer text first (.char '-' :: .hole name :: S))
    (hafter : SoundAfter σ f (.char '-' :: .hole name :: S))
    (hrange : ∀ ρ, σ.Run ρ → rangeFrom (first ρ) (fill ρ (.char '-' :: .hole name :: S)) =
      bracketItem false (fill ρ (.hole name :: S)) >>= fun p =>
        (first ρ).upTo p.1 >>= fun r => .ok (r, p.2)) :
    Concludes σ f b outer text (.char '-' :: .hole name :: S) := by
  have hhole : ∀ ρ, σ.Run ρ → ∃ c w, ρ name = c :: w := fun ρ hρ =>
    List.exists_cons_of_ne_nil (hρ.full hσ name)
  choose! c w hcw using hhole
  have hsplit : ∀ ρ, σ.Run ρ → fill ρ (.hole name :: S) =
      escapeChar (c ρ) ++ (escapeChars (w ρ) ++ fill ρ S) := by
    intro ρ hρ
    rw [fill_hole, hcw ρ hρ]
    simp [escapeChars]
  have hsuffix : S <:+ .char '-' :: .hole name :: S :=
    (List.suffix_cons _ _).trans (List.suffix_cons _ _)
  obtain ⟨hsound, hsoundIn⟩ := hafter S hsuffix (length_lt_of_suffix (List.suffix_cons _ _) _)
  refine concludes_between hσ h (fun ρ => .literal ⟨c ρ, false⟩)
    (Or.inr ⟨name, fun ρ hρ => ⟨c ρ, w ρ, hcw ρ hρ, rfl⟩⟩) (fun hprobes => ?_) hsuffix
    (fun ρ => escapeChars (w ρ) ++ fill ρ S) (fun ρ hρ => ?_) (fun ρ hρ => ?_)
    (fun b' hb' => ?_)
  · have hτ := σ.probes_lastChar
    have hlast : c (σ.copies lastChar) = lastChar := by
      have hmem : c (σ.copies lastChar) ∈ σ.copies lastChar name := by simp [hcw _ (Or.inr hτ)]
      exact List.eq_of_mem_replicate hmem
    have hfits := hprobes _ hτ
    rw [hlast] at hfits
    exact Bracket.fits_literal_iff.mpr (Or.inl (unicode_of_lastChar hfits))
  · rw [hrange ρ hρ, hsplit ρ hρ, bracketItem_escapeChar]
    rfl
  · rw [fill_char, hsplit ρ hρ]
    simp only [List.length_append, List.length_cons]
    omega
  · -- what is left of the hole is read next, if the range has not used it up
    by_cases hone : (σ name).length = 1
    · have hnil : ∀ ρ, σ.Run ρ → w ρ = [] := by
        intro ρ hρ
        have hlen := hρ.length_eq_one hone
        rw [hcw ρ hρ] at hlen
        simpa using hlen
      refine concludes_of_turns b' outer (fill · S) (List.suffix_refl _) (fun ρ hρ => ?_)
        fun _ => hsound b' outer hb' h.outer
      rw [hnil ρ hρ]
      exact Turns.refl
    · refine hsoundIn name w b' outer (fun ρ hρ => ⟨?_, ?_⟩) hb' h.outer
      · have htwo : 2 ≤ (σ name).length := by
          have := List.length_pos_iff.mpr (hσ name)
          omega
        have hlen := hρ.two_le_length htwo
        rw [hcw ρ hρ] at hlen
        rintro hnil
        rw [hnil] at hlen
        simp at hlen
      · rw [hcw ρ hρ]
        exact List.suffix_cons _ _

/-- From the first character, class or escape of a range. -/
theorem concludes_range (hσ : σ.Full) (h : RangePlace σ f b outer text first S)
    (hsound : Sound σ f S) (hafter : SoundAfter σ f S) : Concludes σ f b outer text S := by
  rcases S with _ | ⟨a, S₀⟩
  · -- a bracket does not come to its end at the end of the text
    intro hcloses
    refine of_probes σ fun τ hτ => ?_
    obtain ⟨it, rest, hit, -⟩ := h.exists_item hcloses hτ
    cases hit
  rcases begins_or_forall_ne (d := '-') rfl (by decide) (a :: S₀) with ⟨S₁, hS₁⟩ | hne
  · obtain ⟨rfl, rfl⟩ := List.cons.inj hS₁
    -- a hyphen before the end of the bracket or another hyphen makes no range
    rcases begins_or_forall_ne (d := ']') rfl (by decide) S₀ with ⟨S₁, rfl⟩ | hclose
    · exact concludes_alone h hsound fun _ _ => rfl
    rcases begins_or_forall_ne (d := '-') rfl (by decide) S₀ with ⟨S₁, rfl⟩ | hhyphen
    · exact concludes_alone h hsound fun _ _ => rfl
    have hrange : ∀ ρ, σ.Run ρ → rangeFrom (first ρ) (fill ρ (.char '-' :: S₀)) =
        bracketItem false (fill ρ S₀) >>= fun p => (first ρ).upTo p.1 >>= fun r => .ok (r, p.2) :=
      fun ρ hρ => rangeFrom_hyphen (hclose ρ (hρ.full hσ)) (hhyphen ρ (hρ.full hσ))
    rcases S₀ with _ | ⟨d | name, S₁⟩
    · intro hcloses
      refine of_probes σ fun τ hτ => ?_
      obtain ⟨it, rest, hit, -⟩ := h.exists_item hcloses hτ
      rw [hrange τ (Or.inr hτ)] at hit
      cases hit
    · exact concludes_range_char hσ h hafter hrange
    · exact concludes_range_hole hσ h hafter hrange
  · refine concludes_alone h hsound fun ρ hρ => rangeFrom_alone ?_ (hne ρ (hρ.full hσ))
    exact (hρ.full hσ).fill_ne_nil a S₀

end RangePlace

/-- From the end of what fills a hole on. All its characters but the last stand for themselves; the
last may begin a range. -/
theorem soundIn_of_sound (hσ : σ.Full) {S : List Symbol} (hsound : Sound σ f S)
    (hafter : SoundAfter σ f S) : SoundIn σ f S := by
  intro name w b outer hw hb houter hcloses
  have hsplit : ∀ ρ, σ.Run ρ → ∃ u c, w ρ = u ++ [c] := fun ρ hρ =>
    ⟨_, _, (List.dropLast_concat_getLast (hw ρ hρ).1).symm⟩
  choose! u c huc using hsplit
  have hturns : ∀ ρ, σ.Run ρ → Turns (b ρ) (along outer ρ) (escapeChars (w ρ) ++ fill ρ S)
      ((b ρ).addChars (u ρ)) (along outer ρ) (escapeChar (c ρ) ++ fill ρ S) := by
    intro ρ hρ
    have hrow := turns_row escapeChar (u ρ) (escapeChar (c ρ) ++ fill ρ S)
      (fun d _ cs => ⟨begins_escapeChar d cs, escapeChar_append_ne d cs⟩)
      (by unfold escapeChar; split <;> simp) (escapeChar_append_ne _ _) (b ρ) (along outer ρ)
    rw [huc ρ hρ]
    simpa [escapeChars] using hrow
  -- a probe has the last of all characters in this place, and what it begins stands for a set
  have hunicode : f.unicode = true := by
    have hτ := σ.probes_lastChar
    have hlast : c (σ.copies lastChar) = lastChar := by
      have hmem : c (σ.copies lastChar) ∈ σ.copies lastChar name := by
        refine (hw _ (Or.inr hτ)).2.subset ?_
        simp [huc _ (Or.inr hτ)]
      exact List.eq_of_mem_replicate hmem
    obtain ⟨it, rest, hit, hfits⟩ := (begins_escapeChar _ _).closes
      ((hturns _ (Or.inr hτ)).closes (hcloses _ hτ))
    have hchar := fits_of_rangeFrom hit hfits
    rw [hlast] at hchar
    exact unicode_of_lastChar hchar
  have hkin : Kin σ f fun ρ => (b ρ).addChars (u ρ) :=
    ⟨OpenBracket.fits_addChars hunicode hb.fits _, fun ρ hρ => by simpa using hb.negated ρ hρ⟩
  refine concludes_of_turns _ outer _ (List.suffix_refl S) hturns (fun _ => ?_) hcloses
  refine concludes_range hσ (?_ : RangePlace σ f _ outer _ (fun ρ => .literal ⟨c ρ, false⟩) S)
    hsound hafter
  refine ⟨hkin, houter,
    Or.inr ⟨name, fun ρ hρ => ?_⟩, fun _ => Bracket.fits_literal_iff.mpr (Or.inl hunicode),
    fun ρ _ => begins_escapeChar _ _⟩
  obtain ⟨v, hv⟩ := (hw ρ hρ).2
  exact ⟨v ++ u ρ, c ρ, by rw [← hv, huc ρ hρ, List.append_assoc], rfl⟩

/-! ## §4 The beginning of a bracket -/

/-- Hyphens at the beginning of a bracket are those of the author. -/
theorem leadingHyphens_fill (b : OpenBracket) (S : List Symbol) :
    ∃ b' T, T <:+ S ∧
      ∀ ρ : Filling, ρ.Full → leadingHyphens false b false (fill ρ S) = (b', fill ρ T) := by
  induction S generalizing b with
  | nil => exact ⟨b, [], List.suffix_refl _, fun _ _ => rfl⟩
  | cons a S ih =>
    rcases begins_or_forall_ne (d := '-') rfl (by decide) (a :: S) with ⟨S', hS⟩ | hne
    · obtain ⟨rfl, rfl⟩ := List.cons.inj hS
      obtain ⟨b', T, hT, hread⟩ := ih (b.add (.literal ⟨'-', false⟩))
      refine ⟨b', T, hT.trans (List.suffix_cons _ _), fun ρ hρ => ?_⟩
      rw [← hread ρ hρ]
      rfl
    · refine ⟨b, a :: S, List.suffix_refl _, fun ρ hρ => ?_⟩
      obtain ⟨c, cs, hcs⟩ := List.exists_cons_of_ne_nil (hρ.fill_ne_nil a S)
      have hc : c ≠ '-' := by
        rintro rfl
        exact hne ρ hρ cs hcs
      rw [hcs]
      simp [leadingHyphens, hc]

/-- What follows the opening of a bracket and its caret. -/
private def afterCaret (negated : Bool) : List Char → OpenBracket × List Char
  | ']' :: rest => ({ negated, items := .literal ⟨']', false⟩ }, rest)
  | cs => leadingHyphens false { negated } false cs

private theorem openBracket_plain {cs : List Char} (h : ∀ cs', cs ≠ '^' :: cs') :
    openBracket false cs = afterCaret false cs := by
  rcases cs with _ | ⟨c, cs⟩
  · rfl
  · have hc : c ≠ '^' := fun heq => h cs (by rw [heq])
    unfold openBracket
    simp only [skip, Bool.false_eq_true, if_false]
    split
    next heq =>
      cases heq
      rfl
    next hne =>
      rw [afterCaret]
      exact hne

private theorem afterCaret_fill (negated : Bool) (S : List Symbol) :
    ∃ b T, T <:+ S ∧ ∀ ρ : Filling, ρ.Full → afterCaret negated (fill ρ S) = (b, fill ρ T) := by
  rcases begins_or_forall_ne (d := ']') rfl (by decide) S with ⟨S, rfl⟩ | hne
  · exact ⟨_, S, List.suffix_cons _ _, fun _ _ => rfl⟩
  · obtain ⟨b, T, hT, hread⟩ := leadingHyphens_fill { negated } S
    refine ⟨b, T, hT, fun ρ hρ => ?_⟩
    rw [afterCaret, hread ρ hρ]
    exact hne ρ hρ

/-- The beginning of a bracket does not depend on how holes are filled. -/
theorem openBracket_fill (S : List Symbol) :
    ∃ b T, T <:+ S ∧ ∀ ρ : Filling, ρ.Full → openBracket false (fill ρ S) = (b, fill ρ T) := by
  rcases begins_or_forall_ne (d := '^') rfl (by decide) S with ⟨S, rfl⟩ | hne
  · obtain ⟨b, T, hT, hread⟩ := afterCaret_fill true S
    exact ⟨b, T, hT.trans (List.suffix_cons _ _), hread⟩
  · obtain ⟨b, T, hT, hread⟩ := afterCaret_fill false S
    exact ⟨b, T, hT, fun ρ hρ => (openBracket_plain (hne ρ hρ)).trans (hread ρ hρ)⟩

/-! ## §5 Named classes -/

/-- How a named class is made up. -/
theorem asciiClass?_fill {ρ : Filling} {S : List Symbol} {item : Bracket} {rest : List Char}
    (h : asciiClass? (fill ρ S) = some (item, rest)) :
    ∃ S₁ T k, S = S₁ ++ .char ']' :: T ∧ fill ρ S₁ = ':' :: k ∧ fill ρ T = rest ∧
      (∀ c ∈ k, isClassChar c = true) ∧ (∃ c negated, item = .ascii c negated) ∧
      ∀ rest', asciiClass? ((':' :: k) ++ ']' :: rest') = some (item, rest') := by
  obtain ⟨k, hk, hchars, hitem, hread⟩ := asciiClass?_eq_some h
  have hback : '\\' ∉ ':' :: k := by
    intro hmem
    rcases List.mem_cons.mp hmem with heq | hmem
    · cases heq
    · cases hchars _ hmem
  obtain ⟨S₁, T, hS, hS₁, hT⟩ := exists_of_fill_eq (d := ']') rfl hback (by decide) hk
  exact ⟨S₁, T, k, hS, hS₁, hT, hchars, hitem, hread⟩

/-- A named class without a hole is read the same however holes are filled. -/
theorem asciiClass?_chars {ρ : Filling} {cs k : List Char} {T : List Symbol} {item : Bracket}
    (hk : fill ρ (cs.map .char) = ':' :: k)
    (hread : ∀ rest', asciiClass? ((':' :: k) ++ ']' :: rest') = some (item, rest'))
    (ρ' : Filling) :
    asciiClass? (fill ρ' (cs.map .char ++ .char ']' :: T)) = some (item, fill ρ' T) := by
  rw [fill_map_char] at hk
  rw [fill_append, fill_map_char, fill_char, hk]
  exact hread _

/-- What fills a hole is part of the text, where nothing of it is escaped. -/
theorem mem_fill_of_hole {ρ : Filling} {S : List Symbol} {name : String} (h : .hole name ∈ S)
    {c : Char} (hc : c ∈ ρ name) (hplain : isMeta c = false) : c ∈ fill ρ S := by
  refine List.mem_flatMap.mpr ⟨.hole name, h, List.mem_flatMap.mpr ⟨c, hc, ?_⟩⟩
  simp [escapeChar, hplain]

theorem isClassChar_of_mem_probeChars {c : Char} (h : c ∈ probeChars) : isClassChar c = false := by
  simp only [probeChars, List.mem_cons, List.not_mem_nil, or_false] at h
  rcases h with rfl | rfl | rfl <;> rfl

/-- A named class is not read with probes in its holes. -/
theorem asciiClass?_probe {τ : Filling} (hfull : τ.Full)
    (hchars : ∀ name, ∀ c ∈ τ name, c ∈ probeChars)
    {S : List Symbol} {item : Bracket} {rest : List Char}
    (h : asciiClass? (fill τ S) = some (item, rest)) :
    ∃ (cs : List Char) (T : List Symbol), S = cs.map .char ++ .char ']' :: T ∧
      ∀ ρ, asciiClass? (fill ρ S) = some (item, fill ρ T) := by
  obtain ⟨S₁, T, k, rfl, hS₁, -, hk, -, hread⟩ := asciiClass?_fill h
  rcases chars_or_exists_hole S₁ with ⟨cs, rfl⟩ | ⟨name, hname⟩
  · exact ⟨cs, T, rfl, asciiClass?_chars hS₁ hread⟩
  · obtain ⟨c, w, hcw⟩ := List.exists_cons_of_ne_nil (hfull name)
    have hc : c ∈ probeChars := hchars name c (by simp [hcw])
    have hmem : c ∈ ':' :: k := by
      rw [← hS₁]
      exact mem_fill_of_hole hname (by simp [hcw]) (isMeta_of_mem_probeChars hc)
    rcases List.mem_cons.mp hmem with rfl | hmem
    · exact absurd hc (by decide)
    · have := hk c hmem
      rw [isClassChar_of_mem_probeChars hc] at this
      cases this

/-- The set of a named class exists where that of any character does. -/
theorem fits_ascii_of_unicode (h : f.unicode = true) (c : AsciiClass) (negated : Bool) :
    (Bracket.ascii c negated).Fits f :=
  Bracket.fits_ascii_iff.mpr fun _ => h

/-- A bracket that begins with a character without a meaning. -/
theorem openBracket_of_not_isMeta {c : Char} (hc : isMeta c = false) (cs : List Char) :
    openBracket false (c :: cs) = ({ negated := false }, c :: cs) := by
  have hne : ∀ d, isMeta d = true → c ≠ d := by
    rintro d hd rfl
    rw [hd] at hc
    cases hc
  simp [openBracket, leadingHyphens, skip, hne '^' rfl, hne ']' rfl, hne '-' rfl]

/-- The bracket that is read in place of a named class where no name of a class is in the holes. -/
def literalsBracket (w : List Char) : Bracket :=
  .nested false (({ negated := false } : OpenBracket).addChars w).inside

/-- The turns of a bracket in a bracket that has characters only. -/
theorem turns_literalsBracket {w rest : List Char} (hw : ∀ c ∈ w, isMeta c = false ∨ c = '^')
    (hhead : ∃ c w', w = c :: w' ∧ isMeta c = false)
    (hclass : asciiClass? (w ++ ']' :: rest) = none) (b : OpenBracket) (outer : List OpenBracket) :
    Turns b outer ('[' :: (w ++ ']' :: rest)) (b.add (literalsBracket w)) outer rest := by
  obtain ⟨c, w', rfl, hc⟩ := hhead
  have hopen : Turns b outer ('[' :: (c :: w' ++ ']' :: rest)) { negated := false } (b :: outer)
      (c :: w' ++ ']' :: rest) :=
    (Turn.openNested hclass (openBracket_of_not_isMeta hc _)).turns (by simp)
  have hrow := turns_row (fun c => [c]) (c :: w') (']' :: rest)
    (fun d hd cs => ⟨begins_char (hw d hd) cs, fun cs' heq => by
      obtain ⟨rfl, -⟩ := List.cons.inj heq
      rcases hw _ hd with hmeta | hcaret
      · cases hmeta
      · cases hcaret⟩)
    nofun nofun { negated := false } (b :: outer)
  have hclose : Turns (({ negated := false } : OpenBracket).addChars (c :: w')) (b :: outer)
      (']' :: rest) (b.add (literalsBracket (c :: w'))) outer rest := by
    have hturn : Turn false (({ negated := false } : OpenBracket).addChars (c :: w')) (b :: outer)
        (']' :: rest) (b.add (.nested (({ negated := false } : OpenBracket).addChars
          (c :: w')).negated (({ negated := false } : OpenBracket).addChars (c :: w')).inside))
        outer rest := .closeNested
    rw [OpenBracket.negated_addChars] at hturn
    exact hturn.turns (by simp)
  refine hopen.trans (Turns.trans ?_ hclose)
  simpa using hrow

/-- Small letters, colons and the caret have no meaning inside of a bracket. -/
theorem not_isMeta_of_isClassChar {c : Char} (h : isClassChar c = true) :
    isMeta c = false ∨ c = '^' := by
  by_cases hcaret : c = '^'
  · exact Or.inr hcaret
  · left
    cases hc : isMeta c with
    | false => rfl
    | true =>
      simp only [isMeta, List.contains_eq_mem, decide_eq_true_eq, List.mem_cons, List.not_mem_nil,
        or_false] at hc
      rcases hc with rfl | rfl | rfl | rfl | rfl | rfl | rfl | rfl | rfl | rfl | rfl | rfl | rfl |
        rfl | rfl | rfl | rfl | rfl <;> first | exact absurd rfl hcaret | cases h

/-- What probes make of the text that is a named class for what they are probes of. -/
theorem turns_classInHole (hσ : σ.Full) {τ : Filling} (hτ : σ.Probes τ) {S₁ T : List Symbol}
    {k : List Char} (hS₁ : fill σ S₁ = ':' :: k) (hk : ∀ c ∈ k, isClassChar c = true)
    (hclass : asciiClass? (fill τ (S₁ ++ .char ']' :: T)) = none) (b : OpenBracket)
    (outer : List OpenBracket) :
    Turns b outer (fill τ (.char '[' :: (S₁ ++ .char ']' :: T)))
      (b.add (literalsBracket (fill τ S₁))) outer (fill τ T) := by
  have hauthor : ∀ c, .char c ∈ S₁ → isMeta c = false ∨ c = '^' := by
    intro c hc
    have hmem : c ∈ ':' :: k := hS₁ ▸ List.mem_flatMap.mpr ⟨_, hc, by simp [Symbol.fill]⟩
    rcases List.mem_cons.mp hmem with rfl | hmem
    · exact Or.inl rfl
    · exact not_isMeta_of_isClassChar (hk c hmem)
  have hword : ∀ c ∈ fill τ S₁, isMeta c = false ∨ c = '^' := by
    intro c hc
    obtain ⟨a, ha, hc⟩ := List.mem_flatMap.mp hc
    cases a with
    | char d =>
      obtain rfl := List.mem_singleton.mp hc
      exact hauthor c ha
    | hole name =>
      obtain ⟨d, hd, hc⟩ := List.mem_flatMap.mp hc
      have hplain := isMeta_of_mem_probeChars (hτ.chars name d hd)
      have hone : escapeChar d = [d] := by simp [escapeChar, hplain]
      rw [hone] at hc
      obtain rfl := List.mem_singleton.mp hc
      exact Or.inl hplain
  have hhead : ∃ c w, fill τ S₁ = c :: w ∧ isMeta c = false := by
    rcases S₁ with _ | ⟨d | name, S₁⟩
    · cases hS₁
    · obtain ⟨rfl, -⟩ := List.cons.inj hS₁
      exact ⟨':', fill τ S₁, rfl, rfl⟩
    · obtain ⟨c, w, hcw, hc⟩ := (hτ.full hσ).fill_hole name S₁
      refine ⟨c, w, hcw, ?_⟩
      rcases hc with rfl | hc
      · rcases hword '\\' (by rw [hcw]; exact List.mem_cons_self) with hmeta | hcaret
        · cases hmeta
        · cases hcaret
      · exact hc
  rw [fill_append, fill_char] at hclass
  rw [fill_char, fill_append, fill_char]
  exact turns_literalsBracket hword hhead hclass b outer

/-! ## §6 Whole brackets -/

/-- At the end of a bracket. -/
theorem sound_close {S : List Symbol} (hsound : Sound σ f S) : Sound σ f (.char ']' :: S) := by
  intro b outer hb houter
  cases outer with
  | nil =>
    intro hcloses
    have hwhole : ∀ τ, σ.Probes τ → (Bracket.nested (b τ).negated (b τ).inside).Fits f := by
      intro τ hτ
      obtain ⟨n, whole, rest, hread, hfits⟩ := hcloses τ hτ
      cases n with
      | zero => cases hread
      | succ n =>
        cases hread
        exact hfits
    refine ⟨S, List.suffix_cons _ _, fun ρ hρ => ⟨1, _, ?_, rfl, ?_⟩⟩
    · simp only [fill_char, List.length_cons]
      omega
    · rcases hρ with rfl | hρ
      · -- whether a set can be negated is the same for the probes, which are negated as well
        refine of_probes ρ fun τ hτ => Bracket.fits_nested_iff.mpr ⟨hb.fits, ?_⟩
        rw [← hb.negated τ (Or.inr hτ)]
        exact (Bracket.fits_nested_iff.mp (hwhole τ hτ)).2
      · exact hwhole ρ hρ
  | cons o outer =>
    have ho := houter o List.mem_cons_self
    refine concludes_of_turns (fun ρ => (o ρ).add (.nested (b ρ).negated (b ρ).inside)) outer
      (fill · S) (List.suffix_cons _ _)
      (fun ρ _ => Turn.closeNested.turns (by simp)) fun hcloses => ?_
    refine hsound _ outer ⟨?_, ho.negated⟩ fun o' ho' => houter o' (List.mem_cons_of_mem _ ho')
    refine of_probes σ fun τ hτ => OpenBracket.fits_add_iff.mpr
      ⟨ho.fits, Bracket.fits_nested_iff.mpr ⟨hb.fits, ?_⟩⟩
    rw [← hb.negated τ (Or.inr hτ)]
    exact (Bracket.fits_nested_iff.mp
      (OpenBracket.fits_add_iff.mp (hcloses τ hτ).fits.1).2).2

section Opening

variable {b : Filling → OpenBracket} {outer : List (Filling → OpenBracket)} {S : List Symbol}

/-- A named class of the author. -/
theorem concludes_namedClass (hb : Kin σ f b) (houter : ∀ o ∈ outer, Kin σ f o) {T : List Symbol}
    (hT : T <:+ S) (hsound : Sound σ f T) {item : Bracket}
    (hclass : ∀ ρ, asciiClass? (fill ρ S) = some (item, fill ρ T)) :
    Concludes σ f b outer (fill · (.char '[' :: S)) (.char '[' :: S) :=
  concludes_of_item (hT.trans (List.suffix_cons _ _)) hb (fun _ => item) (fill · T)
    (fun ρ _ => (Turn.namedClass (hclass ρ)).turns (length_fill_lt hT '[' ρ)) (of_probes σ)
    fun b' hb' => hsound b' outer hb' houter

/-- A bracket in a bracket. -/
theorem concludes_nested (hσ : σ.Full) (hb : Kin σ f b) (houter : ∀ o ∈ outer, Kin σ f o)
    (hshorter : ∀ T, T <:+ S → Sound σ f T)
    (hnone : ∀ ρ, σ.Run ρ → asciiClass? (fill ρ S) = none) :
    Concludes σ f b outer (fill · (.char '[' :: S)) (.char '[' :: S) := by
  obtain ⟨b₀, T, hT, hopen⟩ := openBracket_fill S
  refine concludes_of_turns (fun _ => b₀) (b :: outer) (fill · T)
    (hT.trans (List.suffix_cons _ _))
    (fun ρ hρ =>
      (Turn.openNested (hnone ρ hρ) (hopen ρ (hρ.full hσ))).turns (length_fill_lt hT '[' ρ))
    fun hcloses => ?_
  refine hshorter T hT _ _ ⟨of_probes σ fun τ hτ => (hcloses τ hτ).fits.1, fun _ _ => rfl⟩ ?_
  intro o ho
  rcases List.mem_cons.mp ho with rfl | ho
  · exact hb
  · exact houter o ho

/-- A named class with part of its name in a hole, in place of which probes make a bracket. The two
are not the same set, but what is left after them is. -/
theorem concludes_classInHole (hσ : σ.Full) (hb : Kin σ f b) (houter : ∀ o ∈ outer, Kin σ f o)
    (hshorter : ∀ T, T <:+ S → Sound σ f T) {item : Bracket} {rest : List Char}
    (hclass : asciiClass? (fill σ S) = some (item, rest))
    (hprobe : ∀ τ, σ.Probes τ → asciiClass? (fill τ S) = none) :
    Concludes σ f b outer (fill · (.char '[' :: S)) (.char '[' :: S) := by
  obtain ⟨S₁, T, k, rfl, hS₁, rfl, hk, ⟨c, negated, rfl⟩, hread⟩ := asciiClass?_fill hclass
  have hT : T <:+ S₁ ++ .char ']' :: T := (List.suffix_cons _ _).trans (List.suffix_append _ _)
  have hτ := σ.probes_lastChar
  obtain ⟨name, hname⟩ : ∃ name, .hole name ∈ S₁ := by
    rcases chars_or_exists_hole S₁ with ⟨cs, rfl⟩ | hhole
    · -- without a hole it would be the same class for a probe
      have hsame := asciiClass?_chars (T := T) hS₁ hread (σ.copies lastChar)
      rw [hprobe _ hτ] at hsame
      cases hsame
    · exact hhole
  classical
  refine concludes_of_item (hT.trans (List.suffix_cons _ _)) hb
    (fun ρ => if ρ = σ then .ascii c negated else literalsBracket (fill ρ S₁))
    (fill · T) (fun ρ hρ => ?_) (fun hprobes => ?_)
    fun b' hb' => hshorter T hT b' outer hb' houter
  · by_cases hρσ : ρ = σ
    · subst hρσ
      rw [if_pos rfl]
      exact (Turn.namedClass hclass).turns (length_fill_lt hT '[' ρ)
    · rw [if_neg hρσ]
      have hρ := hρ.resolve_left hρσ
      exact turns_classInHole hσ hρ hS₁ hk (hprobe ρ hρ) _ _
  · -- the characters of the bracket stand for sets, the last of all characters among them
    rw [if_pos rfl]
    have hne : σ.copies lastChar ≠ σ := by
      intro heq
      have := hprobe _ hτ
      rw [heq, hclass] at this
      cases this
    have hfits := hprobes _ hτ
    rw [if_neg hne] at hfits
    obtain ⟨w, hw⟩ := Filling.only_copies hσ lastChar name
    have hlast : lastChar ∈ fill (σ.copies lastChar) S₁ :=
      mem_fill_of_hole hname (by simp [hw]) rfl
    exact fits_ascii_of_unicode (unicode_of_lastChar ((OpenBracket.fits_of_fits_addChars
      (Bracket.fits_nested_iff.mp hfits).1).2 _ hlast)) c negated

end Opening

/-- At the beginning of a bracket in a bracket, or of a named class. -/
theorem sound_open (hσ : σ.Full) {S : List Symbol}
    (hshorter : ∀ T, T <:+ S → Sound σ f T) : Sound σ f (.char '[' :: S) := by
  intro b outer hb houter
  by_cases hsame : ∃ (cs : List Char) (T : List Symbol) (item : Bracket),
      S = cs.map .char ++ .char ']' :: T ∧ ∀ ρ, asciiClass? (fill ρ S) = some (item, fill ρ T)
  · obtain ⟨cs, T, item, hS, hclass⟩ := hsame
    have hT : T <:+ S := hS ▸ (List.suffix_cons _ _).trans (List.suffix_append _ _)
    exact concludes_namedClass hb houter hT (hshorter T hT) hclass
  -- a class that is not the author's alone is none with probes in its holes
  have hprobe : ∀ τ, σ.Probes τ → asciiClass? (fill τ S) = none := by
    intro τ hτ
    cases hclass : asciiClass? (fill τ S) with
    | none => rfl
    | some p =>
      obtain ⟨item, rest⟩ := p
      obtain ⟨cs, T, hS, hclass⟩ := asciiClass?_probe (hτ.full hσ) hτ.chars hclass
      exact absurd ⟨cs, T, item, hS, hclass⟩ hsame
  cases hclass : asciiClass? (fill σ S) with
  | none =>
    refine concludes_nested hσ hb houter hshorter ?_
    rintro ρ (rfl | hρ)
    · exact hclass
    · exact hprobe ρ hρ
  | some p => exact concludes_classInHole hσ hb houter hshorter hclass hprobe

/-- At a character of the author that neither opens nor closes a bracket. -/
theorem sound_char (hσ : σ.Full) {c : Char} (hopen : c ≠ '[') (hclose : c ≠ ']') {S : List Symbol}
    (hshorter : ∀ T, T <:+ S → Sound σ f T ∧ SoundIn σ f T) : Sound σ f (.char c :: S) := by
  intro b outer hb houter
  by_cases hop : ∃ o T, S = .char c :: T ∧ bracketOp? c = some o
  · obtain ⟨o, T, rfl, ho⟩ := hop
    refine concludes_of_turns (fun ρ => (b ρ).operate o) outer (fill · T)
      ((List.suffix_cons _ _).trans (List.suffix_cons _ _))
      (fun ρ _ => (Turn.operation ho).turns
        (length_fill_lt (S := .char c :: T) (List.suffix_cons _ _) c ρ)) fun _ => ?_
    exact (hshorter T (List.suffix_cons _ _)).1 _ outer
      ⟨OpenBracket.fits_operate_iff.mpr hb.fits, hb.negated⟩ houter
  · -- the second character of an operation never comes out of a hole, where it would be escaped
    have hnone : ∀ ρ : Filling, ρ.Full → ∀ cs, fill ρ S = c :: cs → bracketOp? c = none := by
      intro ρ hρ cs hcs
      cases ho : bracketOp? c with
      | none => rfl
      | some o =>
        have hmeta : isMeta c = true ∧ c ≠ '\\' := by
          unfold bracketOp? at ho
          split at ho <;> first | exact ⟨rfl, by decide⟩ | cases ho
        rcases begins_or_forall_ne hmeta.1 hmeta.2 S with ⟨T, rfl⟩ | hne
        · exact absurd ⟨o, T, rfl, ho⟩ hop
        · exact absurd hcs (hne ρ hρ cs)
    -- what the first item of a range comes to follows from two probes; the range goes on from it
    intro hcloses
    have hitem : ∀ τ, σ.Probes τ → ∃ it rest, bracketItem false (c :: fill τ S) = .ok (it, rest) ∧
        it.Fits f := by
      intro τ hτ
      obtain ⟨it, rest, hrange, hit⟩ := (hcloses τ hτ).item hopen hclose (hnone τ (hτ.full hσ))
      rw [bracketRange_eq] at hrange
      obtain ⟨⟨first, rest'⟩, hfirst, hrange⟩ := bind_eq_ok_iff.mp hrange
      exact ⟨first, rest', hfirst, fits_of_rangeFrom hrange hit⟩
    obtain ⟨_, _, hα, -⟩ := hitem _ σ.probes_lastChar
    obtain ⟨it, rest, hβ, hit⟩ := hitem _ σ.probes_percent
    rcases bracketItem_fill (Filling.only_copies hσ _) (Filling.only_copies hσ _) ⟨_, hα⟩ hβ with
      ⟨T, hT, hread⟩ | hnot
    · have hbegins : ∀ ρ, σ.Run ρ → Begins (fill ρ (.char c :: S)) it (fill ρ T) := by
        intro ρ hρ
        refine ⟨⟨c, fill ρ S, rfl, hopen, hclose, hnone ρ (hρ.full hσ)⟩, ?_, ?_⟩
        · have heq : bracketItem false (c :: fill ρ S) = .ok (it, fill ρ T) :=
            hread ρ (hρ.full hσ)
          rw [fill_char, bracketRange_eq, heq]
          rfl
        · exact length_fill_lt hT c ρ
      obtain ⟨T', hT', hends⟩ := concludes_range hσ
        ⟨hb, houter, Or.inl ⟨it, fun _ _ => rfl⟩, fun _ => hit, hbegins⟩ (hshorter T hT).1
        (fun T' hT' _ => hshorter T' (hT'.trans hT)) hcloses
      exact ⟨T', hT'.trans (hT.trans (List.suffix_cons _ _)), hends⟩
    · exact absurd hit (hnot f)

/-- From any place of a bracket. -/
theorem sound_fill (hσ : σ.Full) (S : List Symbol) : Sound σ f S ∧ SoundIn σ f S := by
  -- by the length of the text with holes: a turn may read any number of symbols at once, and the
  -- two statements need each other, the first at the hole and the second for the rest of a hole
  induction hlength : S.length using Nat.strong_induction_on generalizing S with
  | _ n ih =>
    subst hlength
    have hafter : SoundAfter σ f S := fun T _ hlt => ih T.length hlt T rfl
    have hsound : Sound σ f S := by
      rcases S with _ | ⟨a, S⟩
      · -- no probe comes to the end of a bracket here
        intro b outer hb houter hcloses
        refine of_probes σ fun τ hτ => ?_
        obtain ⟨n, whole, rest, hread, -⟩ := hcloses τ hτ
        cases n <;> cases hread
      · have hrest : ∀ T, T <:+ S → Sound σ f T ∧ SoundIn σ f T := by
          intro T hT
          exact hafter T (hT.trans (List.suffix_cons _ _)) (length_lt_of_suffix hT a)
        cases a with
        | char c =>
          by_cases hopen : c = '['
          · subst hopen
            exact sound_open hσ fun T hT => (hrest T hT).1
          by_cases hclose : c = ']'
          · subst hclose
            exact sound_close (hrest S (List.suffix_refl S)).1
          · exact sound_char hσ hopen hclose hrest
        | hole name =>
          intro b outer hb houter hcloses
          obtain ⟨T, hT, hends⟩ := (hrest S (List.suffix_refl S)).2 name (fun ρ => ρ name) b outer
            (fun ρ hρ => ⟨hρ.full hσ name, List.suffix_refl _⟩) hb houter hcloses
          exact ⟨T, hT.trans (List.suffix_cons _ _), hends⟩
    exact ⟨hsound, soundIn_of_sound hσ hsound hafter⟩

/-- A whole bracket that stands for a set with every probe in its holes does so with what they are
probes of, and what follows the bracket is the same place of the text. -/
theorem bracketRead_fill (hσ : σ.Full) {S : List Symbol}
    (h : ∀ τ, σ.Probes τ → ∃ b rest, Bracket.read false (fill τ S) = .ok (b, rest) ∧ b.Fits f) :
    ∃ T, T <:+ S ∧ ∀ ρ, σ.Run ρ →
      ∃ b, Bracket.read false (fill ρ S) = .ok (b, fill ρ T) ∧ b.Fits f := by
  obtain ⟨b₀, S₀, hS₀, hopen⟩ := openBracket_fill S
  have hread : ∀ ρ, σ.Run ρ → Bracket.read false (fill ρ S) =
      readBracket false ((fill ρ S).length + 1) b₀ [] (fill ρ S₀) := by
    intro ρ hρ
    rw [Bracket.read, hopen ρ (hρ.full hσ)]
  have hcloses : ∀ τ, σ.Probes τ → Closes f b₀ [] (fill τ S₀) := by
    intro τ hτ
    obtain ⟨b, rest, hb, hfits⟩ := h τ hτ
    rw [hread τ (Or.inr hτ)] at hb
    exact ⟨_, b, rest, hb, hfits⟩
  obtain ⟨T, hT, hends⟩ := (sound_fill hσ S₀).1 (fun _ => b₀) []
    ⟨of_probes σ fun τ hτ => (hcloses τ hτ).fits.1, fun _ _ => rfl⟩ nofun hcloses
  refine ⟨T, hT.trans hS₀, fun ρ hρ => ?_⟩
  obtain ⟨n, whole, hn, hwhole, hfits⟩ := hends ρ hρ
  have hlength : n + (fill ρ T).length ≤ (fill ρ S₀).length := hn
  have := length_fill_le hS₀ ρ
  exact ⟨whole, (hread ρ hρ).trans (readBracket_mono hwhole (by omega)), hfits⟩

end AggregateNaming.Pattern
