import AggregateNaming.Proofs.Pattern.BracketTurn
import AggregateNaming.Proofs.Pattern.Steady

/-!
# Probes

Fillings of at most two characters, out of three, that stand for all others. A probe of a filling
fills the same holes, those with one character with one and all others with two.

## Main definitions

- `probeChars` : the first of all characters, the last one, and the percent sign.
- `Filling.Probes` : a filling is a probe of another.

## Main statements

- `upTo_of_probes` : there is a range between two ends if there is with every probe in the holes.
-/

namespace AggregateNaming.Pattern

/-! ## §1 Probes -/

/-- The first of all characters. -/
def firstChar : Char := '\x00'

/-- The characters that probes are made of: they have no meaning of their own in patterns, and none
of the names in patterns has one of them. -/
def probeChars : List Char := [firstChar, '%', lastChar]

/-- A filling is a probe of another. -/
structure Filling.Probes (σ τ : Filling) : Prop where
  chars : ∀ name, ∀ c ∈ τ name, c ∈ probeChars
  length : ∀ name, (τ name).length = min 2 (σ name).length

/-- A filling, or a probe of it. -/
def Filling.Run (σ ρ : Filling) : Prop := ρ = σ ∨ σ.Probes ρ

theorem isMeta_of_mem_probeChars {c : Char} (h : c ∈ probeChars) : isMeta c = false := by
  simp only [probeChars, List.mem_cons, List.not_mem_nil, or_false] at h
  rcases h with rfl | rfl | rfl <;> rfl

namespace Filling

variable {σ τ ρ : Filling}

theorem Probes.full (h : σ.Probes τ) (hσ : σ.Full) : τ.Full := by
  intro name hnil
  have hlength := h.length name
  rw [hnil] at hlength
  have hpos := List.length_pos_iff.mpr (hσ name)
  simp only [List.length_nil] at hlength
  omega

theorem Run.full (h : σ.Run ρ) (hσ : σ.Full) : ρ.Full := by
  rcases h with rfl | h
  · exact hσ
  · exact h.full hσ

/-- Where a filling has one character, so have its probes. -/
theorem Run.length_eq_one (h : σ.Run ρ) {name : String} (hone : (σ name).length = 1) :
    (ρ name).length = 1 := by
  rcases h with rfl | h
  · exact hone
  · rw [h.length name, hone]
    rfl

/-- Where a filling has two characters or more, so have its probes. -/
theorem Run.two_le_length (h : σ.Run ρ) {name : String} (htwo : 2 ≤ (σ name).length) :
    2 ≤ (ρ name).length := by
  rcases h with rfl | h
  · exact htwo
  · rw [h.length name]
    omega

/-- The probe made of one character only. -/
def copies (σ : Filling) (c : Char) : Filling :=
  fun name => List.replicate (min 2 (σ name).length) c

theorem probes_copies (σ : Filling) {c : Char} (hc : c ∈ probeChars) : σ.Probes (σ.copies c) where
  chars name d hd := by
    obtain rfl := List.eq_of_mem_replicate hd
    exact hc
  length name := List.length_replicate

/-- The probe of percent signs. -/
theorem probes_percent (σ : Filling) : σ.Probes (σ.copies '%') := σ.probes_copies (by decide)

/-- The probe made of the last of all characters. -/
theorem probes_lastChar (σ : Filling) : σ.Probes (σ.copies lastChar) :=
  σ.probes_copies (by decide)

theorem only_copies (hσ : σ.Full) (c : Char) : (σ.copies c).Only c := by
  intro name
  have hpos := List.length_pos_iff.mpr (hσ name)
  refine ⟨min 2 (σ name).length - 1, ?_⟩
  rw [copies]
  congr 1
  omega

end Filling

/-! ## §2 The ends of ranges -/

theorem firstChar_le (c : Char) : firstChar ≤ c := by
  simp [firstChar, Char.le_def, UInt32.le_iff_toNat_le]

theorem le_lastChar (c : Char) : c ≤ lastChar := by
  have hvalid : c.val.toNat.isValidChar := c.valid
  have hlast : lastChar.val.toNat = 0x10FFFF := rfl
  rw [Char.le_def, UInt32.le_iff_toNat_le, hlast]
  unfold Nat.isValidChar at hvalid
  omega

/-- The first end of a range: an item of the author, or the last character of a hole. -/
def RangeStart (σ : Filling) (p : Filling → Bracket) : Prop :=
  (∃ it, ∀ ρ, σ.Run ρ → p ρ = it) ∨
    ∃ name, ∀ ρ, σ.Run ρ → ∃ w c, ρ name = w ++ [c] ∧ p ρ = .literal ⟨c, false⟩

/-- The last end of a range: an item of the author, or the first character of a hole. -/
def RangeStop (σ : Filling) (q : Filling → Bracket) : Prop :=
  (∃ it, ∀ ρ, σ.Run ρ → q ρ = it) ∨
    ∃ name, ∀ ρ, σ.Run ρ → ∃ c w, ρ name = c :: w ∧ q ρ = .literal ⟨c, false⟩

/-- The probe that ends the filling of one hole with the last of all characters, and is made of the
first of all characters otherwise. -/
def Filling.steep (σ : Filling) (hole : String) : Filling := fun name =>
  if name = hole then List.replicate (min 2 (σ name).length - 1) firstChar ++ [lastChar]
  else List.replicate (min 2 (σ name).length) firstChar

theorem Filling.probes_steep {σ : Filling} (hσ : σ.Full) (hole : String) :
    σ.Probes (σ.steep hole) where
  chars name c hc := by
    unfold steep at hc
    split at hc
    · rcases List.mem_append.mp hc with hc | hc
      · obtain rfl := List.eq_of_mem_replicate hc
        simp [probeChars]
      · obtain rfl := List.mem_singleton.mp hc
        simp [probeChars]
    · obtain rfl := List.eq_of_mem_replicate hc
      simp [probeChars]
  length name := by
    have hpos := List.length_pos_iff.mpr (hσ name)
    unfold steep
    split <;> simp
    omega

section UpTo

variable {σ : Filling} {p q : Filling → Bracket}

/-- What the first end of a range is with copies of a character in the holes: what it is anyway, or
that character. -/
theorem RangeStart.copies (hp : RangeStart σ p) {c : Char} (hc : c ∈ probeChars) :
    p σ = p (σ.copies c) ∨
      p (σ.copies c) = .literal ⟨c, false⟩ ∧ ∃ d, p σ = .literal ⟨d, false⟩ := by
  have hrun : σ.Run (σ.copies c) := Or.inr (σ.probes_copies hc)
  rcases hp with ⟨it, hp⟩ | ⟨name, hp⟩
  · exact Or.inl ((hp σ (Or.inl rfl)).trans (hp _ hrun).symm)
  · obtain ⟨w, d, hd, hpd⟩ := hp _ hrun
    obtain ⟨-, e, -, hpe⟩ := hp σ (Or.inl rfl)
    have hmem : d ∈ σ.copies c name := by simp [hd]
    obtain rfl := List.eq_of_mem_replicate hmem
    exact Or.inr ⟨hpd, e, hpe⟩

/-- What the last end of a range is with copies of a character in the holes. -/
theorem RangeStop.copies (hq : RangeStop σ q) {c : Char} (hc : c ∈ probeChars) :
    q σ = q (σ.copies c) ∨
      q (σ.copies c) = .literal ⟨c, false⟩ ∧ ∃ d, q σ = .literal ⟨d, false⟩ := by
  have hrun : σ.Run (σ.copies c) := Or.inr (σ.probes_copies hc)
  rcases hq with ⟨it, hq⟩ | ⟨name, hq⟩
  · exact Or.inl ((hq σ (Or.inl rfl)).trans (hq _ hrun).symm)
  · obtain ⟨d, w, hd, hqd⟩ := hq _ hrun
    obtain ⟨e, -, -, hqe⟩ := hq σ (Or.inl rfl)
    have hmem : d ∈ σ.copies c name := by simp [hd]
    obtain rfl := List.eq_of_mem_replicate hmem
    exact Or.inr ⟨hqd, e, hqe⟩

/-- Where the first end is the author's, the first of all characters is the worst last end. -/
private theorem upTo_of_start (hp : p σ = p (σ.copies firstChar)) (hq : RangeStop σ q)
    (h : ∀ τ, σ.Probes τ → ∃ r, (p τ).upTo (q τ) = .ok r) : ∃ r, (p σ).upTo (q σ) = .ok r := by
  have hfirst : firstChar ∈ probeChars := by decide
  obtain ⟨r, hr⟩ := h _ (σ.probes_copies hfirst)
  rcases hq.copies hfirst with hq | ⟨hq, d, hd⟩
  · exact ⟨r, by rw [hp, hq, hr]⟩
  · obtain ⟨a, b, ha, hb, hle, -⟩ := Bracket.upTo_eq_ok_iff.mp hr
    rw [hq] at hb
    cases hb
    exact ⟨_, Bracket.upTo_eq_ok_iff.mpr
      ⟨a, _, hp.trans ha, hd, Char.le_trans hle (firstChar_le d), rfl⟩⟩

/-- Where the last end is the author's, the last of all characters is the worst first end. -/
private theorem upTo_of_stop (hp : RangeStart σ p) (hq : q σ = q (σ.copies lastChar))
    (h : ∀ τ, σ.Probes τ → ∃ r, (p τ).upTo (q τ) = .ok r) : ∃ r, (p σ).upTo (q σ) = .ok r := by
  have hlast : lastChar ∈ probeChars := by decide
  obtain ⟨r, hr⟩ := h _ (σ.probes_copies hlast)
  rcases hp.copies hlast with hp | ⟨hp, d, hd⟩
  · exact ⟨r, by rw [hp, hq, hr]⟩
  · obtain ⟨a, b, ha, hb, hle, -⟩ := Bracket.upTo_eq_ok_iff.mp hr
    rw [hp] at ha
    cases ha
    exact ⟨_, Bracket.upTo_eq_ok_iff.mpr
      ⟨_, b, hd, hq.trans hb, Char.le_trans (le_lastChar d) hle, rfl⟩⟩

/-- A steep filling ends one hole with the last of all characters. -/
theorem eq_lastChar_of_steep {hole : String} {w : List Char} {c : Char}
    (h : σ.steep hole hole = w ++ [c]) : c = lastChar := by
  have hlast := congrArg List.getLast? h
  simpa [Filling.steep] using hlast.symm

/-- A steep filling begins all holes with the first of all characters, but the one hole if that has
one character only. -/
theorem eq_firstChar_of_steep (hσ : σ.Full) {hole name : String} {w : List Char} {c : Char}
    (hne : ¬(hole = name ∧ (σ name).length = 1)) (h : σ.steep hole name = c :: w) :
    c = firstChar := by
  have hpos := List.length_pos_iff.mpr (hσ name)
  have hhead := congrArg List.head? h
  unfold Filling.steep at hhead
  split at hhead
  next heq =>
    have hone : (σ name).length ≠ 1 := fun hlength => hne ⟨heq.symm, hlength⟩
    obtain ⟨k, hk⟩ : ∃ k, min 2 (σ name).length - 1 = k + 1 :=
      ⟨min 2 (σ name).length - 2, by omega⟩
    rw [hk] at hhead
    simpa [List.replicate_succ] using hhead.symm
  next =>
    obtain ⟨k, hk⟩ : ∃ k, min 2 (σ name).length = k + 1 := ⟨min 2 (σ name).length - 1, by omega⟩
    rw [hk] at hhead
    simpa [List.replicate_succ] using hhead.symm

/-- The range between two items exists if it does with every probe in the holes: the first and the
last of all characters are the worst that its ends can be. -/
theorem upTo_of_probes (hσ : σ.Full) (hp : RangeStart σ p) (hq : RangeStop σ q)
    (h : ∀ τ, σ.Probes τ → ∃ r, (p τ).upTo (q τ) = .ok r) : ∃ r, (p σ).upTo (q σ) = .ok r := by
  have hself : σ.Run σ := Or.inl rfl
  have hrun : ∀ {c}, c ∈ probeChars → σ.Run (σ.copies c) := fun hc => Or.inr (σ.probes_copies hc)
  rcases hp with ⟨it, hp⟩ | ⟨x, hp⟩
  · exact upTo_of_start ((hp σ hself).trans (hp _ (hrun (by decide))).symm) hq h
  rcases hq with ⟨it, hq⟩ | ⟨y, hq⟩
  · exact upTo_of_stop (Or.inr ⟨x, hp⟩) ((hq σ hself).trans (hq _ (hrun (by decide))).symm) h
  -- between two holes there is no range, unless both are one hole with one character
  by_cases hone : x = y ∧ (σ y).length = 1
  · obtain ⟨rfl, hlength⟩ := hone
    obtain ⟨w, c, hc, hpc⟩ := hp σ hself
    obtain ⟨d, w', hd, hqd⟩ := hq σ hself
    rw [hc] at hd hlength
    obtain rfl : w = [] := by simpa using hlength
    cases hd
    exact ⟨_, Bracket.upTo_eq_ok_iff.mpr ⟨_, _, hpc, hqd, Char.le_refl c, rfl⟩⟩
  · -- the steep probe has the first end at the last of all characters, and the last at the first
    have hprobe := σ.probes_steep hσ x
    obtain ⟨r, hr⟩ := h _ hprobe
    obtain ⟨a, b, ha, hb, hle, -⟩ := Bracket.upTo_eq_ok_iff.mp hr
    obtain ⟨w, c, hc, hpc⟩ := hp _ (Or.inr hprobe)
    obtain ⟨d, w', hd, hqd⟩ := hq _ (Or.inr hprobe)
    rw [hpc] at ha
    rw [hqd] at hb
    cases ha
    cases hb
    rw [eq_lastChar_of_steep hc, eq_firstChar_of_steep hσ hone hd] at hle
    exact absurd hle (by decide)

end UpTo

end AggregateNaming.Pattern
