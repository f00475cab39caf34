import AggregateNaming.Proofs.Fallible
import AggregateNaming.Proofs.Pattern.Literal
import Mathlib.Data.List.TakeDrop

/-!
# Texts with holes

An author writes pattern text with holes in it, and what fills them is escaped. Here is what the
smallest readers make of such a text. A reader either takes the same from it however the holes are
filled, or it runs into a hole; and then it takes offence where the hole is filled with percent
signs, which have no meaning in any of these places.

## Main definitions

- `Symbol`, `fill` : texts with holes, and how they are filled.
- `Steady` : a reader takes the same from a text, however its holes are filled.

## Main statements

- `begins_or_forall_ne`, `exists_of_fill_eq` : characters with a meaning are those of the author.
- `span_fill`, `span_until_fill` : stretches of a text with holes.
-/

namespace AggregateNaming.Pattern

/-! ## §1 Holes and fillings -/

/-- A place of a text: a character of the author, or a hole with a name. -/
inductive Symbol where
  | char (c : Char)
  | hole (name : String)
  deriving DecidableEq

/-- What holes are filled with, by their names. -/
abbrev Filling := String → List Char

/-- What stands at a place once holes are filled. -/
def Symbol.fill (ρ : Filling) : Symbol → List Char
  | char c => [c]
  | hole name => escapeChars (ρ name)

/-- A text with its holes filled. What fills them is escaped. -/
def fill (ρ : Filling) (S : List Symbol) : List Char := S.flatMap (Symbol.fill ρ)

@[simp] theorem fill_nil (ρ : Filling) : fill ρ [] = [] := rfl

@[simp] theorem fill_char (ρ : Filling) (c : Char) (S : List Symbol) :
    fill ρ (.char c :: S) = c :: fill ρ S := rfl

@[simp] theorem fill_hole (ρ : Filling) (name : String) (S : List Symbol) :
    fill ρ (.hole name :: S) = escapeChars (ρ name) ++ fill ρ S := rfl

@[simp] theorem fill_append (ρ : Filling) (S T : List Symbol) :
    fill ρ (S ++ T) = fill ρ S ++ fill ρ T := List.flatMap_append

@[simp] theorem fill_map_char (ρ : Filling) (cs : List Char) : fill ρ (cs.map .char) = cs := by
  induction cs with
  | nil => rfl
  | cons c cs ih => rw [List.map_cons, fill_char, ih]

/-- The last of all characters. It is no letter and no digit, and outside of ASCII. -/
def lastChar : Char := Char.ofNat 0x10FFFF

/-- No hole is left empty. -/
def Filling.Full (ρ : Filling) : Prop := ∀ name, ρ name ≠ []

/-- Every hole is filled with one or more copies of a character. -/
def Filling.Only (c : Char) (ρ : Filling) : Prop := ∀ name, ∃ k, ρ name = List.replicate (k + 1) c

theorem Filling.Only.full {c : Char} {ρ : Filling} (h : ρ.Only c) : ρ.Full := by
  intro name hnil
  obtain ⟨k, hk⟩ := h name
  rw [hk] at hnil
  cases hnil

/-- A character without a meaning of its own is not changed by escaping. -/
theorem escapeChars_replicate {c : Char} (hc : isMeta c = false) (k : Nat) :
    escapeChars (List.replicate k c) = List.replicate k c := by
  induction k with
  | zero => rfl
  | succ k ih =>
    simp only [escapeChars] at ih
    simp [List.replicate_succ, escapeChars, escapeChar, hc, ih]

/-- A text that begins with a hole, where holes are filled with copies of a character. -/
theorem Filling.Only.fill_hole {c : Char} {ρ : Filling} (h : ρ.Only c) (hc : isMeta c = false)
    (name : String) (S : List Symbol) :
    ∃ k, fill ρ (.hole name :: S) = c :: (List.replicate k c ++ fill ρ S) := by
  obtain ⟨k, hk⟩ := h name
  exact ⟨k, by rw [Pattern.fill_hole, hk, escapeChars_replicate hc]; rfl⟩

/-- A text that begins with a hole, where holes are filled with percent signs. -/
theorem Filling.Only.fill_hole_percent {ρ : Filling} (h : ρ.Only '%') (name : String)
    (S : List Symbol) :
    ∃ k, fill ρ (.hole name :: S) = '%' :: (List.replicate k '%' ++ fill ρ S) :=
  h.fill_hole rfl name S

/-- A filled hole begins with a backslash, or with a character without a meaning of its own. -/
theorem Filling.Full.fill_hole {ρ : Filling} (h : ρ.Full) (name : String) (S : List Symbol) :
    ∃ c cs, fill ρ (.hole name :: S) = c :: cs ∧ (c = '\\' ∨ isMeta c = false) := by
  rw [Pattern.fill_hole]
  cases hw : ρ name with
  | nil => exact absurd hw (h name)
  | cons d w =>
    cases hd : isMeta d with
    | true => exact ⟨'\\', d :: (escapeChars w ++ fill ρ S), by simp [escapeChars, escapeChar, hd],
        Or.inl rfl⟩
    | false => exact ⟨d, escapeChars w ++ fill ρ S, by simp [escapeChars, escapeChar, hd],
        Or.inr hd⟩

/-- A text with a place is not empty. -/
theorem Filling.Full.fill_ne_nil {ρ : Filling} (h : ρ.Full) (a : Symbol) (S : List Symbol) :
    fill ρ (a :: S) ≠ [] := by
  cases a with
  | char c => exact nofun
  | hole name =>
    obtain ⟨c, cs, hfill, -⟩ := h.fill_hole name S
    rw [hfill]
    exact nofun

/-- Whether a text begins with a character that has a meaning, the backslash apart, is up to its
author. -/
theorem begins_or_forall_ne {d : Char} (hd : isMeta d = true) (hne : d ≠ '\\') (S : List Symbol) :
    (∃ T, S = .char d :: T) ∨ ∀ ρ : Filling, ρ.Full → ∀ cs, fill ρ S ≠ d :: cs := by
  rcases S with _ | ⟨c | name, S⟩
  · exact Or.inr fun _ _ _ => nofun
  · by_cases hc : c = d
    · exact Or.inl ⟨S, by rw [hc]⟩
    · exact Or.inr fun ρ _ cs heq => hc (List.cons.inj heq).1
  · refine Or.inr fun ρ hρ cs heq => ?_
    obtain ⟨c, cs', hfill, hc⟩ := hρ.fill_hole name S
    rw [hfill] at heq
    obtain ⟨rfl, -⟩ := List.cons.inj heq
    rcases hc with hc | hc
    · exact hne hc
    · rw [hd] at hc
      cases hc

/-- What is left of a text is no longer than the text. -/
theorem length_fill_le {S T : List Symbol} (h : T <:+ S) (ρ : Filling) :
    (fill ρ T).length ≤ (fill ρ S).length := by
  obtain ⟨S', rfl⟩ := h
  rw [fill_append, List.length_append]
  exact Nat.le_add_left _ _

/-- What is left after a character of the author is shorter. -/
theorem length_fill_lt {S T : List Symbol} (h : T <:+ S) (c : Char) (ρ : Filling) :
    (fill ρ T).length < (fill ρ (.char c :: S)).length := by
  rw [fill_char, List.length_cons]
  exact Nat.lt_succ_of_le (length_fill_le h ρ)

/-- What is left after a symbol has fewer symbols. -/
theorem length_lt_of_suffix {S T : List Symbol} (h : T <:+ S) (a : Symbol) :
    T.length < (a :: S).length :=
  Nat.lt_succ_of_le h.length_le

/-- A text is of the author alone, or it has a hole. -/
theorem chars_or_exists_hole (S : List Symbol) :
    (∃ cs : List Char, S = cs.map .char) ∨ ∃ name, .hole name ∈ S := by
  induction S with
  | nil => exact Or.inl ⟨[], rfl⟩
  | cons a S ih =>
    cases a with
    | hole name => exact Or.inr ⟨name, List.mem_cons_self⟩
    | char c =>
      rcases ih with ⟨cs, rfl⟩ | ⟨name, hname⟩
      · exact Or.inl ⟨c :: cs, rfl⟩
      · exact Or.inr ⟨name, List.mem_cons_of_mem _ hname⟩

/-- Before every character with a meaning in an escaped text stands a backslash. -/
theorem mem_of_escapeChars_eq {w k rest : List Char} {d : Char} (hd : isMeta d = true)
    (hne : d ≠ '\\') (h : escapeChars w = k ++ d :: rest) : '\\' ∈ k := by
  induction w generalizing k with
  | nil =>
    cases k <;> cases h
  | cons c w ih =>
    have hsplit : escapeChar c ++ escapeChars w = k ++ d :: rest := by simpa [escapeChars] using h
    cases hc : isMeta c with
    | true =>
      have hback : escapeChar c = ['\\', c] := by simp [escapeChar, hc]
      rw [hback] at hsplit
      cases k with
      | nil => exact absurd (List.cons.inj hsplit).1.symm hne
      | cons e k =>
        rw [← (List.cons.inj hsplit).1]
        exact List.mem_cons_self
    | false =>
      have hplain : escapeChar c = [c] := by simp [escapeChar, hc]
      rw [hplain] at hsplit
      cases k with
      | nil =>
        obtain ⟨rfl, -⟩ := List.cons.inj hsplit
        rw [hd] at hc
        cases hc
      | cons e k => exact List.mem_cons_of_mem _ (ih (List.cons.inj hsplit).2)

/-- A character with a meaning and no backslash before it is one of the author. -/
theorem exists_of_fill_eq {ρ : Filling} {S : List Symbol} {k rest : List Char} {d : Char}
    (hd : isMeta d = true) (hk : '\\' ∉ k) (hne : d ≠ '\\') (h : fill ρ S = k ++ d :: rest) :
    ∃ S₁ T, S = S₁ ++ .char d :: T ∧ fill ρ S₁ = k ∧ fill ρ T = rest := by
  induction S generalizing k with
  | nil => cases k <;> cases h
  | cons a S ih =>
    cases a with
    | char c =>
      cases k with
      | nil =>
        obtain ⟨rfl, hrest⟩ := List.cons.inj h
        exact ⟨[], S, rfl, rfl, hrest⟩
      | cons e k =>
        obtain ⟨rfl, hrest⟩ := List.cons.inj h
        obtain ⟨S₁, T, rfl, rfl, rfl⟩ := ih (fun hmem => hk (List.mem_cons_of_mem _ hmem)) hrest
        exact ⟨.char c :: S₁, T, rfl, rfl, rfl⟩
    | hole name =>
      rw [fill_hole] at h
      -- the character comes after all of what fills the hole, or it would be in it
      rcases List.append_eq_append_iff.mp h with ⟨k', rfl, hrest⟩ | ⟨w, hw, hrest⟩
      · obtain ⟨S₁, T, rfl, rfl, rfl⟩ := ih (fun hmem => hk (List.mem_append_right _ hmem)) hrest
        exact ⟨.hole name :: S₁, T, rfl, rfl, rfl⟩
      · cases w with
        | nil =>
          obtain ⟨S₁, T, rfl, hS₁, rfl⟩ := ih (k := []) nofun (by simpa using hrest.symm)
          exact ⟨.hole name :: S₁, T, rfl, by simp [hS₁, hw], rfl⟩
        | cons e w =>
          obtain ⟨rfl, -⟩ := List.cons.inj hrest
          exact absurd (mem_of_escapeChars_eq hd hne hw) hk

/-- A reader takes the same from a text, however its holes are filled. -/
def Steady {α : Type} (f : List Char → Except PatternError (α × List Char)) (S : List Symbol)
    (a : α) (T : List Symbol) : Prop :=
  T <:+ S ∧ ∀ ρ : Filling, ρ.Full → f (fill ρ S) = .ok (a, fill ρ T)

/-! ## §2 Stretches -/

/-- The beginning of a text up to a hole is the same however holes are filled. A stretch of
characters with a property that the percent sign does not have ends there at the latest. -/
theorem span_fill {β : Filling} (hβ : β.Only '%') {p : Char → Bool} (hp : p '%' = false)
    (S : List Symbol) :
    ∃ pre T, S = pre.map .char ++ T ∧ (fill β S).span p = (pre, fill β T) ∧
      ((∃ name T', T = .hole name :: T') ∨
        ∀ ρ : Filling, (fill ρ S).span p = (pre, fill ρ T)) := by
  simp only [List.span_eq_takeWhile_dropWhile]
  induction S with
  | nil => exact ⟨[], [], rfl, rfl, Or.inr fun _ => rfl⟩
  | cons a S ih =>
    cases a with
    | hole name =>
      obtain ⟨k, hk⟩ := hβ.fill_hole_percent name S
      refine ⟨[], .hole name :: S, rfl, ?_, Or.inl ⟨name, S, rfl⟩⟩
      simp [hk, hp]
    | char c =>
      cases hc : p c with
      | false =>
        refine ⟨[], .char c :: S, rfl, ?_, Or.inr fun ρ => ?_⟩ <;> simp [hc]
      | true =>
        obtain ⟨pre, T, rfl, hspan, hrest⟩ := ih
        refine ⟨c :: pre, T, rfl, ?_, ?_⟩
        · simpa [hc] using hspan
        · exact hrest.imp_right fun h ρ => by simpa [hc] using h ρ

/-- A stretch up to a character of the author. -/
theorem span_until_char {d : Char} {pre : List Char} (hd : d ∉ pre) (T : List Symbol)
    (ρ : Filling) :
    (fill ρ (pre.map .char ++ .char d :: T)).span (· != d) = (pre, d :: fill ρ T) := by
  have hpre : ∀ c ∈ pre, (c != d) = true := by
    intro c hc
    simpa using fun h : c = d => hd (h ▸ hc)
  rw [List.span_eq_takeWhile_dropWhile, fill_append, fill_map_char, fill_char,
    List.takeWhile_append_of_pos hpre, List.dropWhile_append_of_pos hpre]
  simp

/-- A stretch up to a character that no percent sign ends: it is one of the author, or a percent
sign is in it, or that character is missing. -/
theorem span_until_fill {β : Filling} (hβ : β.Only '%') {d : Char} (hd : d ≠ '%')
    (S : List Symbol) :
    (∃ (pre : List Char) (T : List Symbol), d ∉ pre ∧ S = pre.map .char ++ .char d :: T) ∨
      '%' ∈ ((fill β S).span (· != d)).1 ∨ ((fill β S).span (· != d)).2 = [] := by
  simp only [List.span_eq_takeWhile_dropWhile]
  induction S with
  | nil => exact Or.inr (Or.inr rfl)
  | cons a S ih =>
    cases a with
    | hole name =>
      obtain ⟨k, hk⟩ := hβ.fill_hole_percent name S
      refine Or.inr (Or.inl ?_)
      simp [hk, hd.symm]
    | char c =>
      by_cases hc : c = d
      · subst hc
        exact Or.inl ⟨[], S, by simp, rfl⟩
      · rcases ih with ⟨pre, T, hpre, rfl⟩ | h | h
        · exact Or.inl ⟨c :: pre, T, by simp [hpre, Ne.symm hc], rfl⟩
        · exact Or.inr (Or.inl (by simp [hc, h]))
        · exact Or.inr (Or.inr (by simpa [hc] using h))

/-- Where blanks count, a counted stretch is a stretch. -/
theorem takeCounted_false (test : Char → Bool) (cs : List Char) :
    takeCounted false test false cs = cs.span test := by
  rw [List.span_eq_takeWhile_dropWhile]
  induction cs with
  | nil => rfl
  | cons c cs ih =>
    unfold takeCounted
    cases hc : test c <;> simp [hc, ih]

end AggregateNaming.Pattern
