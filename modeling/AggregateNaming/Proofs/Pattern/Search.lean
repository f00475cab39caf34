import AggregateNaming.Pattern.Search
import Mathlib.Data.List.Basic

/-!
# What a search finds

A search works on sets of places and never looks at a match as a whole. Here it is compared with what
it means for a pattern to match a stretch of a text: from a place a match can reach one of the given
places exactly when the pattern matches the stretch between the two.

A repetition needs a second look. It may take any number of turns, and a search cuts them off after
one more than there are characters. That is enough: a turn that moves on moves forward, and a turn
that stays where it is can be left out.

## Main definitions

- `Paths` : a number of steps of a relation between places, one after the other.

## Main statements

- `mem_spread_iff` : what the rounds of a repetition find.
- `mem_starts_iff` : from which places a match reaches one of the given places.
- `accepts_iff` : a pattern is found in a text exactly when it matches some stretch of it.
-/

namespace AggregateNaming.Pattern

/-! ## §1 Stretches -/

section Stretches

variable {t : List Char} {p : Pattern} {i j : Nat}

/-- A match does not end before it begins, and lies inside of the text. -/
theorem Spans.bounds (h : Spans t p i j) : i ≤ j ∧ j ≤ t.length := by
  induction h with
  | empty hi => exact ⟨Nat.le_refl _, hi⟩
  | assertion hi => exact ⟨Nat.le_refl _, hi⟩
  | done hi => exact ⟨Nat.le_refl _, hi⟩
  | set hc =>
    obtain ⟨hlt, -⟩ := List.getElem?_eq_some_iff.mp hc
    omega
  | group _ ih => exact ih
  | left _ ih => exact ih
  | right _ ih => exact ih
  | concat _ _ ih₁ ih₂ => omega
  | needed _ _ ih₁ ih₂ => omega
  | further _ _ ih₁ ih₂ => omega
  | always _ _ ih₁ ih₂ => omega

theorem Spans.le (h : Spans t p i j) : i ≤ j := h.bounds.1

theorem Spans.stop_le (h : Spans t p i j) : j ≤ t.length := h.bounds.2

theorem Spans.start_le (h : Spans t p i j) : i ≤ t.length := Nat.le_trans h.le h.stop_le

theorem spans_set_iff {s : CharSet} :
    Spans t (.set s) i j ↔ j = i + 1 ∧ ∃ c, t[i]? = some c ∧ s.mem c = true := by
  constructor
  · intro h
    cases h with
    | set hc hs => exact ⟨rfl, _, hc, hs⟩
  · rintro ⟨rfl, c, hc, hs⟩
    exact .set hc hs

theorem spans_assertion_iff {a : Assertion} :
    Spans t (.assertion a) i j ↔
      j = i ∧ i ≤ t.length ∧ a.holds (charBefore t i) (charAfter t i) = true := by
  constructor
  · intro h
    cases h with
    | assertion hi ha => exact ⟨rfl, hi, ha⟩
  · rintro ⟨rfl, hi, ha⟩
    exact .assertion hi ha

theorem spans_group_iff {n : Nat} : Spans t (.group n p) i j ↔ Spans t p i j := by
  constructor
  · intro h
    cases h with
    | group h => exact h
  · exact .group

theorem spans_concat_iff {q : Pattern} :
    Spans t (.concat p q) i j ↔ ∃ m, Spans t p i m ∧ Spans t q m j := by
  constructor
  · intro h
    cases h with
    | concat hp hq => exact ⟨_, hp, hq⟩
  · rintro ⟨m, hp, hq⟩
    exact .concat hp hq

theorem spans_alternate_iff {q : Pattern} :
    Spans t (.alternate p q) i j ↔ Spans t p i j ∨ Spans t q i j := by
  constructor
  · intro h
    cases h with
    | left h => exact .inl h
    | right h => exact .inr h
  · rintro (h | h)
    · exact .left h
    · exact .right h

/-- A repetition of which one turn more is needed takes that turn first. -/
theorem spans_needed_iff {least : Nat} {more : Option Nat} {greedy : Bool} :
    Spans t (.repeated p (least + 1) more greedy) i j ↔
      ∃ m, Spans t p i m ∧ Spans t (.repeated p least more greedy) m j := by
  constructor
  · intro h
    cases h with
    | needed hp hrest => exact ⟨_, hp, hrest⟩
  · rintro ⟨m, hp, hrest⟩
    exact .needed hp hrest

end Stretches

/-! ## §2 Steps in a row -/

/-- A number of steps of a relation between places, one after the other. -/
def Paths (R : Nat → Nat → Prop) : (steps : Nat) → Nat → Nat → Prop
  | 0, i, k => i = k
  | steps + 1, i, k => ∃ j, R i j ∧ Paths R steps j k

section Paths

variable {R : Nat → Nat → Prop} {i j k n : Nat}

/-- A step may be added at the end. -/
theorem Paths.concat (h : Paths R n i j) (hstep : R j k) : Paths R (n + 1) i k := by
  induction n generalizing i with
  | zero =>
    cases h
    exact ⟨k, hstep, rfl⟩
  | succ n ih =>
    obtain ⟨m, hfirst, hrest⟩ := h
    exact ⟨m, hfirst, ih hrest⟩

/-- The last step may be taken off. -/
theorem Paths.exists_last (h : Paths R (n + 1) i k) : ∃ j, Paths R n i j ∧ R j k := by
  induction n generalizing i with
  | zero =>
    obtain ⟨j, hstep, rfl⟩ := h
    exact ⟨i, rfl, hstep⟩
  | succ n ih =>
    obtain ⟨m, hfirst, hrest⟩ := h
    obtain ⟨j, hinit, hlast⟩ := ih hrest
    exact ⟨j, ⟨m, hfirst, hinit⟩, hlast⟩

/-- Where every step to a member of a list comes from a member, a row of steps does too. -/
theorem Paths.mem_of_closed {L : List Nat} (hL : ∀ k ∈ L, ∀ j, R j k → j ∈ L) (h : Paths R n i k)
    (hk : k ∈ L) : i ∈ L := by
  induction n generalizing i with
  | zero =>
    cases h
    exact hk
  | succ n ih =>
    obtain ⟨j, hstep, hrest⟩ := h
    exact hL j (ih hrest) i hstep

/-- Where no step leads back, steps that stay where they are can be left out, and the others are no
more than there are places to pass. -/
theorem Paths.exists_short (hR : ∀ i j, R i j → i ≤ j) (h : Paths R n i k) :
    i ≤ k ∧ ∃ m, m ≤ n ∧ m ≤ k - i ∧ Paths R m i k := by
  induction n generalizing i with
  | zero =>
    cases h
    exact ⟨Nat.le_refl _, 0, Nat.le_refl _, Nat.zero_le _, rfl⟩
  | succ n ih =>
    obtain ⟨j, hstep, hrest⟩ := h
    obtain ⟨hjk, m, hmn, hmk, hpath⟩ := ih hrest
    have hij := hR i j hstep
    rcases Nat.eq_or_lt_of_le hij with rfl | hlt
    · -- the step stays where it is
      exact ⟨hjk, m, by omega, hmk, hpath⟩
    · exact ⟨by omega, m + 1, by omega, by omega, j, hstep, hpath⟩

end Paths

/-! ## §3 Rounds of a repetition -/

theorem mem_merge_iff {K L : List Nat} {i : Nat} : i ∈ merge K L ↔ i ∈ K ∨ i ∈ L := by
  induction L with
  | nil => simp [merge]
  | cons k L ih =>
    change i ∈ List.insert k (merge K L) ↔ _
    rw [List.mem_insert_iff, ih, List.mem_cons]
    constructor
    · rintro (h | h | h)
      · exact .inr (.inl h)
      · exact .inl h
      · exact .inr (.inr h)
    · rintro (h | h | h)
      · exact .inr (.inl h)
      · exact .inl h
      · exact .inr (.inr h)

/-- What the rounds of a repetition find: the places from which steps lead to what had been reached
before, no more of them than there are rounds. It does not count that a round looks only at what was
new in the one before, since all steps to older places have been taken. -/
theorem mem_spread_iff {step : List Nat → List Nat} {R : Nat → Nat → Prop} {P : Nat → Prop}
    (hstep : ∀ K, (∀ k ∈ K, P k) → ∀ i, i ∈ step K ↔ ∃ k ∈ K, R i k)
    (hP : ∀ i k, R i k → P k → P i) {rounds : Nat} {reached new : List Nat}
    (hreached : ∀ k ∈ reached, P k) (hnew : ∀ k ∈ new, k ∈ reached)
    (hold : ∀ k ∈ reached, k ∉ new → ∀ i, R i k → i ∈ reached) (i : Nat) :
    i ∈ spread step rounds reached new ↔ ∃ n ≤ rounds, ∃ k ∈ reached, Paths R n i k := by
  induction rounds generalizing reached new with
  | zero =>
    constructor
    · intro h
      exact ⟨0, Nat.le_refl _, i, h, rfl⟩
    · rintro ⟨n, hn, k, hk, hpath⟩
      obtain rfl : n = 0 := by omega
      cases hpath
      exact hk
  | succ rounds ih =>
    have hnewP : ∀ k ∈ new, P k := fun k hk => hreached k (hnew k hk)
    -- one step before what has been reached lies what is reached or new
    have hbefore : ∀ k ∈ reached, ∀ j, R j k →
        j ∈ reached ∨ j ∈ (step new).filter (!reached.contains ·) := by
      intro k hk j hjk
      by_cases hj : j ∈ reached
      · exact .inl hj
      by_cases hkn : k ∈ new
      · have hmem : j ∈ step new := (hstep new hnewP j).mpr ⟨k, hkn, hjk⟩
        exact .inr (List.mem_filter.mpr ⟨hmem, by simpa using hj⟩)
      · exact absurd (hold k hk hkn j hjk) hj
    rw [spread]
    cases hfresh : (step new).filter (!reached.contains ·) with
    | nil =>
      -- nothing new: what has been reached is closed under steps
      simp only [hfresh, List.not_mem_nil, or_false] at hbefore
      constructor
      · intro h
        exact ⟨0, Nat.zero_le _, i, h, rfl⟩
      · rintro ⟨n, -, k, hk, hpath⟩
        exact hpath.mem_of_closed hbefore hk
    | cons f fs =>
      rw [hfresh] at hbefore
      have hfreshMem : ∀ j ∈ f :: fs, ∃ k ∈ new, R j k := by
        intro j hj
        rw [← hfresh, List.mem_filter] at hj
        exact (hstep new hnewP j).mp hj.1
      have hfreshP : ∀ j ∈ f :: fs, P j := by
        intro j hj
        obtain ⟨k, hk, hjk⟩ := hfreshMem j hj
        exact hP j k hjk (hnewP k hk)
      have hih := @ih (merge reached (f :: fs)) (f :: fs)
        (by
          intro k hk
          rcases mem_merge_iff.mp hk with hk | hk
          · exact hreached k hk
          · exact hfreshP k hk)
        (fun k hk => mem_merge_iff.mpr (.inr hk))
        (by
          intro k hk hkf j hjk
          rcases mem_merge_iff.mp hk with hk | hk
          · exact mem_merge_iff.mpr (hbefore k hk j hjk)
          · exact absurd hk hkf)
      rw [hih]
      constructor
      · rintro ⟨n, hn, k, hk, hpath⟩
        rcases mem_merge_iff.mp hk with hk | hk
        · exact ⟨n, by omega, k, hk, hpath⟩
        · obtain ⟨k', hk', hstep'⟩ := hfreshMem k hk
          exact ⟨n + 1, by omega, k', hnew k' hk', hpath.concat hstep'⟩
      · rintro ⟨n, hn, k, hk, hpath⟩
        cases n with
        | zero => exact ⟨0, Nat.zero_le _, k, mem_merge_iff.mpr (.inl hk), hpath⟩
        | succ n =>
          obtain ⟨j, hinit, hlast⟩ := hpath.exists_last
          exact ⟨n, by omega, j, mem_merge_iff.mpr (hbefore k hk j hlast), hinit⟩

/-! ## §4 Repetitions -/

section Repetitions

variable {t : List Char} {p : Pattern} {greedy : Bool} {i k : Nat}

/-- A repetition of which nothing is needed any more matches what a number of turns match, as many as
there is room for. -/
theorem spans_repeated_zero_iff {more : Option Nat} :
    Spans t (.repeated p 0 more greedy) i k ↔
      k ≤ t.length ∧ ∃ n, (∀ m, more = some m → n ≤ m) ∧ Paths (Spans t p) n i k := by
  constructor
  · intro h
    generalize hq : Pattern.repeated p 0 more greedy = q at h
    induction h generalizing more with
    | done hi =>
      cases hq
      exact ⟨hi, 0, fun _ _ => Nat.zero_le _, rfl⟩
    | further hp _ _ ih =>
      cases hq
      obtain ⟨hk, n, hn, hpath⟩ := ih rfl
      refine ⟨hk, n + 1, ?_, _, hp, hpath⟩
      intro m hm
      cases hm
      exact Nat.succ_le_succ (hn _ rfl)
    | always hp _ _ ih =>
      cases hq
      obtain ⟨hk, n, -, hpath⟩ := ih rfl
      exact ⟨hk, n + 1, nofun, _, hp, hpath⟩
    | needed => cases hq
    | empty => cases hq
    | set => cases hq
    | assertion => cases hq
    | group => cases hq
    | concat => cases hq
    | left => cases hq
    | right => cases hq
  · rintro ⟨hk, n, hn, hpath⟩
    induction n generalizing i more with
    | zero =>
      cases hpath
      exact .done hk
    | succ n ih =>
      obtain ⟨j, hp, hrest⟩ := hpath
      cases more with
      | none => exact .always hp (ih nofun hrest)
      | some m =>
        obtain ⟨m, rfl⟩ : ∃ m', m = m' + 1 := ⟨m - 1, by have := hn m rfl; omega⟩
        refine .further hp (ih ?_ hrest)
        intro m' hm'
        cases hm'
        exact Nat.le_of_succ_le_succ (hn _ rfl)

/-- The rounds of a repetition are enough for all its turns. -/
theorem spans_repeated_zero_iff_rounds {more : Option Nat} :
    Spans t (.repeated p 0 more greedy) i k ↔
      k ≤ t.length ∧ ∃ n ≤ rounds t.toArray more, Paths (Spans t p) n i k := by
  rw [spans_repeated_zero_iff]
  constructor
  · rintro ⟨hk, n, hn, hpath⟩
    obtain ⟨-, m, hmn, hmk, hshort⟩ := hpath.exists_short fun _ _ h => h.le
    refine ⟨hk, m, ?_, hshort⟩
    cases more with
    | none =>
      simp only [rounds, List.size_toArray]
      omega
    | some most =>
      have := hn most rfl
      simp only [rounds, List.size_toArray]
      omega
  · rintro ⟨hk, n, hn, hpath⟩
    refine ⟨hk, n, ?_, hpath⟩
    intro most hmore
    rw [hmore, rounds] at hn
    omega

end Repetitions

/-! ## §5 Searching -/

/-- The characters around a place are the same in both forms of a text. -/
theorem before?_toArray (t : List Char) (i : Nat) : before? t.toArray i = charBefore t i := by
  cases i <;> simp [before?, charBefore]

/-- From which places the turns of a repetition reach one of the given places, if this is known of each
turn. -/
private theorem mem_starts_repeated_iff {t : List Char} {p : Pattern} {K : List Nat} {least : Nat}
    {more : Option Nat} {greedy : Bool} (hK : ∀ k ∈ K, k ≤ t.length)
    (hturn : ∀ K, (∀ k ∈ K, k ≤ t.length) →
      ∀ i, i ∈ starts t.toArray p K ↔ ∃ k ∈ K, Spans t p i k) (i : Nat) :
    i ∈ starts t.toArray (.repeated p least more greedy) K ↔
      ∃ k ∈ K, Spans t (.repeated p least more greedy) i k := by
  -- by the turns that are needed; the rest of the turns are those of the rounds
  induction least generalizing i with
  | zero =>
    have hspread : i ∈ spread (starts t.toArray p) (rounds t.toArray more) K K ↔
        ∃ n ≤ rounds t.toArray more, ∃ k ∈ K, Paths (Spans t p) n i k :=
      mem_spread_iff hturn (fun i k h _ => h.start_le) hK (fun _ hk => hk)
        (fun _ hk hk' => absurd hk hk') i
    simp only [starts, Nat.repeat, spans_repeated_zero_iff_rounds, hspread]
    constructor
    · rintro ⟨n, hn, k, hk, hpath⟩
      exact ⟨k, hk, hK k hk, n, hn, hpath⟩
    · rintro ⟨k, hk, -, n, hn, hpath⟩
      exact ⟨n, hn, k, hk, hpath⟩
  | succ least ih =>
    have hmid : ∀ m ∈ starts t.toArray (.repeated p least more greedy) K, m ≤ t.length := by
      intro m hm
      obtain ⟨k, -, h⟩ := (ih m).mp hm
      exact h.start_le
    have hfirst := hturn _ hmid i
    simp only [starts, Nat.repeat] at hfirst ih ⊢
    simp only [hfirst, ih, spans_needed_iff]
    constructor
    · rintro ⟨m, ⟨k, hk, hrest⟩, hp⟩
      exact ⟨k, hk, m, hp, hrest⟩
    · rintro ⟨k, hk, m, hp, hrest⟩
      exact ⟨m, ⟨k, hk, hrest⟩, hp⟩

/-- From which places a match reaches one of the given places: from those between which and the
given place the pattern matches. -/
theorem mem_starts_iff {t : List Char} {p : Pattern} {K : List Nat} (hK : ∀ k ∈ K, k ≤ t.length)
    (i : Nat) : i ∈ starts t.toArray p K ↔ ∃ k ∈ K, Spans t p i k := by
  induction p generalizing K i with
  | empty =>
    constructor
    · intro h
      exact ⟨i, h, .empty (hK i h)⟩
    · rintro ⟨k, hk, h⟩
      cases h
      exact hk
  | set s =>
    simp only [starts, List.mem_filterMap, spans_set_iff]
    constructor
    · rintro ⟨k, hk, h⟩
      cases k with
      | zero => cases h
      | succ k =>
        simp only [Option.ite_none_right_eq_some, Option.any_eq_true] at h
        obtain ⟨⟨c, hc, hs⟩, h⟩ := h
        cases h
        exact ⟨i + 1, hk, rfl, c, by simpa using hc, hs⟩
    · rintro ⟨k, hk, rfl, c, hc, hs⟩
      refine ⟨i + 1, hk, ?_⟩
      simp [hc, hs]
  | assertion a =>
    simp only [starts, List.mem_filter, before?_toArray, spans_assertion_iff]
    constructor
    · rintro ⟨hi, ha⟩
      exact ⟨i, hi, rfl, hK i hi, by simpa [charAfter] using ha⟩
    · rintro ⟨k, hk, rfl, -, ha⟩
      exact ⟨hk, by simpa [charAfter] using ha⟩
  | group n p ih =>
    simp only [starts, spans_group_iff]
    exact ih hK i
  | concat p q ihp ihq =>
    have hmid : ∀ m ∈ starts t.toArray q K, m ≤ t.length := by
      intro m hm
      obtain ⟨k, -, h⟩ := (ihq hK m).mp hm
      exact h.start_le
    simp only [starts, ihp hmid i, ihq hK, spans_concat_iff]
    constructor
    · rintro ⟨m, ⟨k, hk, hq⟩, hp⟩
      exact ⟨k, hk, m, hp, hq⟩
    · rintro ⟨k, hk, m, hp, hq⟩
      exact ⟨m, ⟨k, hk, hq⟩, hp⟩
  | alternate p q ihp ihq =>
    simp only [starts, mem_merge_iff, ihp hK i, ihq hK i, spans_alternate_iff]
    constructor
    · rintro (⟨k, hk, h⟩ | ⟨k, hk, h⟩)
      · exact ⟨k, hk, .inl h⟩
      · exact ⟨k, hk, .inr h⟩
    · rintro ⟨k, hk, h | h⟩
      · exact .inl ⟨k, hk, h⟩
      · exact .inr ⟨k, hk, h⟩
  | repeated p least more greedy ih =>
    exact mem_starts_repeated_iff hK (fun K hK i => ih hK i) i

/-- The places of a text are those up to its end. -/
theorem mem_places_iff {t : List Char} {k : Nat} : k ∈ places t.toArray ↔ k ≤ t.length := by
  rw [places, List.mem_range, List.size_toArray, Nat.lt_succ_iff]

/-- A pattern is found in a text exactly when it matches some stretch of it. -/
theorem accepts_iff {p : Pattern} {t : List Char} :
    p.accepts t = true ↔ ∃ i j, Spans t p i j := by
  have hmem := mem_starts_iff (t := t) (p := p) (K := places t.toArray) fun _ => mem_places_iff.mp
  rw [accepts, Bool.not_eq_true', List.isEmpty_eq_false_iff_exists_mem]
  constructor
  · rintro ⟨i, hi⟩
    obtain ⟨j, -, h⟩ := (hmem i).mp hi
    exact ⟨i, j, h⟩
  · rintro ⟨i, j, h⟩
    exact ⟨i, (hmem i).mpr ⟨j, mem_places_iff.mpr h.stop_le, h⟩⟩

end AggregateNaming.Pattern
