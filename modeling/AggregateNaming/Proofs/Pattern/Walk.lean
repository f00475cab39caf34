import AggregateNaming.Pattern.Capture
import AggregateNaming.Proofs.Pattern.Search
import Mathlib.Data.Finset.Card

/-!
# What a walk finds

A walk gives up where it comes to a point of a pattern at a place of the text at which it has been
before. That loses nothing: from wherever the pattern matches, a walk finds a way.

The reason is how long the ways are. Suppose that nothing that is marked has a way of so many steps or
fewer. When the walk comes to a point for the first time and there is a way from there, the shortest
one goes on to points with still shorter ways, which are therefore not marked or found to have none.
So a walk that fails leaves marks without ways, and began where there was none.

## Main definitions

- `SpansIn` : a pattern matches a stretch of a text, in a number of steps.
- `Rest` : from which places on there are ways of how many steps.
- `ahead` : what is left to be matched at each point of a pattern.
- `Complete` : an attempt fails only if there is no way.

## Main statements

- `Complete.visit_mark`, `Complete.turns` : attempts at points that are come to only once.
- `leads_walk` : a walk through a pattern fails only where there is no way through it.
- `isSome_find_iff` : a pattern has a preferred match exactly when it matches some stretch.
-/

namespace AggregateNaming.Pattern

/-! ## §1 Marks -/

namespace Marks

variable {M M' M'' : Marks} {point place q j : Nat}

/-- A walk has come to a point of a pattern at a place of the text. -/
def Has (M : Marks) (point place : Nat) : Prop := point ∈ M.getD place []

instance : Decidable (Has M point place) := inferInstanceAs (Decidable (point ∈ M.getD place []))

/-- No mark is missing. -/
structure Le (M M' : Marks) : Prop where
  size_eq : M'.size = M.size
  has : ∀ point place, Has M point place → Has M' point place

theorem Le.refl (M : Marks) : Le M M := ⟨rfl, fun _ _ h => h⟩

theorem Le.trans (h : Le M M') (h' : Le M' M'') : Le M M'' :=
  ⟨h'.size_eq.trans h.size_eq, fun q j hq => h'.has q j (h.has q j hq)⟩

theorem not_has_replicate (size point place : Nat) : ¬Has (.replicate size []) point place := by
  rw [Has, Array.getD_eq_getD_getElem?, Array.getElem?_replicate]
  split <;> simp

/-- Marks a point at a place. -/
def mark (M : Marks) (point place : Nat) : Marks := M.modify place (point :: ·)

theorem has_mark_iff :
    Has (mark M point place) q j ↔ Has M q j ∨ (q = point ∧ j = place ∧ place < M.size) := by
  simp only [Has, mark, Array.getD_eq_getD_getElem?, Array.getElem?_modify]
  by_cases hj : place = j
  · subst hj
    by_cases hsize : place < M.size
    · simp [hsize, or_comm]
    · simp [hsize]
  · simp [hj, Ne.symm hj]

theorem le_mark (M : Marks) (point place : Nat) : Le M (mark M point place) :=
  ⟨Array.size_modify, fun _ _ h => has_mark_iff.mpr (.inl h)⟩

/-- The places at which a point has not been come to. -/
def unvisited (M : Marks) (point : Nat) : Finset Nat :=
  (Finset.range M.size).filter fun place => ¬Has M point place

theorem card_unvisited_le_size (M : Marks) (point : Nat) : (unvisited M point).card ≤ M.size := by
  calc (unvisited M point).card ≤ (Finset.range M.size).card := Finset.card_filter_le _ _
    _ = M.size := Finset.card_range _

theorem card_unvisited_le (h : Le M M') (point : Nat) :
    (unvisited M' point).card ≤ (unvisited M point).card := by
  apply Finset.card_le_card
  intro place hplace
  rw [unvisited, Finset.mem_filter, h.size_eq] at hplace
  rw [unvisited, Finset.mem_filter]
  exact hplace.imp_right fun hnew hold => hnew (h.has point place hold)

/-- A point that is marked for the first time has one place less to be come to at. -/
theorem card_unvisited_mark_lt (hplace : place < M.size) (hnew : ¬Has M point place) :
    (unvisited (mark M point place) point).card < (unvisited M point).card := by
  apply Finset.card_lt_card
  rw [Finset.ssubset_iff_of_subset]
  · refine ⟨place, ?_, ?_⟩
    · simp [unvisited, hplace, hnew]
    · simp [unvisited, has_mark_iff, hplace]
  · intro j hj
    rw [unvisited, Finset.mem_filter, (le_mark M point place).size_eq] at hj
    rw [unvisited, Finset.mem_filter]
    exact hj.imp_right fun hout hin => hout (has_mark_iff.mpr (.inl hin))

end Marks

/-! ## §2 Ways -/

/-- As `Spans`, with the number of steps that a walk needs at most. It does not matter how many they
are, only that there are fewer left at each point that the walk comes to. -/
inductive SpansIn (t : List Char) : Pattern → (steps : Nat) → Nat → Nat → Prop where
  | empty : i ≤ t.length → SpansIn t .empty 0 i i
  | set : t[i]? = some c → s.mem c = true → SpansIn t (.set s) 0 i (i + 1)
  | assertion : i ≤ t.length → a.holds (charBefore t i) (charAfter t i) = true →
      SpansIn t (.assertion a) 0 i i
  | group : SpansIn t p n i j → SpansIn t (.group g p) (n + 1) i j
  | concat : SpansIn t p n i j → SpansIn t q m j k → SpansIn t (.concat p q) (n + m) i k
  | left : SpansIn t p n i j → SpansIn t (.alternate p q) (n + 1) i j
  | right : SpansIn t q n i j → SpansIn t (.alternate p q) (n + 1) i j
  | done : i ≤ t.length → SpansIn t (.repeated p 0 more greedy) 2 i i
  | needed : SpansIn t p n i j → SpansIn t (.repeated p least more greedy) m j k →
      SpansIn t (.repeated p (least + 1) more greedy) (n + m + 2) i k
  | further : SpansIn t p n i j → SpansIn t (.repeated p 0 (some room) greedy) m j k →
      SpansIn t (.repeated p 0 (some (room + 1)) greedy) (n + m + 2) i k
  | always : SpansIn t p n i j → SpansIn t (.repeated p 0 none greedy) m j k →
      SpansIn t (.repeated p 0 none greedy) (n + m + 2) i k

section Ways

variable {t : List Char} {p : Pattern} {i j n : Nat}

theorem Spans.exists_spansIn (h : Spans t p i j) : ∃ n, SpansIn t p n i j := by
  induction h with
  | empty hi => exact ⟨_, .empty hi⟩
  | set hc hs => exact ⟨_, .set hc hs⟩
  | assertion hi ha => exact ⟨_, .assertion hi ha⟩
  | group _ ih =>
    obtain ⟨n, h⟩ := ih
    exact ⟨_, .group h⟩
  | concat _ _ ihp ihq =>
    obtain ⟨n, hp⟩ := ihp
    obtain ⟨m, hq⟩ := ihq
    exact ⟨_, .concat hp hq⟩
  | left _ ih =>
    obtain ⟨n, h⟩ := ih
    exact ⟨_, .left h⟩
  | right _ ih =>
    obtain ⟨n, h⟩ := ih
    exact ⟨_, .right h⟩
  | done hi => exact ⟨_, .done hi⟩
  | needed _ _ ihp ihrest =>
    obtain ⟨n, hp⟩ := ihp
    obtain ⟨m, hrest⟩ := ihrest
    exact ⟨_, .needed hp hrest⟩
  | further _ _ ihp ihrest =>
    obtain ⟨n, hp⟩ := ihp
    obtain ⟨m, hrest⟩ := ihrest
    exact ⟨_, .further hp hrest⟩
  | always _ _ ihp ihrest =>
    obtain ⟨n, hp⟩ := ihp
    obtain ⟨m, hrest⟩ := ihrest
    exact ⟨_, .always hp hrest⟩

/-- A repetition takes two steps at least. -/
theorem SpansIn.two_le {least : Nat} {more : Option Nat} {greedy : Bool}
    (h : SpansIn t (.repeated p least more greedy) n i j) : 2 ≤ n := by
  cases h <;> omega

end Ways

/-- From which places on there are ways to the end of a match, and of how many steps. -/
abbrev Rest := Nat → Nat → Prop

/-- Ways that lead through a pattern first. -/
def Rest.through (t : List Char) (p : Pattern) (after : Rest) : Rest := fun i n =>
  ∃ j m k, SpansIn t p m i j ∧ after j k ∧ n = m + k

/-- Ways from before a turn of a repetition on, of which the turns are counted from 0. One step has
been taken to come to the repetition. -/
def Rest.fromTurn (t : List Char) (p : Pattern) (least : Nat) (more : Option Nat) (greedy : Bool)
    (after : Rest) (c : Nat) : Rest := fun i n =>
  after.through t (.repeated p (least - c) (more.map (· - (c - least))) greedy) i (n + 1)

/-! ## §3 Attempts -/

/-- Nothing that is marked has a way of so many steps or fewer. -/
def Barren (live : Nat → Rest) (n : Nat) (M : Marks) : Prop :=
  ∀ point place, M.Has point place → ∀ k ≤ n, ¬live point place k

/-- A condition on marks that stays met when there are more of them. -/
def Lasting (pre : Marks → Prop) : Prop := ∀ M M', Marks.Le M M' → pre M → pre M'

/-- An attempt fails only if there is no way, of whatever number of steps: nothing that is marked has
one after it either. -/
def Complete (live : Nat → Rest) (pre : Marks → Prop) (ways : Nat → Prop) (a : Attempt) : Prop :=
  ∀ n M M', pre M → Barren live n M → a M = (none, M') →
    Marks.Le M M' ∧ Barren live n M' ∧ ∀ k ≤ n, ¬ways k

namespace Complete

variable {live : Nat → Rest} {pre pre' : Marks → Prop} {ways ways' : Nat → Prop} {a b : Attempt}

theorem fail (hways : ∀ n, ¬ways n) : Complete live pre ways .fail := by
  intro n M M' _ hbarren h
  cases h
  exact ⟨.refl M, hbarren, fun k _ => hways k⟩

/-- The end of a match. -/
theorem succeed (w : Way) : Complete live pre ways fun M => (some w, M) := by
  intro n M M' _ _ h
  cases h

theorem weaken (ha : Complete live pre ways a) (hpre : ∀ M, pre' M → pre M)
    (hways : ∀ n, ways' n → ∃ k ≤ n, ways k) : Complete live pre' ways' a := by
  intro n M M' hM hbarren h
  obtain ⟨hle, hbarren', hnone⟩ := ha n M M' (hpre M hM) hbarren h
  refine ⟨hle, hbarren', fun k hk hway => ?_⟩
  obtain ⟨k', hk', hway'⟩ := hways k hway
  exact hnone k' (Nat.le_trans hk' hk) hway'

theorem after (s : GroupSpan) (ha : Complete live pre ways a) :
    Complete live pre ways (.after s a) := by
  intro n M M' hM hbarren h
  apply ha n M M' hM hbarren
  unfold Attempt.after at h
  split at h
  · cases h
  · exact h

theorem orElse (ha : Complete live pre ways a) (hpre : Lasting pre)
    (hb : Complete live pre ways' b) :
    Complete live pre (fun n => ways n ∨ ways' n) (a.orElse b) := by
  intro n M M' hM hbarren h
  unfold Attempt.orElse at h
  split at h
  next M₁ hfirst =>
    -- the second attempt begins with what the first has marked
    obtain ⟨hle, hbarren₁, hnone⟩ := ha n M M₁ hM hbarren hfirst
    obtain ⟨hle', hbarren', hnone'⟩ := hb n M₁ M' (hpre M M₁ hle hM) hbarren₁ h
    exact ⟨hle.trans hle', hbarren', fun k hk => not_or.mpr ⟨hnone k hk, hnone' k hk⟩⟩
  next hdone => exact absurd h (hdone M')

theorem prefer (greedy : Bool) (hpre : Lasting pre) (ha : Complete live pre ways a)
    (hb : Complete live pre ways' b) :
    Complete live pre (fun n => ways n ∨ ways' n) (.prefer greedy a b) := by
  cases greedy with
  | true => exact ha.orElse hpre hb
  | false => exact (hb.orElse hpre ha).weaken (fun _ h => h) fun n h => ⟨n, Nat.le_refl n, h.symm⟩

/-- An attempt at a point that is come to at a place only once. What is ahead there is ahead of the
attempt too, in fewer steps. -/
theorem visit_mark {point place : Nat} {rest : Rest} (ha : Complete live pre' ways a)
    (hpre : ∀ M, pre M → ¬M.Has point place → pre' (M.mark point place))
    (hlive : live point = rest) (hrest : ∀ n, rest place n → ∃ k < n, ways k) :
    Complete live pre (rest place) (.visit point place a) := by
  subst hlive
  intro n M M' hM hbarren h
  unfold Attempt.visit at h
  by_cases hhas : M.Has point place
  · -- the walk has been here, and nothing that is marked has a way
    rw [if_pos (List.contains_iff_mem.mpr hhas)] at h
    cases h
    exact ⟨.refl M, hbarren, hbarren point place hhas⟩
  rw [if_neg (mt List.contains_iff_mem.mp hhas)] at h
  -- the marks are without ways of so few steps, whatever there is ahead of the new one
  have hmark : ∀ k ≤ n, (∀ k' ≤ k, ¬live point place k') → Barren live k (M.mark point place) := by
    intro k hk hnone q j hq k' hk'
    rcases Marks.has_mark_iff.mp hq with hold | ⟨rfl, rfl, -⟩
    · exact hbarren q j hold k' (Nat.le_trans hk' hk)
    · exact hnone k' hk'
  -- so there is no way from there, by induction on the number of its steps
  have hnone : ∀ k ≤ n, ¬live point place k := by
    intro k
    induction k using Nat.strong_induction_on with
    | _ k ih =>
      intro hk hway
      obtain ⟨k', hk', hway'⟩ := hrest k hway
      have hbarren' := hmark k' (by omega) fun m hm => ih m (by omega) (by omega)
      exact (ha k' _ M' (hpre M hM hhas) hbarren' h).2.2 k' (Nat.le_refl k') hway'
  obtain ⟨hle, hbarren', -⟩ := ha n _ M' (hpre M hM hhas) (hmark n (Nat.le_refl n) hnone) h
  exact ⟨(Marks.le_mark M point place).trans hle, hbarren', hnone⟩

/-- The same where a mark more makes no difference to the attempt. -/
theorem visit {point place : Nat} {rest : Rest} (ha : Complete live pre ways a) (hpre : Lasting pre)
    (hlive : live point = rest) (hrest : ∀ n, rest place n → ∃ k < n, ways k) :
    Complete live pre (rest place) (.visit point place a) :=
  ha.visit_mark (fun M hM _ => hpre M _ (Marks.le_mark M point place) hM) hlive hrest

end Complete

/-! ## §4 Repetitions -/

namespace Rest

variable {t : List Char} {p : Pattern} {least : Nat} {more : Option Nat} {greedy : Bool} {after : Rest}
  {c i n : Nat}

/-- A repetition begins with its first turn. -/
theorem exists_fromTurn_zero (h : after.through t (.repeated p least more greedy) i n) :
    ∃ k < n, after.fromTurn t p least more greedy 0 i k := by
  obtain ⟨j, m, k, hspan, hk, rfl⟩ := h
  have htwo := hspan.two_le
  refine ⟨m + k - 1, by omega, j, m, k, ?_, hk, by omega⟩
  cases more <;> simpa using hspan

/-- Ways through the pattern to the next turn. -/
private theorem through_fromTurn {n₁ n₂ j j' k : Nat} (hp : SpansIn t p n₁ i j)
    (hrest : SpansIn t (.repeated p (least - c) (more.map (· - (c - least))) greedy) n₂ j j')
    (hk : after j' k) :
    (after.fromTurn t p least more greedy c).through t p i (n₁ + (n₂ + k - 1)) := by
  have htwo := hrest.two_le
  exact ⟨j, n₁, n₂ + k - 1, hp, ⟨j', n₂, k, hrest, hk, by omega⟩, rfl⟩

/-- A turn that is needed leads through the pattern. -/
theorem exists_through_of_needed (hc : c < least)
    (h : after.fromTurn t p least more greedy c i n) :
    ∃ k ≤ n, (after.fromTurn t p least more greedy (c + 1)).through t p i k := by
  obtain ⟨j, m, k, hspan, hk, hn⟩ := h
  have hleft : least - c = least - (c + 1) + 1 := by omega
  have hmore : c - least = c + 1 - least := by omega
  rw [hleft, hmore] at hspan
  cases hspan with
  | needed hp hrest => exact ⟨_, by omega, through_fromTurn hp hrest hk⟩

/-- A turn that is not needed leads through the pattern or to the end. -/
theorem exists_through_or (hc : least ≤ c) (hroom : ∀ m, more = some m → c < least + m)
    (h : after.fromTurn t p least more greedy c i n) :
    ∃ k < n, (after.fromTurn t p least more greedy (c + 1)).through t p i k ∨ after i k := by
  obtain ⟨j, m, k, hspan, hk, hn⟩ := h
  have hleft : least - c = 0 := by omega
  have hleft' : least - (c + 1) = 0 := by omega
  rw [hleft] at hspan
  cases more with
  | none =>
    cases hspan with
    | done => exact ⟨k, by omega, .inr hk⟩
    | always hp hrest =>
      rw [← hleft'] at hrest
      exact ⟨_, by omega, .inl (through_fromTurn hp hrest hk)⟩
  | some most =>
    have hmost := hroom most rfl
    have hmore : most - (c - least) = most - (c + 1 - least) + 1 := by omega
    rw [Option.map_some, hmore] at hspan
    cases hspan with
    | done => exact ⟨k, by omega, .inr hk⟩
    | further hp hrest =>
      rw [← hleft'] at hrest
      exact ⟨_, by omega, .inl (through_fromTurn hp hrest hk)⟩

/-- Behind the last turn of a bounded repetition there is only the end. -/
theorem exists_after_of_last {most : Nat}
    (h : after.fromTurn t p least (some most) greedy (least + most) i n) : ∃ k ≤ n, after i k := by
  obtain ⟨j, m, k, hspan, hk, hn⟩ := h
  have hzero : least - (least + most) = 0 := by omega
  have hleft : most - (least + most - least) = 0 := by omega
  rw [hzero, Option.map_some, hleft] at hspan
  cases hspan with
  | done => exact ⟨k, by omega, hk⟩

/-- Where a repetition has no bound, all turns that are not needed are alike. -/
theorem fromTurn_none (hc : least ≤ c) :
    after.fromTurn t p least none greedy c = after.fromTurn t p 0 none greedy 0 := by
  unfold fromTurn
  rw [Nat.sub_eq_zero_of_le hc]
  rfl

end Rest

/-- An attempt leads through a pattern: it is complete if what it goes on with is. -/
def Leads (live : Nat → Rest) (pre : Marks → Prop) (t : List Char) (p : Pattern) (after : Rest)
    (a : (next : Nat → Attempt) → Nat → Attempt) : Prop :=
  ∀ next, (∀ j ≤ t.length, Complete live pre (after j) (next j)) →
    ∀ i ≤ t.length, Complete live pre (after.through t p i) (a next i)

namespace Complete

variable {live : Nat → Rest} {pre : Marks → Prop} {t : List Char} {p : Pattern} {after : Rest}
  {body : Nat → (Nat → Attempt) → Nat → Attempt} {next : Nat → Attempt}

/-- Turns that are needed. -/
theorem needed (turn : Nat → Rest) (count c : Nat)
    (hbody : ∀ d, c ≤ d → d < c + count → Leads live pre t p (turn (d + 1)) (body d))
    (hturn : ∀ d, c ≤ d → d < c + count →
      ∀ i n, turn d i n → ∃ k ≤ n, (turn (d + 1)).through t p i k)
    (hnext : ∀ j ≤ t.length, Complete live pre (turn (c + count) j) (next j)) :
    ∀ i ≤ t.length, Complete live pre (turn c i) (Pattern.needed body count c next i) := by
  induction count generalizing c with
  | zero => exact hnext
  | succ count ih =>
    intro i hi
    have hrest := ih (c + 1) (fun d hd hd' => hbody d (by omega) (by omega))
      (fun d hd hd' => hturn d (by omega) (by omega))
      (by rwa [show c + 1 + count = c + (count + 1) by omega])
    exact (hbody c (Nat.le_refl c) (by omega) _ hrest i hi).weaken (fun _ h => h)
      fun n hn => hturn c (Nat.le_refl c) (by omega) i n hn

/-- A number of turns at most, each at a point of its own. -/
theorem atMost {point : Nat → Nat} (turn : Nat → Rest) (greedy : Bool) (count c : Nat)
    (hpre : Lasting pre)
    (hlive : ∀ d, c ≤ d → d < c + count → live (point d) = turn d)
    (hbody : ∀ d, c ≤ d → d < c + count → Leads live pre t p (turn (d + 1)) (body d))
    (hturn : ∀ d, c ≤ d → d < c + count →
      ∀ i n, turn d i n → ∃ k < n, (turn (d + 1)).through t p i k ∨ after i k)
    (hlast : ∀ i n, turn (c + count) i n → ∃ k ≤ n, after i k)
    (hnext : ∀ j ≤ t.length, Complete live pre (after j) (next j)) :
    ∀ i ≤ t.length,
      Complete live pre (turn c i) (Pattern.atMost body point greedy count c next i) := by
  induction count generalizing c with
  | zero =>
    intro i hi
    exact (hnext i hi).weaken (fun _ h => h) (hlast i)
  | succ count ih =>
    intro i hi
    have hrest := ih (c + 1) (fun d hd hd' => hlive d (by omega) (by omega))
      (fun d hd hd' => hbody d (by omega) (by omega))
      (fun d hd hd' => hturn d (by omega) (by omega))
      (by rwa [show c + 1 + count = c + (count + 1) by omega])
    have hon := hbody c (Nat.le_refl c) (by omega) _ hrest i hi
    apply (prefer greedy hpre hon (hnext i hi)).visit hpre
    · exact hlive c (Nat.le_refl c) (by omega)
    · exact hturn c (Nat.le_refl c) (by omega) i

/-- Any number of turns, with fuel for all places at which the point before them has not been come
to. -/
theorem turns {point : Nat} {body : (Nat → Attempt) → Nat → Attempt} {turn : Rest} (greedy : Bool)
    (hpre : Lasting pre) (hsize : ∀ M, pre M → M.size = t.length + 1) (hlive : live point = turn)
    (hbody : ∀ pre', Lasting pre' → (∀ M, pre' M → pre M) → Leads live pre' t p turn body)
    (hturn : ∀ i n, turn i n → ∃ k < n, turn.through t p i k ∨ after i k)
    (hnext : ∀ j ≤ t.length, Complete live pre (after j) (next j)) (fuel : Nat) :
    ∀ i ≤ t.length, Complete live (fun M => pre M ∧ (M.unvisited point).card ≤ fuel) (turn i)
      (Pattern.turns body point greedy next fuel i) := by
  induction fuel with
  | zero =>
    -- the point has been come to at all places
    intro i hi n M M' hM hbarren h
    cases h
    have hhas : M.Has point i := by
      by_contra hnew
      have hmem : i ∈ M.unvisited point := by
        rw [Marks.unvisited, Finset.mem_filter, Finset.mem_range, hsize M hM.1]
        exact ⟨by omega, hnew⟩
      have hnone := Finset.card_eq_zero.mp (Nat.le_zero.mp hM.2)
      rw [hnone] at hmem
      exact absurd hmem (Finset.notMem_empty i)
    exact ⟨.refl M, hbarren, hlive ▸ hbarren point i hhas⟩
  | succ fuel ih =>
    intro i hi
    -- marking the point leaves one place less for it
    have hroom : Lasting fun M => pre M ∧ (M.unvisited point).card ≤ fuel := fun M M' hle hM =>
      ⟨hpre M M' hle hM.1, Nat.le_trans (Marks.card_unvisited_le hle point) hM.2⟩
    have hon := hbody _ hroom (fun _ hM => hM.1) _ ih i hi
    have hoff : Complete live (fun M => pre M ∧ (M.unvisited point).card ≤ fuel) (after i) (next i) :=
      (hnext i hi).weaken (fun _ hM => hM.1) fun n hn => ⟨n, Nat.le_refl n, hn⟩
    apply (prefer greedy hroom hon hoff).visit_mark ?_ hlive (hturn i)
    intro M hM hnew
    have hlt := Marks.card_unvisited_mark_lt (by rw [hsize M hM.1]; omega) hnew
    exact ⟨hpre M _ (Marks.le_mark M point i) hM.1, by omega⟩

end Complete

/-! ## §5 Walks -/

/-- What is ahead at each point of a pattern, of which the points are counted from 0. -/
def ahead (t : List Char) : Pattern → (after : Rest) → (point : Nat) → Rest
  | .empty, _ | .set _, _ | .assertion _, _ => fun _ _ _ => False
  | .group n p, after => fun
    | 0 => after.through t (.group n p)
    | point + 1 => ahead t p after point
  | .concat p q, after => fun
    | 0 => fun _ _ => False
    | point + 1 =>
      if point < p.points then ahead t p (after.through t q) point
      else ahead t q after (point - p.points)
  | .alternate p q, after => fun
    | 0 => after.through t (.alternate p q)
    | point + 1 =>
      if point < p.points then ahead t p after point else ahead t q after (point - p.points)
  | .repeated p least more greedy, after => fun
    | 0 => after.through t (.repeated p least more greedy)
    | 1 => after.fromTurn t p least more greedy least
    | point + 2 =>
      let c := point / (1 + p.points)
      match point % (1 + p.points) with
      | 0 => after.fromTurn t p least more greedy c
      | point + 1 => ahead t p (after.fromTurn t p least more greedy (c + 1)) point

/-- The points of a pattern have the numbers from `point` on. -/
def Numbered (live : Nat → Rest) (t : List Char) (p : Pattern) (after : Rest) (point : Nat) : Prop :=
  ∀ q < p.points, live (point + q) = ahead t p after q

namespace Numbered

variable {live : Nat → Rest} {t : List Char} {p q : Pattern} {after : Rest} {point : Nat}

theorem of_group {n : Nat} (h : Numbered live t (.group n p) after point) :
    live point = after.through t (.group n p) ∧ Numbered live t p after (point + 1) := by
  constructor
  · exact h 0 (by simp only [points]; omega)
  · intro r hr
    rw [Nat.add_assoc, Nat.add_comm 1 r]
    exact h (r + 1) (by simp only [points]; omega)

theorem of_concat (h : Numbered live t (.concat p q) after point) :
    Numbered live t p (after.through t q) (point + 1) ∧
      Numbered live t q after (point + 1 + p.points) := by
  constructor
  · intro r hr
    have hpoint := h (r + 1) (by simp only [points]; omega)
    rw [ahead] at hpoint
    rw [Nat.add_assoc, Nat.add_comm 1 r, hpoint]
    exact if_pos hr
  · intro r hr
    have hpoint := h (p.points + r + 1) (by simp only [points]; omega)
    have hsub : p.points + r - p.points = r := by omega
    rw [show point + 1 + p.points + r = point + (p.points + r + 1) by omega, hpoint]
    simp [ahead]

theorem of_alternate (h : Numbered live t (.alternate p q) after point) :
    live point = after.through t (.alternate p q) ∧ Numbered live t p after (point + 1) ∧
      Numbered live t q after (point + 1 + p.points) := by
  refine ⟨h 0 (by simp only [points]; omega), ?_, ?_⟩
  · intro r hr
    have hpoint := h (r + 1) (by simp only [points]; omega)
    rw [show point + 1 + r = point + (r + 1) by omega, hpoint]
    exact if_pos hr
  · intro r hr
    have hpoint := h (p.points + r + 1) (by simp only [points]; omega)
    rw [show point + 1 + p.points + r = point + (p.points + r + 1) by omega, hpoint]
    simp [ahead]

/-- The points of a repetition: its own, the one before turns that are not counted, and those of the
turns that are. -/
theorem of_repeated {least : Nat} {more : Option Nat} {greedy : Bool}
    (h : Numbered live t (.repeated p least more greedy) after point) :
    live point = after.through t (.repeated p least more greedy) ∧
      live (point + 1) = after.fromTurn t p least more greedy least ∧
      ∀ c < least + more.getD 1,
        live (point + 2 + c * (1 + p.points)) = after.fromTurn t p least more greedy c ∧
          Numbered live t p (after.fromTurn t p least more greedy (c + 1))
            (point + 2 + c * (1 + p.points) + 1) := by
  refine ⟨h 0 (by simp only [points]; omega), h 1 (by simp only [points]; omega), fun c hc => ?_⟩
  -- the turns before, and this one, fit in
  have hfits : c * (1 + p.points) + (1 + p.points) ≤ (least + more.getD 1) * (1 + p.points) := by
    rw [← Nat.succ_mul]
    exact Nat.mul_le_mul_right _ hc
  have hat : ∀ r < 1 + p.points, live (point + 2 + c * (1 + p.points) + r) =
      ahead t (.repeated p least more greedy) after (c * (1 + p.points) + r + 2) := by
    intro r hr
    rw [← h (c * (1 + p.points) + r + 2) (by simp only [points]; omega)]
    exact congrArg live (by omega)
  constructor
  · have hpoint := hat 0 (by omega)
    simp only [ahead, Nat.add_zero, Nat.mul_div_cancel c (show 0 < 1 + p.points by omega),
      Nat.mul_mod_left] at hpoint
    exact hpoint
  · intro r hr
    have hpoint := hat (r + 1) (by omega)
    have hdiv : (c * (1 + p.points) + (r + 1)) / (1 + p.points) = c := by
      rw [Nat.mul_comm, Nat.mul_add_div (by omega), Nat.div_eq_of_lt (by omega), Nat.add_zero]
    have hmod : (c * (1 + p.points) + (r + 1)) % (1 + p.points) = r + 1 := by
      rw [Nat.mul_comm, Nat.mul_add_mod, Nat.mod_eq_of_lt (by omega)]
    simp only [ahead, hdiv, hmod] at hpoint
    rw [Nat.add_assoc, Nat.add_comm 1 r]
    exact hpoint

end Numbered

namespace Complete

variable {live : Nat → Rest} {pre : Marks → Prop} {t : List Char} {p : Pattern} {after : Rest}
  {least : Nat} {greedy : Bool} {body : Nat → (Nat → Attempt) → Nat → Attempt}
  {next : Nat → Attempt}

/-- The turns of a bounded repetition. -/
theorem bounded {most : Nat} {point : Nat → Nat} (hpre : Lasting pre)
    (hlive : ∀ c < least + most, live (point c) = after.fromTurn t p least (some most) greedy c)
    (hbody : ∀ c < least + most,
      Leads live pre t p (after.fromTurn t p least (some most) greedy (c + 1)) (body c))
    (hnext : ∀ j ≤ t.length, Complete live pre (after j) (next j)) :
    ∀ i ≤ t.length, Complete live pre (after.fromTurn t p least (some most) greedy 0 i)
      (Pattern.needed body least 0 (Pattern.atMost body point greedy most least next) i) := by
  apply needed (p := p) (after.fromTurn t p least (some most) greedy) least 0
  · exact fun c _ hc => hbody c (by omega)
  · exact fun c _ hc i n hn => Rest.exists_through_of_needed (by omega) hn
  · rw [Nat.zero_add]
    apply atMost (p := p) (after.fromTurn t p least (some most) greedy) greedy most least hpre
    · exact fun c _ hc => hlive c hc
    · exact fun c _ hc => hbody c hc
    · intro c hle hc i n hn
      apply Rest.exists_through_or hle ?_ hn
      intro m hm
      cases hm
      exact hc
    · exact fun i n => Rest.exists_after_of_last
    · exact hnext

/-- The turns of an unbounded repetition that are not needed. -/
theorem unbounded {point : Nat} (hpre : Lasting pre) (hsize : ∀ M, pre M → M.size = t.length + 1)
    (hlive : live point = after.fromTurn t p least none greedy least)
    (hbody : ∀ pre', Lasting pre' → (∀ M, pre' M → pre M) → ∀ c < least + 1,
      Leads live pre' t p (after.fromTurn t p least none greedy (c + 1)) (body c))
    (hnext : ∀ j ≤ t.length, Complete live pre (after j) (next j)) :
    ∀ i ≤ t.length, Complete live pre (after.fromTurn t p least none greedy least i)
      (Pattern.turns (body (least - 1)) point greedy next (t.length + 2) i) := by
  intro i hi
  have hlater : after.fromTurn t p least none greedy (least - 1 + 1) =
      after.fromTurn t p least none greedy least := by
    rw [Rest.fromTurn_none (by omega), Rest.fromTurn_none (Nat.le_refl least)]
  have hleads : ∀ pre', Lasting pre' → (∀ M, pre' M → pre M) →
      Leads live pre' t p (after.fromTurn t p least none greedy least) (body (least - 1)) := by
    intro pre' hpre' hle
    rw [← hlater]
    exact hbody pre' hpre' hle (least - 1) (by omega)
  have hturn : ∀ i n, after.fromTurn t p least none greedy least i n →
      ∃ k < n, (after.fromTurn t p least none greedy least).through t p i k ∨ after i k := by
    intro i n hn
    have hway := Rest.exists_through_or (Nat.le_refl least) (by simp) hn
    rwa [Rest.fromTurn_none (Nat.le_succ least), ← Rest.fromTurn_none (Nat.le_refl least)] at hway
  apply (turns greedy hpre hsize hlive hleads hturn hnext (t.length + 2) i hi).weaken
  · intro M hM
    have hcard := Marks.card_unvisited_le_size M point
    rw [hsize M hM] at hcard
    exact ⟨hM, Nat.le_succ_of_le hcard⟩
  · exact fun n hn => ⟨n, Nat.le_refl n, hn⟩

end Complete

/-- A walk through a repetition, if walks through each of its turns are complete. -/
theorem leads_repeated {live : Nat → Rest} {t : List Char} {p : Pattern} {after : Rest}
    {point least : Nat} {more : Option Nat} {greedy : Bool} {pre : Marks → Prop} (hpre : Lasting pre)
    (hsize : ∀ M, pre M → M.size = t.length + 1)
    (hpoints : Numbered live t (.repeated p least more greedy) after point)
    (hbody : ∀ pre', Lasting pre' → (∀ M, pre' M → pre M) → ∀ c < least + more.getD 1,
      Leads live pre' t p (after.fromTurn t p least more greedy (c + 1))
        (walk t.toArray p (point + 2 + c * (1 + p.points) + 1))) :
    Leads live pre t (.repeated p least more greedy) after
      (walk t.toArray (.repeated p least more greedy) point) := by
  intro next hnext i hi
  obtain ⟨hpoint, hturns, hturn⟩ := hpoints.of_repeated
  have hkeep := hbody pre hpre fun _ h => h
  -- the point of the repetition itself is before its first turn
  have hvisit : ∀ a, Complete live pre (after.fromTurn t p least more greedy 0 i) a →
      Complete live pre (after.through t (.repeated p least more greedy) i) (.visit point i a) :=
    fun a ha => ha.visit hpre hpoint fun n => Rest.exists_fromTurn_zero
  cases more with
  | some most =>
    have hwalk := Complete.bounded hpre (fun c hc => (hturn c hc).1) hkeep hnext i hi
    cases least <;> exact hvisit _ hwalk
  | none =>
    have hall := Complete.unbounded hpre hsize hturns hbody hnext
    cases least with
    | zero =>
      change Complete live pre _ (.visit point i (if p.mayBeEmpty then _ else _))
      apply hvisit
      split
      next =>
        -- the first turn is tried before the point at which no turn is taken twice
        have hfirst := hkeep 0 (by simp) _ hall i hi
        apply (Complete.prefer greedy hpre hfirst (hnext i hi)).weaken fun _ h => h
        intro n hn
        obtain ⟨k, hk, hway⟩ := Rest.exists_through_or (Nat.le_refl 0) (by simp) hn
        exact ⟨k, by omega, hway⟩
      next => exact hall i hi
    | succ least =>
      apply hvisit
      refine Complete.needed (p := p) (after.fromTurn t p (least + 1) none greedy) (least + 1) 0
        (fun c _ hc => ?_) (fun c _ hc => ?_) ?_ i hi
      · exact hkeep c (by simp; omega)
      · exact fun i n hn => Rest.exists_through_of_needed (by omega) hn
      · rw [Nat.zero_add]
        exact hall

/-- A walk through a pattern fails only where there is no way through it. -/
theorem leads_walk {live : Nat → Rest} {t : List Char} {p : Pattern} {after : Rest} {point : Nat}
    {pre : Marks → Prop} (hpre : Lasting pre) (hsize : ∀ M, pre M → M.size = t.length + 1)
    (hpoints : Numbered live t p after point) :
    Leads live pre t p after (walk t.toArray p point) := by
  induction p generalizing after point pre with
  | empty =>
    -- no point is come to, and the ways are those of what comes next
    intro next hnext i hi
    apply (hnext i hi).weaken fun _ h => h
    rintro n ⟨j, m, k, hspan, hk, rfl⟩
    cases hspan
    exact ⟨k, by omega, hk⟩
  | set s =>
    intro next hnext i hi
    rw [walk]
    split
    next hmem =>
      -- the walk goes on behind the character
      have hlt : i < t.length := by
        by_contra hge
        rw [List.getElem?_toArray, List.getElem?_eq_none (by omega)] at hmem
        cases hmem
      apply (hnext (i + 1) hlt).weaken fun _ h => h
      rintro n ⟨j, m, k, hspan, hk, rfl⟩
      cases hspan
      exact ⟨k, by omega, hk⟩
    next hmem =>
      apply Complete.fail
      rintro n ⟨j, m, k, hspan, hk, rfl⟩
      cases hspan with
      | set hc hs =>
        apply hmem
        rw [List.getElem?_toArray, hc]
        exact hs
  | assertion a =>
    intro next hnext i hi
    rw [walk]
    split
    next hholds =>
      apply (hnext i hi).weaken fun _ h => h
      rintro n ⟨j, m, k, hspan, hk, rfl⟩
      cases hspan
      exact ⟨k, by omega, hk⟩
    next hholds =>
      apply Complete.fail
      rintro n ⟨j, m, k, hspan, hk, rfl⟩
      cases hspan with
      | assertion _ ha =>
        apply hholds
        rw [before?_toArray, List.getElem?_toArray]
        exact ha
  | group g p ih =>
    intro next hnext i hi
    obtain ⟨hpoint, hp⟩ := hpoints.of_group
    have hgroup := ih hpre hsize hp _ (fun j hj => (hnext j hj).after ⟨g, i, j⟩) i hi
    rw [walk]
    apply hgroup.visit hpre hpoint
    rintro n ⟨j, m, k, hspan, hk, rfl⟩
    cases hspan with
    | group hspan => exact ⟨_, by omega, j, _, k, hspan, hk, rfl⟩
  | concat p q ihp ihq =>
    -- what comes next after the first pattern is the second one
    intro next hnext i hi
    obtain ⟨hp, hq⟩ := hpoints.of_concat
    rw [walk]
    apply (ihp hpre hsize hp _ (ihq hpre hsize hq next hnext) i hi).weaken fun _ h => h
    rintro n ⟨j, m, k, hspan, hk, rfl⟩
    cases hspan with
    | concat hspan hspan' =>
      exact ⟨_, Nat.le_refl _, _, _, _, hspan, ⟨j, _, k, hspan', hk, rfl⟩, by omega⟩
  | alternate p q ihp ihq =>
    intro next hnext i hi
    obtain ⟨hpoint, hp, hq⟩ := hpoints.of_alternate
    have hleft := ihp hpre hsize hp next hnext i hi
    have hright := ihq hpre hsize hq next hnext i hi
    rw [walk]
    apply (hleft.orElse hpre hright).visit hpre hpoint
    rintro n ⟨j, m, k, hspan, hk, rfl⟩
    cases hspan with
    | left hspan => exact ⟨_, by omega, .inl ⟨j, _, k, hspan, hk, rfl⟩⟩
    | right hspan => exact ⟨_, by omega, .inr ⟨j, _, k, hspan, hk, rfl⟩⟩
  | repeated p least more greedy ih =>
    apply leads_repeated hpre hsize hpoints
    intro pre' hpre' hle c hc
    obtain ⟨-, -, hturn⟩ := hpoints.of_repeated
    exact ih hpre' (fun M hM => hsize M (hle M hM)) (hturn c hc).2

/-! ## §6 Preferred matches -/

/-- From where a pattern matches, there is a way through it. -/
theorem isSome_walk {p : Pattern} {t : List Char} {i j : Nat} (h : Spans t p i j) :
    (walk t.toArray p 0 (fun _ M => (some [], M)) i (.replicate (t.length + 1) [])).1.isSome =
      true := by
  obtain ⟨n, hspan⟩ := h.exists_spansIn
  -- wherever the pattern has been matched, a match is at its end
  let after : Rest := fun _ _ => True
  have hpoints : Numbered (ahead t p after) t p after 0 := fun q _ => by rw [Nat.zero_add]
  have hpre : Lasting fun M => M.size = t.length + 1 := fun _ _ hle hM => hle.size_eq.trans hM
  have hwalk := leads_walk hpre (fun _ hM => hM) hpoints _ (fun _ _ => Complete.succeed []) i
    h.start_le
  have hbarren : Barren (ahead t p after) n (.replicate (t.length + 1) []) := by
    intro point place hhas
    exact absurd hhas (Marks.not_has_replicate _ point place)
  cases hresult : walk t.toArray p 0 (fun _ M => (some [], M)) i (.replicate (t.length + 1) []) with
  | mk w M =>
    cases w with
    | some w => rfl
    | none =>
      obtain ⟨-, -, hnone⟩ := hwalk n _ M Array.size_replicate hbarren hresult
      exact absurd ⟨j, n, 0, hspan, trivial, rfl⟩ (hnone n (Nat.le_refl n))

/-- A pattern has a preferred match exactly when it matches some stretch of the text. -/
theorem isSome_find_iff {p : Pattern} {t : List Char} :
    (p.find t).isSome = true ↔ ∃ i j, Spans t p i j := by
  have hplaces : ∀ k ∈ places t.toArray, k ≤ t.length := fun _ => mem_places_iff.mp
  have hstarts := mem_starts_iff (p := p) hplaces
  constructor
  · intro h
    obtain ⟨w, hw⟩ := Option.isSome_iff_exists.mp h
    obtain ⟨i, hi, -⟩ := Option.bind_eq_some_iff.mp hw
    obtain ⟨j, -, hspan⟩ := (hstarts i).mp (List.min?_mem hi)
    exact ⟨i, j, hspan⟩
  · rintro ⟨i, j, hspan⟩
    have hmem : i ∈ starts t.toArray p (places t.toArray) :=
      (hstarts i).mpr ⟨j, mem_places_iff.mpr hspan.stop_le, hspan⟩
    obtain ⟨first, hfirst⟩ := Option.isSome_iff_exists.mp (List.isSome_min?_of_mem hmem)
    obtain ⟨k, -, hspan'⟩ := (hstarts first).mp (List.min?_mem hfirst)
    simp only [find, hfirst, Option.bind_some, List.size_toArray]
    exact isSome_walk hspan'

/-- Looking for a preferred match and looking for any match come to the same. -/
theorem isSome_find_eq_accepts (p : Pattern) (t : List Char) : (p.find t).isSome = p.accepts t := by
  rw [Bool.eq_iff_iff, isSome_find_iff, accepts_iff]

end AggregateNaming.Pattern
