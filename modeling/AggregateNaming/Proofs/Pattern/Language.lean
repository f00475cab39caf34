import AggregateNaming.Proofs.CaseFolding
import AggregateNaming.Proofs.Pattern.Literal
import AggregateNaming.Proofs.Pattern.Parts
import AggregateNaming.Proofs.Pattern.Search
import Mathlib.Data.List.Forall2

/-!
# Patterns as sets of texts

A pattern without assertions matches a stretch of a text for the characters in it, whatever is before
and behind. So it stands for a set of texts, and a row of such patterns for the texts that can be cut
into pieces, one for each pattern of the row. In particular a row of character sets stands for the
texts with as many characters, each of them in the set at its place.

## Main definitions

- `Pattern.isContextFree` : a pattern has no assertions.

## Main statements

- `Spans.transport` : a match is one wherever the same characters stand.
- `matchesWhole_concat_iff`, `matchesWhole_append_iff` : rows of patterns.
- `matchesWhole_sets_iff` : rows of character sets.
- `read_escapeChars` : an escaped text is read as a row of character sets.
-/

namespace AggregateNaming.Pattern

/-! ## §1 Matches elsewhere -/

/-- Whether a pattern has no assertions. -/
def isContextFree : Pattern → Bool
  | .empty | .set _ => true
  | .assertion _ => false
  | .group _ p => p.isContextFree
  | .concat p q | .alternate p q => p.isContextFree && q.isContextFree
  | .repeated p _ _ _ => p.isContextFree

section Transport

variable {t t' : List Char} {p q : Pattern} {i j i' j' : Nat}

/-- A match is one wherever the same characters stand. -/
theorem Spans.transport (h : Spans t p i j) (hp : p.isContextFree = true) (hj' : j' = i' + (j - i))
    (hle : j' ≤ t'.length) (hsame : ∀ k < j - i, t'[i' + k]? = t[i + k]?) : Spans t' p i' j' := by
  -- two matches in a row: each lies in its own part of the stretch
  have split {q r : Pattern} {i j k i' k' : Nat} (hij : i ≤ j) (hjk : j ≤ k)
      (ihq : ∀ {i' j'}, j' = i' + (j - i) → j' ≤ t'.length →
        (∀ m < j - i, t'[i' + m]? = t[i + m]?) → Spans t' q i' j')
      (ihr : ∀ {i' j'}, j' = i' + (k - j) → j' ≤ t'.length →
        (∀ m < k - j, t'[i' + m]? = t[j + m]?) → Spans t' r i' j')
      (hk' : k' = i' + (k - i)) (hle : k' ≤ t'.length)
      (hsame : ∀ m < k - i, t'[i' + m]? = t[i + m]?) :
      ∃ j', Spans t' q i' j' ∧ Spans t' r j' k' := by
    refine ⟨i' + (j - i), ihq rfl (by omega) fun m hm => hsame m (by omega),
      ihr (by omega) hle fun m hm => ?_⟩
    have hshift := hsame ((j - i) + m) (by omega)
    rwa [← Nat.add_assoc, ← Nat.add_assoc, Nat.add_sub_cancel' hij] at hshift
  -- the match elsewhere is made of the same pieces
  induction h generalizing i' j' with
  | empty =>
    obtain rfl : j' = i' := by omega
    exact .empty hle
  | done =>
    obtain rfl : j' = i' := by omega
    exact .done hle
  | set hc hs =>
    obtain rfl : j' = i' + 1 := by omega
    exact .set ((hsame 0 (by omega)).trans hc) hs
  | assertion =>
    -- what is around the stretch would count
    cases hp
  | group _ ih => exact .group (ih hp hj' hle hsame)
  | left _ ih =>
    rw [isContextFree, Bool.and_eq_true] at hp
    exact .left (ih hp.1 hj' hle hsame)
  | right _ ih =>
    rw [isContextFree, Bool.and_eq_true] at hp
    exact .right (ih hp.2 hj' hle hsame)
  | concat hq hr ihq ihr =>
    rw [isContextFree, Bool.and_eq_true] at hp
    obtain ⟨m, hq', hr'⟩ := split hq.le hr.le (ihq hp.1) (ihr hp.2) hj' hle hsame
    exact .concat hq' hr'
  | needed hq hr ihq ihr =>
    obtain ⟨m, hq', hr'⟩ := split hq.le hr.le (ihq hp) (ihr hp) hj' hle hsame
    exact .needed hq' hr'
  | further hq hr ihq ihr =>
    obtain ⟨m, hq', hr'⟩ := split hq.le hr.le (ihq hp) (ihr hp) hj' hle hsame
    exact .further hq' hr'
  | always hq hr ihq ihr =>
    obtain ⟨m, hq', hr'⟩ := split hq.le hr.le (ihq hp) (ihr hp) hj' hle hsame
    exact .always hq' hr'

/-- What a pattern without assertions matches depends on the characters of the stretch alone. -/
theorem spans_iff_matchesWhole {a u b : List Char} (hp : p.isContextFree = true) :
    Spans (a ++ u ++ b) p a.length (a.length + u.length) ↔ p.MatchesWhole u := by
  have hsame : ∀ k < u.length, (a ++ u ++ b)[a.length + k]? = u[0 + k]? := by
    intro k hk
    rw [List.append_assoc, List.getElem?_append_right (Nat.le_add_right _ _),
      Nat.add_sub_cancel_left, List.getElem?_append_left hk, Nat.zero_add]
  constructor
  · intro h
    refine h.transport hp (by omega) (Nat.le_refl _) fun k hk => (hsame k (by omega)).symm
  · intro h
    exact h.transport hp (by omega) (by simp) fun k hk => hsame k (by omega)

end Transport

/-! ## §2 Sets of texts -/

section Languages

variable {t u v : List Char} {p q : Pattern} {ps qs : List Pattern} {greedy : Bool}

theorem spans_front_iff (hp : p.isContextFree = true) :
    Spans (u ++ v) p 0 u.length ↔ p.MatchesWhole u := by
  simpa using spans_iff_matchesWhole (a := []) (b := v) hp

theorem spans_back_iff (hp : p.isContextFree = true) :
    Spans (u ++ v) p u.length (u ++ v).length ↔ p.MatchesWhole v := by
  simpa using spans_iff_matchesWhole (a := u) (u := v) (b := []) hp

/-- Two matches that take a text from its start to its end cut it in two. -/
theorem exists_place_iff (hp : p.isContextFree = true) (hq : q.isContextFree = true) :
    (∃ m, Spans t p 0 m ∧ Spans t q m t.length) ↔
      ∃ u v, t = u ++ v ∧ p.MatchesWhole u ∧ q.MatchesWhole v := by
  constructor
  · rintro ⟨m, hpm, hqm⟩
    obtain ⟨u, v, rfl, rfl⟩ : ∃ u v, t = u ++ v ∧ u.length = m :=
      ⟨t.take m, t.drop m, (List.take_append_drop m t).symm,
        List.length_take_of_le hpm.stop_le⟩
    exact ⟨u, v, rfl, (spans_front_iff hp).mp hpm, (spans_back_iff hq).mp hqm⟩
  · rintro ⟨u, v, rfl, hu, hv⟩
    exact ⟨u.length, (spans_front_iff hp).mpr hu, (spans_back_iff hq).mpr hv⟩

/-- The empty pattern matches the empty text. -/
theorem matchesWhole_empty_iff : Pattern.empty.MatchesWhole t ↔ t = [] := by
  constructor
  · intro h
    generalize hn : t.length = n at h
    rw [MatchesWhole, hn] at h
    cases h
    exact List.length_eq_zero_iff.mp hn
  · rintro rfl
    exact .empty (Nat.le_refl 0)

/-- A set matches the texts of one of its members. -/
theorem matchesWhole_set_iff {s : CharSet} :
    (Pattern.set s).MatchesWhole t ↔ ∃ c, t = [c] ∧ s.mem c = true := by
  rw [MatchesWhole, spans_set_iff]
  constructor
  · rintro ⟨hlength, c, hc, hs⟩
    obtain ⟨d, rfl⟩ := List.length_eq_one_iff.mp hlength
    cases hc
    exact ⟨c, rfl, hs⟩
  · rintro ⟨c, rfl, hs⟩
    exact ⟨rfl, c, rfl, hs⟩

/-- One pattern after another matches what can be cut in two, a part for each. -/
theorem matchesWhole_concat_iff (hp : p.isContextFree = true) (hq : q.isContextFree = true) :
    (Pattern.concat p q).MatchesWhole t ↔
      ∃ u v, t = u ++ v ∧ p.MatchesWhole u ∧ q.MatchesWhole v :=
  spans_concat_iff.trans (exists_place_iff hp hq)

/-- A row or a choice has no assertions when neither of its parts has one. -/
theorem hereditary_isContextFree : Hereditary fun p => p.isContextFree = true where
  empty := rfl
  concat_iff := Bool.and_eq_true_iff
  alternate_iff := Bool.and_eq_true_iff

/-- The first pattern of a row matches a first part of the text. -/
theorem matchesWhole_cons_iff (hps : ∀ q ∈ p :: ps, q.isContextFree = true) :
    (concatAll (p :: ps)).MatchesWhole t ↔
      ∃ u v, t = u ++ v ∧ p.MatchesWhole u ∧ (concatAll ps).MatchesWhole v := by
  cases ps with
  | nil =>
    simp only [concatAll, matchesWhole_empty_iff]
    constructor
    · intro h
      exact ⟨t, [], by simp, h, rfl⟩
    · rintro ⟨u, v, rfl, hu, rfl⟩
      rwa [List.append_nil]
  | cons q qs =>
    exact matchesWhole_concat_iff (hps p (by simp))
      (hereditary_isContextFree.concatAll_iff.mpr fun r hr => hps r (List.mem_cons_of_mem p hr))

/-- Two rows in a row match what can be cut in two, a part for each. -/
theorem matchesWhole_append_iff (hps : ∀ p ∈ ps ++ qs, p.isContextFree = true) :
    (concatAll (ps ++ qs)).MatchesWhole t ↔
      ∃ u v, t = u ++ v ∧ (concatAll ps).MatchesWhole u ∧ (concatAll qs).MatchesWhole v := by
  induction ps generalizing t with
  | nil =>
    simp only [List.nil_append, concatAll, matchesWhole_empty_iff]
    constructor
    · intro h
      exact ⟨[], t, rfl, rfl, h⟩
    · rintro ⟨u, v, rfl, rfl, hv⟩
      exact hv
  | cons p ps ih =>
    have hrow : ∀ q ∈ p :: ps, q.isContextFree = true := fun q hq =>
      hps q (List.mem_append_left qs hq)
    rw [List.cons_append] at hps ⊢
    rw [matchesWhole_cons_iff hps]
    simp only [ih fun q hq => hps q (List.mem_cons_of_mem p hq), matchesWhole_cons_iff hrow]
    constructor
    · rintro ⟨u, v, rfl, hu, v, w, rfl, hv, hw⟩
      exact ⟨u ++ v, w, by simp, ⟨u, v, rfl, hu, hv⟩, hw⟩
    · rintro ⟨uv, w, rfl, ⟨u, v, rfl, hu, hv⟩, hw⟩
      exact ⟨u, v ++ w, by simp, hu, v, w, rfl, hv, hw⟩

/-- A row of sets matches the texts with a member of each, in order. -/
theorem matchesWhole_sets_iff {ss : List CharSet} :
    (concatAll (ss.map .set)).MatchesWhole t ↔
      List.Forall₂ (fun s c => s.mem c = true) ss t := by
  have hfree : ∀ ss : List CharSet, ∀ p ∈ ss.map Pattern.set, p.isContextFree = true := by
    simp [isContextFree]
  induction ss generalizing t with
  | nil => exact matchesWhole_empty_iff.trans List.forall₂_nil_left_iff.symm
  | cons s ss ih =>
    rw [List.map_cons, matchesWhole_cons_iff (hfree (s :: ss))]
    simp only [matchesWhole_set_iff, ih, List.forall₂_cons_left_iff]
    constructor
    · rintro ⟨_, v, rfl, ⟨c, rfl, hc⟩, hv⟩
      exact ⟨c, v, hc, hv, rfl⟩
    · rintro ⟨c, v, hc, hv, rfl⟩
      exact ⟨[c], v, rfl, ⟨c, rfl, hc⟩, hv⟩

/-- A set, any number of times, matches the texts of its members. -/
theorem matchesWhole_any_iff {s : CharSet} :
    (Pattern.repeated (.set s) 0 none greedy).MatchesWhole t ↔ ∀ c ∈ t, s.mem c = true := by
  induction t with
  | nil =>
    exact iff_of_true (.done (Nat.le_refl 0)) nofun
  | cons c t ih =>
    have hturn : (Pattern.repeated (.set s) 0 none greedy).MatchesWhole (c :: t) ↔
        ∃ m, Spans (c :: t) (.set s) 0 m ∧
          Spans (c :: t) (.repeated (.set s) 0 none greedy) m (c :: t).length := by
      constructor
      · intro h
        rw [MatchesWhole] at h
        generalize hn : (c :: t).length = n at h ⊢
        cases h with
        | done => cases hn
        | always hfirst hrest => exact ⟨_, hfirst, hrest⟩
      · rintro ⟨m, hfirst, hrest⟩
        exact .always hfirst hrest
    rw [hturn, exists_place_iff rfl rfl, List.forall_mem_cons]
    simp only [matchesWhole_set_iff]
    constructor
    · rintro ⟨_, v, heq, ⟨d, rfl, hd⟩, hv⟩
      obtain ⟨rfl, rfl⟩ := List.cons.inj heq
      exact ⟨hd, ih.mp hv⟩
    · rintro ⟨hc, ht⟩
      exact ⟨[c], t, rfl, ⟨c, rfl, hc⟩, ih.mpr ht⟩

/-- A set, at least once, matches the texts of its members that are not empty. -/
theorem matchesWhole_many_iff {s : CharSet} :
    (Pattern.repeated (.set s) 1 none greedy).MatchesWhole t ↔
      t ≠ [] ∧ ∀ c ∈ t, s.mem c = true := by
  rw [MatchesWhole, spans_needed_iff, exists_place_iff rfl rfl]
  simp only [matchesWhole_set_iff, matchesWhole_any_iff]
  constructor
  · rintro ⟨_, v, rfl, ⟨c, rfl, hc⟩, hv⟩
    exact ⟨nofun, by simpa using ⟨hc, hv⟩⟩
  · rintro ⟨hne, hall⟩
    obtain ⟨c, v, rfl⟩ := List.exists_cons_of_ne_nil hne
    exact ⟨[c], v, rfl, ⟨c, rfl, hall c (by simp)⟩, fun d hd => hall d (List.mem_cons_of_mem c hd)⟩

end Languages

/-! ## §3 Escaped texts -/

/-- The set of a character, where all scripts count. -/
theorem mem_charSet_iff {f : Flags} (hf : f.unicode = true) {c d : Char} :
    (charSet f c).mem d = true ↔
      if f.caseInsensitive then Text.SameFold c d else d = c := by
  rw [charSet, if_pos hf]
  split
  · exact CharSet.mem_sameUpToCase_iff
  · exact beq_iff_eq

/-- The row of sets of a text. -/
def charRow (f : Flags) (w : List Char) : List Pattern :=
  (w.map (charSet f)).map .set

theorem isContextFree_of_mem_charRow {f : Flags} {w : List Char} {p : Pattern}
    (hp : p ∈ charRow f w) : p.isContextFree = true := by
  obtain ⟨s, -, rfl⟩ := List.mem_map.mp hp
  rfl

/-- What an escaped text adds to the group that is being read. -/
theorem ReadState.pieces_addChars (s : ReadState) (w : List Char) :
    (s.addChars w).body.pieces = ((charRow s.flags w).map .pattern).reverse ++ s.body.pieces := by
  induction w generalizing s with
  | nil => rfl
  | cons c w ih =>
    rw [addChars_cons, ih]
    simp [charRow, ReadState.add, Body.add]

theorem ReadState.alternatives_addChars (s : ReadState) (w : List Char) :
    (s.addChars w).body.alternatives = s.body.alternatives := by
  induction w generalizing s with
  | nil => rfl
  | cons c w ih =>
    rw [addChars_cons, ih]
    rfl

/-- A row of patterns that have been read. -/
theorem Body.row_reverse_map (ps : List Pattern) :
    Body.row (ps.map .pattern).reverse = concatAll ps := by
  rw [Body.row, List.reverse_reverse, List.filterMap_map]
  exact congrArg concatAll List.filterMap_some

/-- A body that is one row. -/
theorem toPattern_of_row {b : Body} {ps : List Pattern} (hbars : b.alternatives = [])
    (hpieces : b.pieces = (ps.map .pattern).reverse) : b.toPattern = concatAll ps := by
  have hrow : b.toPattern = Body.row b.pieces := by
    rw [Body.toPattern, Body.bar, hbars]
    rfl
  rw [hrow, hpieces, Body.row_reverse_map]

/-- An escaped text is read as a row of sets. -/
theorem read_escapeChars {f : Flags} (hv : f.verbose = false) (w : List Char) :
    Pattern.read f (escapeChars w) = .ok (concatAll (charRow f w)) := by
  have hrun := ReadState.run_escapeChars 1 { flags := f } w [] hv
  have hend : skip (ReadState.addChars { flags := f } w).flags.verbose [] = [] :=
    List.suffix_nil.mp (by simp [skip, skipFrom])
  rw [List.append_nil, ReadState.run_of_skip hend] at hrun
  have hmore : ReadState.run ((escapeChars w).length + 1) { flags := f } (escapeChars w) =
      .ok (ReadState.addChars { flags := f } w) := ReadState.run_mono hrun (by
    have := length_le_length_escapeChars w
    omega)
  exact read_eq_ok_iff.mpr ⟨_, hmore, ReadState.stack_addChars _ w,
    toPattern_of_row (ReadState.alternatives_addChars _ w)
      ((ReadState.pieces_addChars _ w).trans (List.append_nil _))⟩

end AggregateNaming.Pattern
