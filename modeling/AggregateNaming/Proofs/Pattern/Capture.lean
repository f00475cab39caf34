import AggregateNaming.Proofs.Pattern.Walk

/-!
# What groups remember

To say between which places a pattern matches leaves open how it does so. Here a match comes with the
stretches that its groups matched on the way, and what the preferred match remembers is found to be
those of a match.

A group may be left out of a match: another alternative may be taken, or a repetition that needs no
turn. So a pattern can match and its group remember nothing.

## Main definitions

- `SpansVia` : a pattern matches a stretch of a text, with the stretches that its groups match.
- `Finds` : what the ways are like that an attempt may find.
- `takes` : no match leaves a group out, as far as the form of the pattern shows.

## Main statements

- `reaches_walk` : a walk through a pattern finds ways of a match.
- `exists_spansVia_of_find` : what is remembered of the preferred match are the stretches of a match.
- `SpansVia.exists_mem` : a group that cannot be left out matches some stretch.
-/

namespace AggregateNaming.Pattern

/-! ## §1 Matches with their groups -/

/-- As `Spans`, with the stretches that groups match, in the order in which they are completed. -/
inductive SpansVia (t : List Char) : Pattern → Way → Nat → Nat → Prop where
  | empty : i ≤ t.length → SpansVia t .empty [] i i
  | set : t[i]? = some c → s.mem c = true → SpansVia t (.set s) [] i (i + 1)
  | assertion : i ≤ t.length → a.holds (charBefore t i) (charAfter t i) = true →
      SpansVia t (.assertion a) [] i i
  | group : SpansVia t p w i j → SpansVia t (.group g p) (w ++ [⟨g, i, j⟩]) i j
  | concat : SpansVia t p w i j → SpansVia t q v j k → SpansVia t (.concat p q) (w ++ v) i k
  | left : SpansVia t p w i j → SpansVia t (.alternate p q) w i j
  | right : SpansVia t q w i j → SpansVia t (.alternate p q) w i j
  | done : i ≤ t.length → SpansVia t (.repeated p 0 more greedy) [] i i
  | needed : SpansVia t p w i j → SpansVia t (.repeated p least more greedy) v j k →
      SpansVia t (.repeated p (least + 1) more greedy) (w ++ v) i k
  | further : SpansVia t p w i j → SpansVia t (.repeated p 0 (some room) greedy) v j k →
      SpansVia t (.repeated p 0 (some (room + 1)) greedy) (w ++ v) i k
  | always : SpansVia t p w i j → SpansVia t (.repeated p 0 none greedy) v j k →
      SpansVia t (.repeated p 0 none greedy) (w ++ v) i k

section Matches

variable {t : List Char} {p : Pattern} {w : Way} {i j : Nat}

theorem SpansVia.spans (h : SpansVia t p w i j) : Spans t p i j := by
  induction h with
  | empty hi => exact .empty hi
  | set hc hs => exact .set hc hs
  | assertion hi ha => exact .assertion hi ha
  | group _ ih => exact .group ih
  | concat _ _ ihp ihq => exact .concat ihp ihq
  | left _ ih => exact .left ih
  | right _ ih => exact .right ih
  | done hi => exact .done hi
  | needed _ _ ihp ihrest => exact .needed ihp ihrest
  | further _ _ ihp ihrest => exact .further ihp ihrest
  | always _ _ ihp ihrest => exact .always ihp ihrest

/-- What a group matches lies inside of the match. -/
theorem SpansVia.bounds_of_mem (h : SpansVia t p w i j) {s : GroupSpan} (hs : s ∈ w) :
    i ≤ s.start ∧ s.start ≤ s.stop ∧ s.stop ≤ j := by
  -- of two matches in a row, the second begins where the first ends
  have hrow : ∀ {p q : Pattern} {w v : Way} {i j k : Nat}, SpansVia t p w i j → SpansVia t q v j k →
      (s ∈ w → i ≤ s.start ∧ s.start ≤ s.stop ∧ s.stop ≤ j) →
      (s ∈ v → j ≤ s.start ∧ s.start ≤ s.stop ∧ s.stop ≤ k) → s ∈ w ++ v →
      i ≤ s.start ∧ s.start ≤ s.stop ∧ s.stop ≤ k := by
    intro p q w v i j k hp hq hw hv hmem
    have hfirst := hp.spans.le
    have hsecond := hq.spans.le
    rcases List.mem_append.mp hmem with hmem | hmem
    · obtain ⟨hstart, hle, hstop⟩ := hw hmem
      exact ⟨hstart, hle, by omega⟩
    · obtain ⟨hstart, hle, hstop⟩ := hv hmem
      exact ⟨by omega, hle, hstop⟩
  induction h with
  | empty => cases hs
  | set => cases hs
  | assertion => cases hs
  | done => cases hs
  | left _ ih => exact ih hs
  | right _ ih => exact ih hs
  | group hp ih =>
    rcases List.mem_append.mp hs with hmem | hmem
    · exact ih hmem
    · rw [List.mem_singleton.mp hmem]
      exact ⟨Nat.le_refl _, hp.spans.le, Nat.le_refl _⟩
  | concat hp hq ihp ihq => exact hrow hp hq ihp ihq hs
  | needed hp hrest ihp ihrest => exact hrow hp hrest ihp ihrest hs
  | further hp hrest ihp ihrest => exact hrow hp hrest ihp ihrest hs
  | always hp hrest ihp ihrest => exact hrow hp hrest ihp ihrest hs

/-- Whether every match goes through a group, as far as the form of a pattern shows. It is in both of
two alternatives, and a repetition with it needs a turn. -/
def takes (group : Nat) : Pattern → Bool
  | .empty | .set _ | .assertion _ => false
  | .group g p => g == group || p.takes group
  | .concat p q => p.takes group || q.takes group
  | .alternate p q => p.takes group && q.takes group
  | .repeated p least _ _ => least != 0 && p.takes group

/-- A group that cannot be left out matches some stretch. -/
theorem SpansVia.exists_mem (h : SpansVia t p w i j) {g : Nat} (hp : p.takes g = true) :
    ∃ s ∈ w, s.group = g := by
  induction h with
  | empty => cases hp
  | set => cases hp
  | assertion => cases hp
  | done => cases hp
  | further => cases hp
  | always => cases hp
  | @group p w i j g' _ ih =>
    rw [takes, Bool.or_eq_true, beq_iff_eq] at hp
    rcases hp with rfl | hp
    · exact ⟨⟨g', i, j⟩, by simp, rfl⟩
    · obtain ⟨s, hs, hg⟩ := ih hp
      exact ⟨s, List.mem_append_left _ hs, hg⟩
  | concat _ _ ihp ihq =>
    rw [takes, Bool.or_eq_true] at hp
    rcases hp with hp | hp
    · obtain ⟨s, hs, hg⟩ := ihp hp
      exact ⟨s, List.mem_append_left _ hs, hg⟩
    · obtain ⟨s, hs, hg⟩ := ihq hp
      exact ⟨s, List.mem_append_right _ hs, hg⟩
  | left _ ih =>
    rw [takes, Bool.and_eq_true] at hp
    exact ih hp.1
  | right _ ih =>
    rw [takes, Bool.and_eq_true] at hp
    exact ih hp.2
  | needed _ _ ihp =>
    rw [takes, Bool.and_eq_true] at hp
    obtain ⟨s, hs, hg⟩ := ihp hp.2
    exact ⟨s, List.mem_append_left _ hs, hg⟩

/-- A group remembers nothing when it is left out. -/
theorem Way.captured?_eq_none_iff {g : Nat} : w.captured? g = none ↔ ∀ s ∈ w, s.group ≠ g := by
  simp [Way.captured?]

/-- What a group remembers is a stretch that it matched. -/
theorem Way.mem_of_captured? {g : Nat} {s : GroupSpan} (h : w.captured? g = some s) :
    s ∈ w ∧ s.group = g :=
  ⟨List.mem_reverse.mp (List.mem_of_find?_eq_some h), by simpa using List.find?_some h⟩

end Matches

/-! ## §2 What attempts find -/

/-- What the ways are like that an attempt may find. -/
def Finds (ways : Way → Prop) (a : Attempt) : Prop := ∀ M w M', a M = (some w, M') → ways w

namespace Finds

variable {ways ways' : Way → Prop} {a b : Attempt}

theorem fail : Finds ways .fail := by
  intro M w M' h
  cases h

theorem succeed {w : Way} (hw : ways w) : Finds ways fun M => (some w, M) := by
  intro M w' M' h
  cases h
  exact hw

theorem weaken (ha : Finds ways a) (h : ∀ w, ways w → ways' w) : Finds ways' a :=
  fun M w M' hM => h w (ha M w M' hM)

theorem orElse (ha : Finds ways a) (hb : Finds ways b) : Finds ways (a.orElse b) := by
  intro M w M' h
  unfold Attempt.orElse at h
  split at h
  next => exact hb _ w M' h
  next => exact ha M w M' h

theorem prefer (greedy : Bool) (ha : Finds ways a) (hb : Finds ways b) :
    Finds ways (.prefer greedy a b) := by
  cases greedy with
  | true => exact ha.orElse hb
  | false => exact hb.orElse ha

theorem after {s : GroupSpan} (ha : Finds (fun w => ways (s :: w)) a) : Finds ways (.after s a) := by
  intro M w M' h
  unfold Attempt.after at h
  split at h
  next w' M₁ hfirst =>
    cases h
    exact ha M w' M' hfirst
  next hfailed => exact absurd h (hfailed w M')

theorem visit {point place : Nat} (ha : Finds ways a) : Finds ways (.visit point place a) := by
  intro M w M' h
  unfold Attempt.visit at h
  split at h
  · cases h
  · exact ha _ w M' h

end Finds

/-! ## §3 Walks -/

/-- The ways that lead on from each place. -/
abbrev Onward := Nat → Way → Prop

/-- Ways that lead through a pattern first. -/
def Onward.through (t : List Char) (p : Pattern) (after : Onward) : Onward := fun i w =>
  ∃ j u v, SpansVia t p u i j ∧ after j v ∧ w = u ++ v

/-- What leads through a pattern, whatever comes next, finds ways of a match and then those of what
comes next. -/
def Reaches (t : List Char) (p : Pattern) (through : (Nat → Attempt) → Nat → Attempt) : Prop :=
  ∀ next (after : Onward), (∀ j ≤ t.length, Finds (after j) (next j)) →
    ∀ i ≤ t.length, Finds (after.through t p i) (through next i)

section Walks

variable {t : List Char} {p q : Pattern} {after : Onward} {least i : Nat} {more : Option Nat}
  {greedy : Bool} {w : Way}

/-- A way through one more turn. -/
theorem Onward.through_of_turn {more' : Option Nat} {least' : Nat}
    (hturn : ∀ {u v : Way} {i j k : Nat}, SpansVia t p u i j →
      SpansVia t (.repeated p least more greedy) v j k →
      SpansVia t (.repeated p least' more' greedy) (u ++ v) i k)
    (h : (after.through t (.repeated p least more greedy)).through t p i w) :
    after.through t (.repeated p least' more' greedy) i w := by
  obtain ⟨j, u, v, hp, ⟨k, v', r, hrest, hr, rfl⟩, rfl⟩ := h
  exact ⟨k, u ++ v', r, hturn hp hrest, hr, by rw [List.append_assoc]⟩

/-- A way through no turn at all. -/
theorem Onward.through_of_done (hi : i ≤ t.length) (h : after i w) :
    after.through t (.repeated p 0 more greedy) i w :=
  ⟨i, [], w, .done hi, h, rfl⟩

variable {body : Nat → (Nat → Attempt) → Nat → Attempt} {next : Nat → Attempt}

theorem finds_needed (hbody : ∀ c, Reaches t p (body c))
    (hnext : ∀ j ≤ t.length, Finds (after.through t (.repeated p 0 more greedy) j) (next j))
    (count c : Nat) : ∀ i ≤ t.length,
      Finds (after.through t (.repeated p count more greedy) i) (needed body count c next i) := by
  induction count generalizing c with
  | zero => exact hnext
  | succ count ih =>
    intro i hi
    exact (hbody c _ _ (ih (c + 1)) i hi).weaken fun w hw =>
      Onward.through_of_turn .needed hw

theorem finds_atMost (hbody : ∀ c, Reaches t p (body c)) (point : Nat → Nat) (greedy : Bool)
    (hnext : ∀ j ≤ t.length, Finds (after j) (next j)) (count c : Nat) : ∀ i ≤ t.length,
      Finds (after.through t (.repeated p 0 (some count) greedy) i)
        (atMost body point greedy count c next i) := by
  induction count generalizing c with
  | zero => exact fun i hi => (hnext i hi).weaken fun w hw => Onward.through_of_done hi hw
  | succ count ih =>
    intro i hi
    refine Finds.visit (Finds.prefer greedy ?_ ?_)
    · exact (hbody c _ _ (ih (c + 1)) i hi).weaken fun w hw =>
        Onward.through_of_turn .further hw
    · exact (hnext i hi).weaken fun w hw => Onward.through_of_done hi hw

theorem finds_turns {body : (Nat → Attempt) → Nat → Attempt} (hbody : Reaches t p body)
    (point : Nat) (greedy : Bool) (hnext : ∀ j ≤ t.length, Finds (after j) (next j))
    (fuel : Nat) : ∀ i ≤ t.length, Finds (after.through t (.repeated p 0 none greedy) i)
      (turns body point greedy next fuel i) := by
  induction fuel with
  | zero => exact fun i _ => Finds.fail
  | succ fuel ih =>
    intro i hi
    refine Finds.visit (Finds.prefer greedy ?_ ?_)
    · exact (hbody _ _ ih i hi).weaken fun w hw =>
        Onward.through_of_turn .always hw
    · exact (hnext i hi).weaken fun w hw => Onward.through_of_done hi hw

/-- A walk through a repetition takes its turns one after the other. -/
private theorem reaches_repeated (hbody : ∀ point, Reaches t p (walk t.toArray p point))
    (point : Nat) : Reaches t (.repeated p least more greedy)
      (walk t.toArray (.repeated p least more greedy) point) := by
  intro next after hnext i hi
  have hturns := finds_turns (hbody (point + 2 + (least - 1) * (1 + p.points) + 1)) (point + 1) greedy
    hnext (t.length + 2)
  cases more with
  | some most =>
    have hmost := finds_atMost (fun c => hbody (point + 2 + c * (1 + p.points) + 1))
      (fun c => point + 2 + c * (1 + p.points)) greedy hnext most least
    have hwalk := finds_needed (fun c => hbody (point + 2 + c * (1 + p.points) + 1)) hmost least 0 i hi
    cases least <;> exact hwalk.visit
  | none =>
    cases least with
    | zero =>
      refine Finds.visit ?_
      change Finds _ (if p.mayBeEmpty then _ else _)
      split
      next =>
        refine Finds.prefer greedy ?_ ?_
        · exact (hbody _ _ _ hturns i hi).weaken fun w hw => Onward.through_of_turn .always hw
        · exact (hnext i hi).weaken fun w hw => Onward.through_of_done hi hw
      next => exact hturns i hi
    | succ least =>
      exact (finds_needed (fun c => hbody (point + 2 + c * (1 + p.points) + 1)) hturns (least + 1) 0
        i hi).visit

/-- A walk through a pattern finds ways of a match, and then those of what comes next. -/
theorem reaches_walk (t : List Char) (p : Pattern) (point : Nat) :
    Reaches t p (walk t.toArray p point) := by
  induction p generalizing point with
  | empty =>
    intro next after hnext i hi
    exact (hnext i hi).weaken fun w hw => ⟨i, [], w, .empty hi, hw, rfl⟩
  | set s =>
    intro next after hnext i hi
    rw [walk]
    split
    next hmem =>
      obtain ⟨c, hc, hs⟩ := (Option.any_eq_true _ _).mp hmem
      rw [List.getElem?_toArray] at hc
      have hspan : SpansVia t (.set s) [] i (i + 1) := .set hc hs
      exact (hnext (i + 1) hspan.spans.stop_le).weaken fun w hw => ⟨i + 1, [], w, hspan, hw, rfl⟩
    next => exact Finds.fail
  | assertion a =>
    intro next after hnext i hi
    rw [walk]
    split
    next hholds =>
      rw [before?_toArray, List.getElem?_toArray] at hholds
      exact (hnext i hi).weaken fun w hw => ⟨i, [], w, .assertion hi hholds, hw, rfl⟩
    next => exact Finds.fail
  | group g p ih =>
    intro next after hnext i hi
    -- a group adds its own stretch behind those inside of it
    have hinside := ih (point + 1) (fun j => .after ⟨g, i, j⟩ (next j))
      (fun j w => ∃ v, after j v ∧ w = ⟨g, i, j⟩ :: v)
      (fun j hj => Finds.after ((hnext j hj).weaken fun w hw => ⟨w, hw, rfl⟩)) i hi
    refine (hinside.weaken ?_).visit
    rintro w ⟨j, u, v, hp, ⟨v, hv, rfl⟩, rfl⟩
    exact ⟨j, u ++ [⟨g, i, j⟩], v, .group hp, hv, by simp⟩
  | concat p q ihp ihq =>
    intro next after hnext i hi
    refine (ihp (point + 1) _ _ (ihq (point + 1 + p.points) next after hnext) i hi).weaken ?_
    rintro w ⟨j, u, v, hp, ⟨k, v, r, hq, hr, rfl⟩, rfl⟩
    exact ⟨k, u ++ v, r, .concat hp hq, hr, by rw [List.append_assoc]⟩
  | alternate p q ihp ihq =>
    intro next after hnext i hi
    refine Finds.visit (Finds.orElse ?_ ?_)
    · refine (ihp (point + 1) next after hnext i hi).weaken ?_
      rintro w ⟨j, u, v, hp, hv, rfl⟩
      exact ⟨j, u, v, .left hp, hv, rfl⟩
    · refine (ihq (point + 1 + p.points) next after hnext i hi).weaken ?_
      rintro w ⟨j, u, v, hq, hv, rfl⟩
      exact ⟨j, u, v, .right hq, hv, rfl⟩
  | repeated p least more greedy ih => exact reaches_repeated ih point

end Walks

/-- What is remembered of the preferred match of a pattern are the stretches of a match. -/
theorem exists_spansVia_of_find {p : Pattern} {t : List Char} {w : Way} (h : p.find t = some w) :
    ∃ i j, SpansVia t p w i j := by
  obtain ⟨i, hi, hwalk⟩ := Option.bind_eq_some_iff.mp h
  obtain ⟨k, -, hspan⟩ :=
    (mem_starts_iff (fun _ => mem_places_iff.mp) i).mp (List.min?_mem hi)
  -- at the end of a match there is nothing more to find
  have hfinds := reaches_walk t p 0 (fun _ M => (some [], M)) (fun _ w => w = [])
    (fun _ _ => Finds.succeed rfl) i hspan.start_le
  obtain ⟨j, u, v, hvia, rfl, rfl⟩ := hfinds _ w _ (Prod.ext hwalk rfl)
  rw [List.append_nil]
  exact ⟨i, j, hvia⟩

end AggregateNaming.Pattern
