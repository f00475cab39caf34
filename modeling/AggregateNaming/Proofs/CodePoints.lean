import AggregateNaming.Proofs.CaseFolding
import Mathlib.Data.Nat.Bitwise

/-!
# Sets of code points as numbers

A table of characters is a number, whose bits are the code points of the table. Whether two tables have
anything in common is then a matter of one operation on numbers, and so is whether one is in another;
by going through the tables it would take too long.

## Main definitions

- `CharRange.bits` and `CharTable.bits` : the number of a stretch and of a table.
- `CharTable.foldSources` and `CharTable.foldImages` : what case folding moves, and where to.
- `CharRange.foldStart?` : where case folding moves the beginning of a stretch, and with it the rest.

## Main statements

- `CharTable.testBit_bits` : the bits of a table are what it contains.
- `CaseRun.applyAll_eq_of_mem` : where runs have nothing in common, each of them decides by itself.
- `CharRange.applyAll_eq_of_foldStart?` : a stretch is folded as its beginning is.
-/

namespace AggregateNaming.Text

/-! ## §1 Stretches and tables -/

namespace CharRange

/-- The number with the code points of a stretch as its bits. -/
def bits (s : CharRange) : Nat :=
  bif Nat.beq s.step 1 then (2 ^ (s.last + 1 - s.first) - 1) <<< s.first
  else (List.range' s.first ((s.last + s.step - s.first) / s.step) s.step).foldr
    (fun n b => b ||| 1 <<< n) 0

theorem contains_iff {s : CharRange} {n : Nat} :
    s.contains n = true ↔ s.first ≤ n ∧ n ≤ s.last ∧ (n - s.first) % s.step = 0 := by
  simp only [contains, Bool.and_eq_true, decide_eq_true_eq, beq_iff_eq, and_assoc]

/-- The bits that are set one by one. -/
theorem testBit_foldr (ns : List Nat) (n : Nat) :
    (ns.foldr (fun n b => b ||| 1 <<< n) 0).testBit n = decide (n ∈ ns) := by
  induction ns with
  | nil => simp
  | cons m ns ih =>
    rw [List.foldr_cons, Nat.testBit_or, ih, Nat.one_shiftLeft, Nat.testBit_two_pow]
    simp only [List.mem_cons, Bool.decide_or, Bool.or_comm, eq_comm]

/-- The bits of a stretch are what it contains. -/
theorem testBit_bits {s : CharRange} (hstep : 0 < s.step) (n : Nat) :
    s.bits.testBit n = s.contains n := by
  rw [Bool.eq_iff_iff, contains_iff, bits]
  cases hone : Nat.beq s.step 1 with
  | true =>
    rw [cond_true, Nat.testBit_shiftLeft, Nat.testBit_two_pow_sub_one, Nat.eq_of_beq_eq_true hone,
      Bool.and_eq_true, decide_eq_true_eq, decide_eq_true_eq]
    omega
  | false =>
    rw [cond_false, testBit_foldr, decide_eq_true_eq, List.mem_range']
    constructor
    · rintro ⟨i, hi, rfl⟩
      have hlast : s.step * (i + 1) ≤ s.last + s.step - s.first := by
        rw [Nat.mul_comm]
        exact (Nat.le_div_iff_mul_le hstep).mp hi
      rw [Nat.mul_add, Nat.mul_one] at hlast
      refine ⟨by omega, by omega, ?_⟩
      rw [Nat.add_sub_cancel_left, Nat.mul_mod_right]
    · rintro ⟨hfirst, hlast, hmod⟩
      obtain ⟨i, hi⟩ := Nat.dvd_of_mod_eq_zero hmod
      refine ⟨i, ?_, by omega⟩
      rw [Nat.lt_iff_add_one_le, Nat.le_div_iff_mul_le hstep, Nat.add_mul, Nat.mul_comm i, ← hi]
      omega

/-- The distance between neighbours; there is none in a stretch of one code point. -/
def stride (s : CharRange) : Nat := bif Nat.beq s.first s.last then 0 else s.step

/-- Whether all of a stretch is seen to be in another one. -/
def covers (t s : CharRange) : Bool :=
  Nat.ble s.last t.last && Nat.ble t.first s.first && Nat.beq ((s.first - t.first) % t.step) 0 &&
    Nat.beq (s.stride % t.step) 0

theorem stride_dvd {s : CharRange} {n : Nat} (h : s.contains n = true) : s.stride ∣ n - s.first := by
  obtain ⟨hfirst, hlast, hmod⟩ := contains_iff.mp h
  rw [stride]
  cases hone : Nat.beq s.first s.last with
  | true =>
    have heq := Nat.eq_of_beq_eq_true hone
    rw [show n - s.first = 0 by omega]
    exact Nat.dvd_zero _
  | false => exact Nat.dvd_of_mod_eq_zero hmod

theorem contains_of_covers {s t : CharRange} (h : t.covers s = true) {n : Nat}
    (hn : s.contains n = true) : t.contains n = true := by
  simp only [covers, Bool.and_eq_true, Nat.ble_eq, Nat.beq_eq] at h
  obtain ⟨⟨⟨hlast, hfirst⟩, hbegin⟩, hstride⟩ := h
  obtain ⟨hfirst', hlast', -⟩ := contains_iff.mp hn
  have hrest : t.step ∣ n - s.first := (Nat.dvd_of_mod_eq_zero hstride).trans (stride_dvd hn)
  refine contains_iff.mpr ⟨by omega, by omega, Nat.mod_eq_zero_of_dvd ?_⟩
  rw [show n - t.first = n - s.first + (s.first - t.first) by omega]
  exact Nat.dvd_add hrest (Nat.dvd_of_mod_eq_zero hbegin)

end CharRange

namespace CharTable

/-- The number with the code points of a table as its bits. -/
def bits (t : CharTable) : Nat := t.foldr (fun s b => b ||| s.bits) 0

/-- The bits of a table are what it contains. -/
theorem testBit_bits {t : CharTable} (hsteps : ∀ s ∈ t, 0 < s.step) (n : Nat) :
    t.bits.testBit n = t.any (·.contains n) := by
  induction t with
  | nil => simp [bits]
  | cons s t ih =>
    have hs := CharRange.testBit_bits (hsteps s List.mem_cons_self) n
    have ht := ih fun s' hs' => hsteps s' (List.mem_cons_of_mem s hs')
    rw [bits] at ht
    rw [bits, List.foldr_cons, Nat.testBit_or, ht, hs, List.any_cons, Bool.or_comm]

/-- Whether no two stretches of a table have anything in common, nor any of them with the bits of a
number. -/
def disjointFrom : Nat → CharTable → Bool
  | _, [] => true
  | b, s :: t => Nat.beq (b &&& s.bits) 0 && disjointFrom (b ||| s.bits) t

theorem of_disjointFrom {b : Nat} {t : CharTable} (hsteps : ∀ s ∈ t, 0 < s.step)
    (h : disjointFrom b t = true) :
    t.Pairwise (fun s s' => ∀ n, s.contains n = true → s'.contains n = false) ∧
      ∀ s ∈ t, ∀ n, b.testBit n = true → s.contains n = false := by
  induction t generalizing b with
  | nil => exact ⟨.nil, nofun⟩
  | cons s t ih =>
    rw [disjointFrom, Bool.and_eq_true, Nat.beq_eq] at h
    obtain ⟨hpairwise, hrest⟩ := ih (fun s' hs' => hsteps s' (List.mem_cons_of_mem s hs')) h.2
    have hs := fun n => CharRange.testBit_bits (hsteps s List.mem_cons_self) n
    refine ⟨List.pairwise_cons.mpr ⟨fun s' hs' n hn => ?_, hpairwise⟩, fun s' hs' n hn => ?_⟩
    · refine hrest s' hs' n ?_
      rw [Nat.testBit_or, hs n, hn, Bool.or_true]
    · rcases List.mem_cons.mp hs' with rfl | hs'
      · have hnone : (b &&& s'.bits).testBit n = false := by rw [h.1, Nat.zero_testBit]
        rwa [Nat.testBit_and, hn, Bool.true_and, hs n] at hnone
      · refine hrest s' hs' n ?_
        rw [Nat.testBit_or, hn, Bool.true_or]

end CharTable

/-! ## §2 Runs -/

namespace CaseRun

/-- The code points that a run moves. -/
def source (r : CaseRun) : CharRange := ⟨r.first, r.last, r.step⟩

/-- The code points that a run moves them to. -/
def image (r : CaseRun) : CharRange := ⟨r.target, r.target + (r.last - r.first), r.step⟩

theorem image?_eq (r : CaseRun) (n : Nat) :
    r.image? n = if r.source.contains n then some (r.target + (n - r.first)) else none := by
  simp only [CharRange.contains_iff]
  rfl

theorem image?_eq_some_iff {r : CaseRun} {n m : Nat} :
    r.image? n = some m ↔ r.source.contains n = true ∧ r.target + (n - r.first) = m := by
  rw [image?_eq, Option.ite_none_right_eq_some, Option.some.injEq]

/-- What a run moves lands in its image. -/
theorem contains_image {r : CaseRun} {n m : Nat} (h : r.image? n = some m) :
    r.image.contains m = true := by
  obtain ⟨hn, rfl⟩ := image?_eq_some_iff.mp h
  obtain ⟨hfirst, hlast, hmod⟩ := CharRange.contains_iff.mp hn
  change r.first ≤ n at hfirst
  change n ≤ r.last at hlast
  refine CharRange.contains_iff.mpr ⟨Nat.le_add_right _ _, ?_, ?_⟩
  · change r.target + (n - r.first) ≤ r.target + (r.last - r.first)
    omega
  · change (r.target + (n - r.first) - r.target) % r.step = 0
    rw [Nat.add_sub_cancel_left]
    exact hmod

/-- Where runs have nothing in common, any run that moves a code point decides. -/
theorem applyAll_eq_of_mem {runs : List CaseRun} {r : CaseRun} (hr : r ∈ runs)
    (hdisjoint : (runs.map source).Pairwise fun s s' => ∀ n, s.contains n = true → s'.contains n = false)
    {n m : Nat} (h : r.image? n = some m) : applyAll runs n = m := by
  unfold applyAll
  suffices hfirst : runs.findSome? (·.image? n) = some m by rw [hfirst, Option.getD_some]
  induction runs with
  | nil => cases hr
  | cons r' runs ih =>
    rw [List.map_cons, List.pairwise_cons] at hdisjoint
    rw [List.findSome?_cons]
    rcases List.mem_cons.mp hr with rfl | hr
    · rw [h]
    · -- the run at the head moves something else
      cases hhead : r'.image? n with
      | none => exact ih hr hdisjoint.2
      | some m' =>
        have hfalse := hdisjoint.1 _ (List.mem_map_of_mem hr) n (image?_eq_some_iff.mp hhead).1
        rw [(image?_eq_some_iff.mp h).1] at hfalse
        cases hfalse

/-- What is in no run stays. -/
theorem applyAll_eq_self {runs : List CaseRun} {n : Nat}
    (h : (runs.map source).any (·.contains n) = false) : applyAll runs n = n := by
  rcases applyAll_cases runs n with hstay | ⟨r, hr, hmoved⟩
  · exact hstay
  · rw [List.any_eq_false] at h
    exact absurd (image?_eq_some_iff.mp hmoved).1 (h _ (List.mem_map_of_mem hr))

end CaseRun

/-! ## §3 Case folding -/

/-- The code points that case folding moves. -/
def CharTable.foldSources : CharTable := foldRuns.map CaseRun.source

/-- The code points that case folding moves others to. -/
def CharTable.foldImages : CharTable := foldRuns.map CaseRun.image

theorem CharTable.steps_foldSources : ∀ s ∈ foldSources, 0 < s.step := by decide +kernel

/-- No two runs of case folding have anything in common. -/
theorem CharTable.pairwise_foldSources :
    foldSources.Pairwise fun s s' => ∀ n, s.contains n = true → s'.contains n = false :=
  (of_disjointFrom (b := 0) steps_foldSources (by decide +kernel)).1

/-- Where case folding moves the beginning of a stretch to, if it moves all of it as one, or none. -/
def CharRange.foldStart? (s : CharRange) : Option Nat :=
  bif Nat.beq (s.bits &&& CharTable.foldSources.bits) 0 then some s.first
  else (foldRuns.find? (·.source.covers s)).map fun r => r.target + (s.first - r.first)

/-- A stretch is folded as its beginning is. -/
theorem CharRange.applyAll_eq_of_foldStart? {s : CharRange} (hstep : 0 < s.step) {k : Nat}
    (h : s.foldStart? = some k) {n : Nat} (hn : s.contains n = true) :
    CaseRun.applyAll foldRuns n = k + (n - s.first) := by
  obtain ⟨hfirst, -, -⟩ := contains_iff.mp hn
  rw [foldStart?] at h
  cases hnone : Nat.beq (s.bits &&& CharTable.foldSources.bits) 0 with
  | true =>
    rw [hnone, cond_true, Option.some.injEq] at h
    have hbit : (s.bits &&& CharTable.foldSources.bits).testBit n = false := by
      rw [Nat.eq_of_beq_eq_true hnone, Nat.zero_testBit]
    rw [Nat.testBit_and, testBit_bits hstep, hn, Bool.true_and,
      CharTable.testBit_bits CharTable.steps_foldSources] at hbit
    rw [CaseRun.applyAll_eq_self hbit]
    omega
  | false =>
    rw [hnone, cond_false] at h
    obtain ⟨r, hr, rfl⟩ := Option.map_eq_some_iff.mp h
    have hcovers : r.source.covers s = true := 
      List.find?_some (p := fun (r : CaseRun) => r.source.covers s) hr
    have hbegin : r.first ≤ s.first := by
      simp only [covers, Bool.and_eq_true, Nat.ble_eq] at hcovers
      exact hcovers.1.1.2
    rw [CaseRun.applyAll_eq_of_mem (List.mem_of_find?_eq_some hr) CharTable.pairwise_foldSources
      (CaseRun.image?_eq_some_iff.mpr ⟨contains_of_covers hcovers hn, rfl⟩)]
    omega

end AggregateNaming.Text
