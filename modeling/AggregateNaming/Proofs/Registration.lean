import AggregateNaming.RuleSet
import Mathlib.Data.List.Nodup
import Mathlib.Data.List.Sort
import Mathlib.Tactic.SplitIfs

/-!
# Registration

What it means to register an object in a rule set: when it succeeds, what is found afterwards, and
what stays as it was.

## Main statements

- `Pool.eq_of_mem_iff` : a pool is known by its objects.
- `Pool.find?_eq_some_iff` : an object is found under its id and under no other one.
- `RuleSet.register_eq_error_iff` : registration fails for a blank or a taken id, and says which.
- `RuleSet.lookup_register_self`, `RuleSet.lookup_register_of_ne` : what is found afterwards.
-/

namespace AggregateNaming

/-! ## §1 Pools -/

namespace Pool

variable {k : Kind}

/-- No id is there twice. -/
theorem nodup_map_idOf (pool : Pool k) : (pool.objects.map k.idOf).Nodup := by
  refine List.pairwise_map.mpr (pool.sorted.imp ?_)
  intro a b hlt heq
  rw [heq] at hlt
  exact String.lt_irrefl _ hlt

/-- Two objects of a pool with the same id are the same. -/
theorem eq_of_idOf_eq (pool : Pool k) {o o' : k.Object} (ho : o ∈ pool.objects)
    (ho' : o' ∈ pool.objects) (hid : k.idOf o = k.idOf o') : o = o' :=
  List.inj_on_of_nodup_map pool.nodup_map_idOf ho ho' hid

/-- Two pools with the same objects are the same, as both have them in the order of their ids. -/
theorem eq_of_mem_iff {p q : Pool k} (h : ∀ o, o ∈ p.objects ↔ o ∈ q.objects) : p = q := by
  let before (o o' : k.Object) : Prop := k.idOf o < k.idOf o'
  have : Std.Irrefl before := ⟨fun _ => String.lt_irrefl _⟩
  have : Std.Antisymm before :=
    ⟨fun _ _ hlt hgt => absurd (String.lt_trans hlt hgt) (String.lt_irrefl _)⟩
  have hobjects : p.objects = q.objects :=
    List.Pairwise.eq_of_mem_iff (r := before) p.sorted q.sorted h
  cases p
  cases q
  simpa using hobjects

/-- An object is found under its id and under no other one. -/
theorem find?_eq_some_iff (pool : Pool k) (id : String) (o : k.Object) :
    pool.find? id = some o ↔ o ∈ pool.objects ∧ k.idOf o = id := by
  constructor
  · intro h
    exact ⟨List.mem_of_find?_eq_some h, by simpa using List.find?_some h⟩
  · rintro ⟨hmem, rfl⟩
    obtain ⟨o', hfind⟩ : ∃ o', pool.find? (k.idOf o) = some o' := by
      rw [← Option.isSome_iff_exists, Pool.find?, List.find?_isSome]
      exact ⟨o, hmem, by simp⟩
    have hid : k.idOf o' = k.idOf o := by simpa using List.find?_some hfind
    rw [hfind, pool.eq_of_idOf_eq (List.mem_of_find?_eq_some hfind) hmem hid]

/-- No object is found under a blank id. -/
theorem not_blank_of_find? (pool : Pool k) {id : String} {o : k.Object}
    (h : pool.find? id = some o) : Text.isBlankText id = false := by
  obtain ⟨hmem, rfl⟩ := (pool.find?_eq_some_iff id o).mp h
  exact pool.named o hmem

/-- An insertion adds one object, wherever it puts it. -/
theorem perm_insertSorted (o : k.Object) (l : List k.Object) :
    (insertSorted k o l).Perm (o :: l) := by
  induction l with
  | nil => exact .refl _
  | cons p ps ih =>
    rw [insertSorted]
    split
    · exact .refl _
    · exact (ih.cons p).trans (.swap o p ps)

/-- What a pool finds after an insertion. -/
theorem find?_insert_eq_some_iff (pool : Pool k) (o : k.Object)
    (named : Text.isBlankText (k.idOf o) = false) (isNew : pool.find? (k.idOf o) = none)
    (id : String) (x : k.Object) :
    (pool.insert o named isNew).find? id = some x ↔
      (x = o ∧ k.idOf o = id) ∨ pool.find? id = some x := by
  rw [find?_eq_some_iff, find?_eq_some_iff]
  show x ∈ insertSorted k o pool.objects ∧ k.idOf x = id ↔ _
  rw [mem_insertSorted]
  constructor
  · rintro ⟨rfl | hmem, hid⟩
    · exact Or.inl ⟨rfl, hid⟩
    · exact Or.inr ⟨hmem, hid⟩
  · rintro (⟨rfl, hid⟩ | ⟨hmem, hid⟩)
    · exact ⟨Or.inl rfl, hid⟩
    · exact ⟨Or.inr hmem, hid⟩

end Pool

/-! ## §2 Rule sets -/

namespace RuleSet

variable {s s' : RuleSet} {k : Kind} {o : k.Object}

/-- Registration in terms of the pool of its kind. -/
theorem register_eq (s : RuleSet) (k : Kind) (o : k.Object) :
    s.register k o =
      if named : Text.isBlankText (k.idOf o) = true then .error (.document (.blankId k))
      else if isNew : (s.pools k).find? (k.idOf o) = none then
        .ok (s.withPool k ((s.pools k).insert o (by simpa using named) isNew))
      else .error (.duplicateId k (k.idOf o)) := by
  unfold register add Pool.add
  split_ifs <;> rfl

/-- Registration fails for a blank id and for one that is taken, and for no other reason. -/
theorem register_eq_error_iff {e : RuleError} :
    s.register k o = .error e ↔
      (Text.isBlankText (k.idOf o) = true ∧ e = .document (.blankId k)) ∨
      (Text.isBlankText (k.idOf o) = false ∧ (s.lookup k (k.idOf o)).isSome ∧
        e = .duplicateId k (k.idOf o)) := by
  rw [register_eq]
  split_ifs with hblank hnew
  · rw [Except.error.injEq, eq_comm]
    simp [hblank]
  · simp [hblank, lookup, hnew]
  · have hsome : (s.lookup k (k.idOf o)).isSome = true := Option.isSome_iff_ne_none.mpr hnew
    rw [Except.error.injEq, eq_comm]
    simp [hblank, hsome]

/-- Registration succeeds for a new id that is not blank. -/
theorem register_succeeds_iff :
    (∃ s', s.register k o = .ok s') ↔
      Text.isBlankText (k.idOf o) = false ∧ s.lookup k (k.idOf o) = none := by
  rw [register_eq]
  split_ifs with hblank hnew
  · simp [hblank]
  · simp [hblank, lookup, hnew]
  · simp [hblank, lookup, hnew]

/-- A successful registration adds the object to the pool of its kind. -/
theorem exists_insert_of_register (h : s.register k o = .ok s') :
    ∃ named isNew, s' = s.withPool k ((s.pools k).insert o named isNew) := by
  rw [register_eq] at h
  split_ifs at h with hblank hnew
  · cases h
    exact ⟨by simpa using hblank, hnew, rfl⟩

/-- Registration does not touch the rules. -/
theorem rules_register (h : s.register k o = .ok s') : s'.rules = s.rules := by
  obtain ⟨_, _, rfl⟩ := exists_insert_of_register h
  rfl

/-- A registered object is found under its id. -/
theorem lookup_register_self (h : s.register k o = .ok s') :
    s'.lookup k (k.idOf o) = some o := by
  obtain ⟨named, isNew, rfl⟩ := exists_insert_of_register h
  have hfind := ((s.pools k).find?_insert_eq_some_iff o named isNew (k.idOf o) o).mpr
    (Or.inl ⟨rfl, rfl⟩)
  simpa [lookup, withPool] using hfind

/-- Registration does not change what is found under other ids, or in other pools. -/
theorem lookup_register_of_ne (h : s.register k o = .ok s') {k' : Kind} {id : String}
    (hne : k' = k → id ≠ k.idOf o) : s'.lookup k' id = s.lookup k' id := by
  obtain ⟨named, isNew, rfl⟩ := exists_insert_of_register h
  by_cases hk : k = k'
  · subst hk
    have hid : id ≠ k.idOf o := hne rfl
    apply Option.ext
    intro x
    have hfind := (s.pools k).find?_insert_eq_some_iff o named isNew id x
    simp only [hid.symm, and_false, false_or] at hfind
    simpa [lookup, withPool] using hfind
  · simp [lookup, withPool, hk]

/-- What has been found stays found. -/
theorem lookup_register_of_some (h : s.register k o = .ok s') {k' : Kind} {id : String}
    {o' : k'.Object} (hfind : s.lookup k' id = some o') : s'.lookup k' id = some o' := by
  have hnew : s.lookup k (k.idOf o) = none := (register_succeeds_iff.mp ⟨s', h⟩).2
  rw [lookup_register_of_ne h, hfind]
  rintro rfl rfl
  simp [hfind] at hnew

end RuleSet

end AggregateNaming
