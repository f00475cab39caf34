import AggregateNaming.Proofs.Filling
import AggregateNaming.Proofs.History

/-!
# What validation guarantees

A rule set that has passed validation can be used: the rule that is asked for is there, its slots
are bound to objects in order, and what a request can still fail for is a refused pattern.

## Main definitions

- `Rule.Ready` : the slots of a rule are bound to objects in order.
- `Slot.Declared` : a side of the declaration of a slot counts.

## Main statements

- `Rule.ready_resolve` : validation makes the enabled rules of a valid rule set ready.
- `Rule.Ready.recognizer_eq_error` : a ready rule fails for refused patterns only.
- `RuleSet.select_tag`, `RuleSet.select_default` : selection finds the one rule that is meant.
- `RuleSet.validation_guarantees` : all of this after a validation that has succeeded.
-/

namespace AggregateNaming

/-! ## §1 Ready rules -/

/-- The slots of a rule are bound to objects that are in order, but the one that a rule can do
without may be free. -/
structure Rule.Ready (r : Rule) : Prop where
  bound : ∀ k, k ≠ .ignore → ∃ o, (r.slots k).bound = some o ∧ k.Valid o
  ignore : ∀ o, (r.slots .ignore).bound = some o → Kind.Valid .ignore o

/-- What a valid declaration selects is in order. -/
theorem Slot.Valid.target {k : Kind} {pool : Pool k} {s : Slot k} (hvalid : s.Valid pool)
    (hpool : ∀ o ∈ pool.objects, k.Valid o) {o : k.Object} (h : s.target? pool.find? = some o) :
    k.Valid o := by
  obtain ⟨-, -, hinlined, -⟩ := (s.valid_iff_usable pool).mp hvalid
  rcases Slot.target?_eq_some_iff.mp h with hsel | ⟨r, -, -, hfind⟩
  · refine hinlined o ?_
    unfold Slot.selection at hsel
    split at hsel <;> simp_all
  · exact hpool o (List.mem_of_find?_eq_some hfind)

/-- A side of the declaration of a slot counts. -/
def Slot.Declared {k : Kind} (s : Slot k) : Prop :=
  (∃ o, s.inlined = some o ∧ k.isEnabled o = true) ∨
    ∃ r, s.reference = some r ∧ r.enabled = true

/-- A valid declaration selects an object, if a side of it counts. -/
theorem Slot.Valid.exists_target {k : Kind} {pool : Pool k} {s : Slot k} (hvalid : s.Valid pool)
    (hdeclared : s.Declared) : ∃ o, s.target? pool.find? = some o := by
  obtain ⟨hboth, -, -, hreference⟩ := (s.valid_iff_usable pool).mp hvalid
  cases hi : s.usableInlined with
  | some o =>
    -- both sides cannot count, so the reference does not
    have hr : s.usableReference = none := by
      cases hr : s.usableReference with
      | none => rfl
      | some r => exact absurd hr (hboth o r hi)
    exact ⟨o, Slot.target?_eq_some_iff.mpr (Or.inl (by simp [Slot.selection, hi, hr]))⟩
  | none =>
    obtain ⟨r, hr⟩ : ∃ r, s.usableReference = some r := by
      rcases hdeclared with ⟨o, ho⟩ | ⟨r, hr⟩
      · rw [Slot.usableInlined_eq_some_iff.mpr ho] at hi
        cases hi
      · exact ⟨r, Slot.usableReference_eq_some_iff.mpr hr⟩
    obtain ⟨hnamed, hmem⟩ := hreference r hr
    obtain ⟨o, ho⟩ := (pool.exists_find?_iff r.id).mpr hmem
    exact ⟨o, Slot.target?_eq_some_iff.mpr
      (Or.inr ⟨r, by simp [Slot.selection, hi, hr], hnamed, ho⟩)⟩

/-- Validation binds a slot to what its declaration selects, also where it had been bound before. -/
theorem RuleSet.Sound.bound_resolve {s : RuleSet} (hs : s.Sound) {r : Rule} (hr : r ∈ s.rules)
    (hon : r.enabled = true) (k : Kind) :
    ((r.resolve s.lookup).slots k).bound = (r.slots k).target? (s.lookup k) := by
  rw [Rule.slots_resolve, if_pos hon]
  cases hb : (r.slots k).bound with
  | none => simp [Slot.resolve, hb]
  | some o =>
    rw [Slot.bound_resolve_of_some hb]
    exact (hs r hr k o hb).symm

@[simp] theorem Rule.tag_resolve (find : (k : Kind) → String → Option k.Object) (r : Rule) :
    (r.resolve find).tag = r.tag := by
  unfold Rule.resolve
  split <;> rfl

@[simp] theorem Rule.enabled_resolve (find : (k : Kind) → String → Option k.Object) (r : Rule) :
    (r.resolve find).enabled = r.enabled := by
  unfold Rule.resolve
  split <;> rfl

@[simp] theorem Rule.isDefault_resolve (find : (k : Kind) → String → Option k.Object) (r : Rule) :
    (r.resolve find).isDefault = r.isDefault := by
  unfold Rule.resolve
  split <;> rfl

/-- Validation makes the enabled rules of a valid rule set ready. -/
theorem Rule.ready_resolve {s : RuleSet} (hs : s.Sound) (hvalid : s.Valid) {r : Rule}
    (hr : r ∈ s.rules) (hon : r.enabled = true) : (r.resolve s.lookup).Ready := by
  have hslots := (hvalid.rules r hr hon).slots
  constructor
  · intro k hk
    rw [hs.bound_resolve hr hon]
    obtain ⟨o, ho⟩ := (hslots k).exists_target ((hslots k).given hk)
    exact ⟨o, ho, (hslots k).target (hvalid.pooled k) ho⟩
  · intro o ho
    rw [hs.bound_resolve hr hon] at ho
    exact (hslots .ignore).target (hvalid.pooled .ignore) ho

/-- The object that a request of a ready rule comes to. -/
theorem Rule.Ready.boundTo {r : Rule} (h : r.Ready) {k : Kind} (hk : k ≠ .ignore) :
    ∃ o, r.boundTo k = .ok o ∧ k.Valid o := by
  obtain ⟨o, ho, hvalid⟩ := h.bound k hk
  exact ⟨o, by simp only [Rule.boundTo, ho], hvalid⟩

/-! ## §2 Requests of ready rules -/

/-- A ready rule has a recognizer for the column that counts facts. -/
theorem Rule.Ready.recognizer_factCount {r : Rule} (h : r.Ready) :
    ∃ m, r.recognizer .factCount = .ok m := by
  obtain ⟨o, ho, -⟩ := h.boundTo (k := .factCount) (by decide)
  unfold Rule.recognizer
  simp only [ho, bind, Except.bind]
  cases r.countColumn with
  | some column => exact FixedName.recognizerFor_eq_ok o column
  | none => exact FixedName.recognizerFor_eq_ok o _

/-- A ready rule has a recognizer for the columns that are left alone. -/
theorem Rule.Ready.recognizer_ignore {r : Rule} (h : r.Ready) :
    ∃ m, r.recognizer .ignore = .ok m := by
  unfold Rule.recognizer
  cases hb : (r.slots .ignore).bound with
  | none => exact ⟨.never, rfl⟩
  | some o => exact TemplateMap.recognizer_ignore_eq_ok (h.ignore o hb)

/-- A ready rule fails for refused patterns only. -/
theorem Rule.Ready.recognizer_eq_error {r : Rule} (h : r.Ready) {q : Request} {e : RuleError}
    (he : r.recognizer q = .error e) : ∃ cause, e = .pattern cause := by
  cases q with
  | factCount =>
    obtain ⟨m, hm⟩ := h.recognizer_factCount
    rw [hm] at he
    cases he
  | ignore =>
    obtain ⟨m, hm⟩ := h.recognizer_ignore
    rw [hm] at he
    cases he
  | foreignKey key =>
    obtain ⟨o, ho, hvalid⟩ := h.boundTo (k := .foreignKey) (by decide)
    simp only [Rule.recognizer, ho] at he
    exact DerivedName.recognizer_eq_error hvalid he
  | table fact =>
    obtain ⟨o, ho, hvalid⟩ := h.boundTo (k := .table) (by decide)
    simp only [Rule.recognizer, ho] at he
    exact DerivedName.recognizer_eq_error hvalid he
  | level names =>
    obtain ⟨o, ho, hvalid⟩ := h.boundTo (k := .level) (by decide)
    simp only [Rule.recognizer, ho] at he
    exact TemplateMap.recognizer_eq_error hvalid names.covers he
  | measure names =>
    obtain ⟨o, ho, hvalid⟩ := h.boundTo (k := .measure) (by decide)
    simp only [Rule.recognizer, ho] at he
    exact TemplateMap.recognizer_eq_error hvalid names.covers he

/-! ## §3 Selection -/

namespace RuleSet

/-- Rules in two places do not share a tag where tags are distinct. -/
theorem index_eq_of_tag {rules : List Rule} (hdistinct : (rules.map (·.tag)).Nodup) {i j : Nat}
    {r r' : Rule} (hi : rules[i]? = some r) (hj : rules[j]? = some r') (htag : r.tag = r'.tag) :
    i = j := by
  have hlength : i < (rules.map (·.tag)).length := by
    simpa using (List.getElem?_eq_some_iff.mp hi).1
  refine (List.getElem?_inj hlength hdistinct).mp ?_
  simp [hi, hj, htag]

/-- Under the tag of an enabled rule that very rule is selected. -/
theorem select_tag {s : RuleSet} (hdistinct : (s.rules.map (·.tag)).Nodup) {i : Nat} {r : Rule}
    (hi : s.rules[i]? = some r) (hon : r.enabled = true) :
    s.select (some r.tag) = .ok (r, i) := by
  unfold select
  dsimp only
  cases hfind : s.rules.zipIdx.find? fun r' => r'.1.enabled && r'.1.tag == r.tag with
  | none =>
    have hnone := List.find?_eq_none.mp hfind (r, i) (List.mem_zipIdx_iff_getElem?.mpr hi)
    simp [hon] at hnone
  | some found =>
    obtain ⟨r', j⟩ := found
    have hj := List.mem_zipIdx_iff_getElem?.mp (List.mem_of_find?_eq_some hfind)
    have hfound := List.find?_some hfind
    simp only [Bool.and_eq_true, beq_iff_eq] at hfound
    -- whatever is found has the same tag, so it is in the same place
    obtain rfl := index_eq_of_tag hdistinct hj hi hfound.2
    rw [hi, Option.some.injEq] at hj
    subst hj
    rfl

/-- A tag is refused when no enabled rule has it, and for nothing else. -/
theorem rule_tag_eq_error_iff (s : RuleSet) (tag : String) :
    s.rule (some tag) = .error (.unknownRule tag) ↔
      ∀ r ∈ s.rules, r.enabled = true → r.tag ≠ tag := by
  unfold rule select
  dsimp only
  cases hfind : s.rules.zipIdx.find? fun r => r.1.enabled && r.1.tag == tag with
  | none =>
    refine iff_of_true rfl fun r hr hon htag => ?_
    obtain ⟨i, hi⟩ := List.getElem?_of_mem hr
    have hnone := List.find?_eq_none.mp hfind (r, i) (List.mem_zipIdx_iff_getElem?.mpr hi)
    simp [hon, htag] at hnone
  | some found =>
    refine iff_of_false (by intro h; cases h) fun h => ?_
    have hj := List.mem_zipIdx_iff_getElem?.mp (List.mem_of_find?_eq_some hfind)
    have hfound := List.find?_some hfind
    simp only [Bool.and_eq_true, beq_iff_eq] at hfound
    exact h found.1 (List.mem_of_getElem? hj) hfound.1 hfound.2

/-- Where there is one default, it is selected, and it is the only one. -/
theorem select_default {s : RuleSet}
    (hone : s.rules.countP (fun r => r.enabled && r.isDefault) = 1) :
    ∃ r i, s.rules[i]? = some r ∧ r.enabled = true ∧ r.isDefault = true ∧
      (∀ j r', s.rules[j]? = some r' → r'.enabled = true → r'.isDefault = true → j = i) ∧
      s.select none = .ok (r, i) := by
  have hlength : (s.rules.zipIdx.filter (·.1.isUsableDefault)).length = 1 := by
    rw [← List.countP_eq_length_filter, ← hone]
    conv_rhs => rw [← List.zipIdx_map_fst 0 s.rules, List.countP_map]
    rfl
  obtain ⟨⟨r, i⟩, honly⟩ := List.length_eq_one_iff.mp hlength
  -- being in a place and passing the filter is being the one that does
  have hmem : ∀ r' j, s.rules[j]? = some r' ∧ r'.isUsableDefault = true ↔ (r', j) = (r, i) := by
    intro r' j
    rw [← List.mem_singleton (a := (r', j)), ← honly, List.mem_filter,
      List.mem_zipIdx_iff_getElem?]
  obtain ⟨hi, hdefault⟩ := (hmem r i).mpr rfl
  simp only [Rule.isUsableDefault, Bool.and_eq_true] at hmem hdefault
  refine ⟨r, i, hi, hdefault.1, hdefault.2, fun j r' hj hon hflag => ?_, ?_⟩
  · exact (Prod.mk.injEq _ _ _ _ ▸ (hmem r' j).mp ⟨hj, hon, hflag⟩).2
  · unfold select
    rw [honly]

/-! ## §4 After validation -/

/-- A validation that succeeds is one of a valid rule set, and leaves it with its slots bound. -/
theorem eq_resolve_of_validation {s s' : RuleSet}
    (hok : (∃ recorder, (s.validate.run recorder).1 = (true, s')) ∨ s.validated = .ok s') :
    s.Valid ∧ s' = s.resolve := by
  rcases hok with ⟨recorder, h⟩ | h
  · exact ⟨(s.check_decides recorder).mp (congrArg Prod.fst h), (congrArg Prod.snd h).symm⟩
  · change (if (s.check.run {}).1 then Except.ok s.resolve else _) = _ at h
    split at h
    next hcheck =>
      cases h
      exact ⟨(s.check_decides {}).mp hcheck, rfl⟩
    · cases h

/-- What consumers may rely on once validation has succeeded: the default is found and is the only
one; every enabled rule is found under its tag, and a tag that no enabled rule has is unknown; no
request of an enabled rule comes to a free slot or to a template that cannot be filled; and the
requests for the column that counts facts and for the columns that are left alone succeed. -/
theorem validation_guarantees {s s' : RuleSet} (hs : s.Reachable)
    (hok : (∃ recorder, (s.validate.run recorder).1 = (true, s')) ∨ s.validated = .ok s') :
    (∃ r i, s'.rules[i]? = some r ∧ r.enabled = true ∧ r.isDefault = true ∧
      (∀ j r', s'.rules[j]? = some r' → r'.enabled = true → r'.isDefault = true → j = i) ∧
      s'.select none = .ok (r, i) ∧ s'.rule none = .ok r) ∧
    (∀ (i : Nat) r, s'.rules[i]? = some r → r.enabled = true →
      s'.select (some r.tag) = .ok (r, i) ∧ s'.rule (some r.tag) = .ok r) ∧
    (∀ tag, s'.rule (some tag) = .error (.unknownRule tag) ↔
      ∀ r ∈ s'.rules, r.enabled = true → r.tag ≠ tag) ∧
    (∀ r ∈ s'.rules, r.enabled = true → ∀ q : Request,
      (∀ tag k, r.recognizer q ≠ .error (.unresolved tag k)) ∧
      (∀ cause, r.recognizer q ≠ .error (.template cause))) ∧
    (∀ r ∈ s'.rules, r.enabled = true →
      (∃ m, r.recognizer .factCount = .ok m) ∧ ∃ m, r.recognizer .ignore = .ok m) := by
  obtain ⟨hvalid, rfl⟩ := eq_resolve_of_validation hok
  obtain ⟨tag, cs, rfl⟩ := hs
  -- binding slots changes neither tags nor flags, so what was found out about them still holds
  have hdistinct : ((run tag cs).resolve.rules.map (·.tag)).Nodup := by
    simpa [RuleSet.resolve, Function.comp_def] using hvalid.distinct
  have hone : (run tag cs).resolve.rules.countP (fun r => r.enabled && r.isDefault) = 1 := by
    simpa [RuleSet.resolve, List.countP_map, Function.comp_def] using hvalid.oneDefault
  have hready : ∀ r ∈ (run tag cs).resolve.rules, r.enabled = true → r.Ready := by
    intro r hr hon
    obtain ⟨r₀, hr₀, rfl⟩ := List.mem_map.mp hr
    rw [Rule.enabled_resolve] at hon
    exact Rule.ready_resolve (sound_run tag cs) hvalid hr₀ hon
  refine ⟨?_, ?_, rule_tag_eq_error_iff _, ?_, ?_⟩
  · obtain ⟨r, i, hi, hon, hflag, honly, hselect⟩ := select_default hone
    exact ⟨r, i, hi, hon, hflag, honly, hselect, by rw [rule, hselect]; rfl⟩
  · intro i r hi hon
    have hselect := select_tag hdistinct hi hon
    exact ⟨hselect, by rw [rule, hselect]; rfl⟩
  · intro r hr hon q
    constructor
    · intro tag' k he
      obtain ⟨cause, hcause⟩ := (hready r hr hon).recognizer_eq_error he
      cases hcause
    · intro cause' he
      obtain ⟨cause, hcause⟩ := (hready r hr hon).recognizer_eq_error he
      cases hcause
  · intro r hr hon
    exact ⟨(hready r hr hon).recognizer_factCount, (hready r hr hon).recognizer_ignore⟩

/-- A rule with an object of its own in every slot. -/
def plainRule : Rule where
  tag := "plain"
  isDefault := true
  slots
    | .factCount => { inlined := some {} }
    | .foreignKey => { inlined := some {} }
    | .table => { inlined := some {} }
    | .level => { inlined := some {} }
    | .measure => { inlined := some {} }
    | .ignore => {}

/-- A rule set of one rule. -/
def plain : RuleSet := run "plain" [.pushRule plainRule (by intro k; cases k <;> rfl)]

theorem plain_validated : plain.validated = .ok plain.resolve := by
  rfl

/-- A rule set to which the guarantees apply. -/
theorem validation_guarantees_plain :
    plain.validated = .ok plain.resolve ∧
    ∃ r, plain.resolve.rule none = .ok r ∧ ∃ m, r.recognizer .factCount = .ok m := by
  have hguarantees := validation_guarantees ⟨_, _, rfl⟩ (Or.inr plain_validated)
  obtain ⟨r, i, hi, hon, -, -, -, hrule⟩ := hguarantees.1
  exact ⟨plain_validated, r, hrule,
    (hguarantees.2.2.2.2 r (List.mem_of_getElem? hi) hon).1⟩

end RuleSet

end AggregateNaming
