import AggregateNaming.Proofs.Registration
import Mathlib.Data.List.Induction

/-!
# Histories of rule sets

A rule set comes about step by step: objects are registered, rules are added, and validation binds
slots, in any order and any number of times. Here is what holds in every state on the way.

## Main definitions

- `Command` : one thing that can be done to a rule set; `RuleSet.step` does it.
- `RuleSet.run` : the rule set after a list of commands.
- `RuleSet.Sound` : every bound slot holds the object that its declaration selects.
- `FirstRegistered` : an object is the first one whose registration under an id succeeded.

## Main statements

- `RuleSet.sound_step` and `RuleSet.sound_run` : soundness is kept by every step, and so by every
  run.
- `RuleSet.run_invariants` : what is looked up, what a failed registration changes, and what slots
  are bound to, in every state of every run.
-/

namespace AggregateNaming

/-! ## §1 Commands and runs -/

/-- One thing that can be done to a rule set. -/
inductive Command where
  /-- An object is registered. -/
  | register (k : Kind) (o : k.Object)
  /-- A rule is added. Nothing but validation binds slots, so that the slots of a new rule are not
  bound. -/
  | pushRule (r : Rule) (unbound : ∀ k, (r.slots k).bound = none)
  /-- The rule set is validated. -/
  | validate (recorder : Recorder)

namespace RuleSet

/-- The rule set after a command. A registration that fails leaves it as it is. -/
def step (s : RuleSet) : Command → RuleSet
  | .register k o =>
    match s.register k o with
    | .ok s' => s'
    | .error _ => s
  | .pushRule r _ => s.pushRule r
  | .validate recorder => (s.validate.run recorder).1.2

/-- The rule set with a tag after a list of commands. -/
def run (tag : String) (cs : List Command) : RuleSet := cs.foldl step { tag }

/-- A rule set that some list of commands leads to. -/
def Reachable (s : RuleSet) : Prop := ∃ tag cs, s = run tag cs

@[simp] theorem run_nil (tag : String) : run tag [] = { tag } := rfl

theorem run_concat (tag : String) (cs : List Command) (c : Command) :
    run tag (cs ++ [c]) = (run tag cs).step c := by
  simp [run, List.foldl_append]

@[simp] theorem step_pushRule (s : RuleSet) (r : Rule) (h : ∀ k, (r.slots k).bound = none) :
    s.step (.pushRule r h) = s.pushRule r := rfl

/-- Validation binds slots, whatever it reports. -/
@[simp] theorem step_validate (s : RuleSet) (recorder : Recorder) :
    s.step (.validate recorder) = s.resolve := rfl

/-- A registration that fails changes nothing. -/
theorem step_register_error {s : RuleSet} {k : Kind} {o : k.Object} {e : RuleError}
    (h : s.register k o = .error e) : s.step (.register k o) = s := by
  simp [step, h]

theorem step_register_ok {s s' : RuleSet} {k : Kind} {o : k.Object}
    (h : s.register k o = .ok s') : s.step (.register k o) = s' := by
  simp [step, h]

/-! ## §2 Looking up -/

@[simp] theorem lookup_new (tag : String) (k : Kind) (id : String) :
    ({ tag } : RuleSet).lookup k id = none := rfl

@[simp] theorem lookup_pushRule (s : RuleSet) (r : Rule) (k : Kind) (id : String) :
    (s.pushRule r).lookup k id = s.lookup k id := rfl

@[simp] theorem lookup_resolve (s : RuleSet) (k : Kind) (id : String) :
    s.resolve.lookup k id = s.lookup k id := rfl

/-- What has been found is found after every command. -/
theorem lookup_step_of_some {s : RuleSet} {k : Kind} {id : String} {o : k.Object}
    (h : s.lookup k id = some o) (c : Command) : (s.step c).lookup k id = some o := by
  cases c with
  | register k' o' =>
    cases hreg : s.register k' o' with
    | error e => rwa [step_register_error hreg]
    | ok s' =>
      rw [step_register_ok hreg]
      exact lookup_register_of_some hreg h
  | pushRule r unbound => simpa using h
  | validate recorder => simpa using h

/-- What has been found is found in every later state. -/
theorem lookup_run_append {tag : String} {cs : List Command} {k : Kind} {id : String}
    {o : k.Object} (h : (run tag cs).lookup k id = some o) (later : List Command) :
    (run tag (cs ++ later)).lookup k id = some o := by
  -- by the later commands from the last one, as a run does its last command last
  induction later using List.reverseRecOn with
  | nil => simpa using h
  | append_singleton later c ih =>
    rw [← List.append_assoc, run_concat]
    exact lookup_step_of_some ih c

/-- What a command makes to be found is what it registers. -/
theorem lookup_step_eq_some {s : RuleSet} {c : Command} {k : Kind} {id : String} {o : k.Object}
    (h : (s.step c).lookup k id = some o) :
    s.lookup k id = some o ∨
      (c = .register k o ∧ k.idOf o = id ∧ ∃ s', s.register k o = .ok s') := by
  cases c with
  | register k' o' =>
    cases hreg : s.register k' o' with
    | error e => exact Or.inl (by rwa [step_register_error hreg] at h)
    | ok s' =>
      rw [step_register_ok hreg] at h
      -- under any other id, and in any other pool, the same is found as before
      by_cases hother : k = k' → id ≠ k'.idOf o'
      · exact Or.inl (by rwa [lookup_register_of_ne hreg hother] at h)
      · obtain ⟨rfl, hid⟩ : ∃ hk : k = k', id = k'.idOf o' := by
          simpa [Classical.not_imp] using hother
        subst hid
        rw [lookup_register_self hreg, Option.some.injEq] at h
        subst h
        exact Or.inr ⟨rfl, rfl, s', hreg⟩
  | pushRule r unbound => exact Or.inl (by simpa using h)
  | validate recorder => exact Or.inl (by simpa using h)

/-- An object that is found has been registered at some point. -/
theorem exists_register_of_lookup {tag : String} {cs : List Command} {k : Kind} {id : String}
    {o : k.Object} (h : (run tag cs).lookup k id = some o) :
    ∃ before after, cs = before ++ .register k o :: after ∧ k.idOf o = id ∧
      ∃ s', (run tag before).register k o = .ok s' := by
  induction cs using List.reverseRecOn with
  | nil => simp at h
  | append_singleton cs c ih =>
    rw [run_concat] at h
    rcases lookup_step_eq_some h with hold | ⟨rfl, hid, hreg⟩
    · obtain ⟨before, after, rfl, hid, hreg⟩ := ih hold
      exact ⟨before, after ++ [c], by simp, hid, hreg⟩
    · exact ⟨cs, [], rfl, hid, hreg⟩

end RuleSet

/-- The first object of a kind whose registration under an id succeeded in a run. -/
def FirstRegistered (tag : String) (cs : List Command) (k : Kind) (id : String)
    (o : k.Object) : Prop :=
  ∃ before after, cs = before ++ .register k o :: after ∧ k.idOf o = id ∧
    (∃ s', (RuleSet.run tag before).register k o = .ok s') ∧
    ∀ earlier o' between, before = earlier ++ .register k o' :: between → k.idOf o' = id →
      ∀ s', (RuleSet.run tag earlier).register k o' ≠ .ok s'

namespace RuleSet

/-- A successful registration is found in every later state. -/
theorem lookup_run_of_register {tag : String} {before : List Command} {k : Kind} {o : k.Object}
    {s' : RuleSet} (h : (run tag before).register k o = .ok s') (after : List Command) :
    (run tag (before ++ .register k o :: after)).lookup k (k.idOf o) = some o := by
  have hnow : (run tag (before ++ [.register k o])).lookup k (k.idOf o) = some o := by
    rw [run_concat, step_register_ok h]
    exact lookup_register_self h
  simpa using lookup_run_append hnow after

/-- What is found under an id is the first object that was registered under it. -/
theorem lookup_run_eq_some_iff (tag : String) (cs : List Command) (k : Kind) (id : String)
    (o : k.Object) :
    (run tag cs).lookup k id = some o ↔ FirstRegistered tag cs k id o := by
  constructor
  · intro h
    obtain ⟨before, after, rfl, hid, hreg⟩ := exists_register_of_lookup h
    refine ⟨before, after, rfl, hid, hreg, ?_⟩
    rintro earlier o' between rfl hid' s' hearlier
    -- an earlier success would have taken the id
    have htaken := lookup_run_of_register hearlier between
    have hnew := (register_succeeds_iff.mp hreg).2
    rw [hid, ← hid', htaken] at hnew
    cases hnew
  · rintro ⟨before, after, rfl, rfl, ⟨s', hreg⟩, -⟩
    exact lookup_run_of_register hreg after

end RuleSet

/-! ## §3 Bound slots -/

/-- The declaration of a slot selects an object, given what is looked up. -/
theorem Slot.target?_eq_some_iff {k : Kind} {lookup : String → Option k.Object} {s : Slot k}
    {o : k.Object} :
    s.target? lookup = some o ↔
      s.selection = .inlined o ∨
      ∃ r, s.selection = .reference r ∧ Text.isBlankText r.id = false ∧ lookup r.id = some o := by
  unfold Slot.target?
  cases s.selection with
  | inlined o' => simp
  | reference r => cases hblank : Text.isBlankText r.id <;> simp [hblank]
  | both => simp
  | neither => simp

/-- A slot selects the same object when more objects are found. -/
theorem Slot.target?_mono {k : Kind} {find find' : String → Option k.Object} {s : Slot k}
    {o : k.Object} (hmore : ∀ id x, find id = some x → find' id = some x)
    (h : s.target? find = some o) : s.target? find' = some o := by
  rcases Slot.target?_eq_some_iff.mp h with hsel | ⟨r, hsel, hnamed, hfind⟩
  · exact Slot.target?_eq_some_iff.mpr (Or.inl hsel)
  · exact Slot.target?_eq_some_iff.mpr (Or.inr ⟨r, hsel, hnamed, hmore _ _ hfind⟩)

/-- Binding does not change what a declaration selects. -/
@[simp] theorem Slot.target?_resolve {k : Kind} (find find' : String → Option k.Object)
    (s : Slot k) : (s.resolve find).target? find' = s.target? find' := rfl

/-- A slot that is bound stays bound to the same object. -/
theorem Slot.bound_resolve_of_some {k : Kind} {find : String → Option k.Object} {s : Slot k}
    {o : k.Object} (h : s.bound = some o) : (s.resolve find).bound = some o := by
  simp [Slot.resolve, h]

/-- The slots of a rule after validation. -/
theorem Rule.slots_resolve (find : (k : Kind) → String → Option k.Object) (r : Rule) (k : Kind) :
    (r.resolve find).slots k = if r.enabled then (r.slots k).resolve (find k) else r.slots k := by
  unfold Rule.resolve
  split <;> rfl

namespace RuleSet

/-- Every bound slot holds the object that its declaration selects. -/
def Sound (s : RuleSet) : Prop :=
  ∀ r ∈ s.rules, ∀ k o, (r.slots k).bound = some o → (r.slots k).target? (s.lookup k) = some o

theorem sound_new (tag : String) : Sound { tag } := by
  intro r hr
  simp at hr

/-- Soundness survives when rules stay and more is found. -/
theorem Sound.of_rules_eq {s s' : RuleSet} (h : s.Sound) (hrules : s'.rules = s.rules)
    (hmore : ∀ k id o, s.lookup k id = some o → s'.lookup k id = some o) : s'.Sound := by
  intro r hr k o ho
  rw [hrules] at hr
  exact Slot.target?_mono (hmore k) (h r hr k o ho)

theorem Sound.register {s s' : RuleSet} {k : Kind} {o : k.Object} (h : s.Sound)
    (hreg : s.register k o = .ok s') : s'.Sound :=
  h.of_rules_eq (rules_register hreg) fun _ _ _ hfind => lookup_register_of_some hreg hfind

theorem Sound.pushRule {s : RuleSet} (h : s.Sound) {r : Rule}
    (unbound : ∀ k, (r.slots k).bound = none) : (s.pushRule r).Sound := by
  intro r' hr' k o ho
  rcases List.mem_append.mp hr' with hold | hnew
  · exact h r' hold k o ho
  · obtain rfl : r' = r := by simpa using hnew
    rw [unbound k] at ho
    cases ho

/-- Validation keeps soundness: it binds free slots to what they select. -/
theorem Sound.resolve {s : RuleSet} (h : s.Sound) : s.resolve.Sound := by
  intro r' hr' k o ho
  obtain ⟨r, hr, rfl⟩ := List.mem_map.mp hr'
  change ((r.resolve s.lookup).slots k).target? (s.lookup k) = some o
  rw [Rule.slots_resolve] at ho ⊢
  split at ho
  next hon =>
    rw [if_pos hon, Slot.target?_resolve]
    cases hb : (r.slots k).bound with
    | none => simpa [Slot.resolve, hb] using ho
    | some o' =>
      -- the slot keeps what it was bound to, which is what it selects now
      rw [Slot.bound_resolve_of_some hb, Option.some.injEq] at ho
      exact ho ▸ h r hr k o' hb
  next hoff =>
    rw [if_neg hoff]
    exact h r hr k o ho

/-- Every command keeps soundness. -/
theorem sound_step {s : RuleSet} (h : s.Sound) (c : Command) : (s.step c).Sound := by
  cases c with
  | register k o =>
    cases hreg : s.register k o with
    | error e => rwa [step_register_error hreg]
    | ok s' =>
      rw [step_register_ok hreg]
      exact h.register hreg
  | pushRule r unbound => exact h.pushRule unbound
  | validate recorder => exact h.resolve

/-- Every run keeps soundness. -/
theorem sound_run (tag : String) (cs : List Command) : (run tag cs).Sound := by
  induction cs using List.reverseRecOn with
  | nil => exact sound_new tag
  | append_singleton cs c ih =>
    rw [run_concat]
    exact sound_step ih c

/-- A rule keeps its place and its bindings through every command. -/
theorem bound_step {s : RuleSet} {i : Nat} {r : Rule} (hr : s.rules[i]? = some r) (c : Command) :
    ∃ r', (s.step c).rules[i]? = some r' ∧
      ∀ k o, (r.slots k).bound = some o → (r'.slots k).bound = some o := by
  -- registration leaves all rules, a new rule comes last, and validation binds free slots only
  cases c with
  | register k o =>
    refine ⟨r, ?_, fun _ _ ho => ho⟩
    cases hreg : s.register k o with
    | error e => rwa [step_register_error hreg]
    | ok s' => rwa [step_register_ok hreg, rules_register hreg]
  | pushRule r' unbound =>
    refine ⟨r, ?_, fun _ _ ho => ho⟩
    have hi : i < s.rules.length := (List.getElem?_eq_some_iff.mp hr).1
    rwa [step_pushRule, RuleSet.pushRule, List.getElem?_append_left hi]
  | validate recorder =>
    refine ⟨r.resolve s.lookup, by simp [RuleSet.resolve, hr], fun k o ho => ?_⟩
    rw [Rule.slots_resolve]
    split
    · exact Slot.bound_resolve_of_some ho
    · exact ho

/-- A rule keeps its place and its bindings in every later state. -/
theorem bound_run_append {tag : String} {cs : List Command} {i : Nat} {r : Rule}
    (hr : (run tag cs).rules[i]? = some r) (later : List Command) :
    ∃ r', (run tag (cs ++ later)).rules[i]? = some r' ∧
      ∀ k o, (r.slots k).bound = some o → (r'.slots k).bound = some o := by
  induction later using List.reverseRecOn with
  | nil => exact ⟨r, by simpa using hr, fun _ _ ho => ho⟩
  | append_singleton later c ih =>
    obtain ⟨r', hr', hkeep⟩ := ih
    obtain ⟨r'', hr'', hkeep'⟩ := bound_step hr' c
    refine ⟨r'', ?_, fun k o ho => hkeep' k o (hkeep k o ho)⟩
    rwa [← List.append_assoc, run_concat]

/-! ## §4 Every state of every run -/

/-- What holds in every state of every run: what is looked up is the first object registered under
its id, which is not blank; a registration fails for a blank or taken id only, and then changes
nothing; a bound slot holds what its declaration selects now; and it stays bound to that. -/
theorem run_invariants (tag : String) (cs : List Command) :
    (∀ k id o, (run tag cs).lookup k id = some o →
      k.idOf o = id ∧ Text.isBlankText id = false) ∧
    (∀ k id o, (run tag cs).lookup k id = some o ↔ FirstRegistered tag cs k id o) ∧
    (∀ k o, ((∃ e, (run tag cs).register k o = .error e) ↔
        Text.isBlankText (k.idOf o) = true ∨ ((run tag cs).lookup k (k.idOf o)).isSome) ∧
      ∀ e, (run tag cs).register k o = .error e →
        run tag (cs ++ [.register k o]) = run tag cs) ∧
    (∀ r ∈ (run tag cs).rules, ∀ k,
      (∀ o, (r.slots k).bound = some o → (r.slots k).selection = .inlined o ∨
        ∃ ref, (r.slots k).selection = .reference ref ∧
          (run tag cs).lookup k ref.id = some o) ∧
      ((r.slots k).selection = .both ∨ (r.slots k).selection = .neither →
        (r.slots k).bound = none)) ∧
    (∀ (later : List Command) (i : Nat) (r : Rule) k o,
      (run tag cs).rules[i]? = some r → (r.slots k).bound = some o →
      ∃ r' : Rule, (run tag (cs ++ later)).rules[i]? = some r' ∧ (r'.slots k).bound = some o) := by
  refine ⟨?_, fun k id o => lookup_run_eq_some_iff tag cs k id o, ?_, ?_, ?_⟩
  · intro k id o h
    exact ⟨(((run tag cs).pools k).find?_eq_some_iff id o).mp h |>.2,
      ((run tag cs).pools k).not_blank_of_find? h⟩
  · intro k o
    refine ⟨?_, fun e h => by rw [run_concat, step_register_error h]⟩
    simp only [register_eq_error_iff]
    cases Text.isBlankText (k.idOf o) <;> simp
  · -- soundness, for either side that a declaration can select
    intro r hr k
    have hsound := fun o ho => Slot.target?_eq_some_iff.mp (sound_run tag cs r hr k o ho)
    constructor
    · intro o ho
      rcases hsound o ho with hsel | ⟨ref, hsel, -, hfind⟩
      · exact Or.inl hsel
      · exact Or.inr ⟨ref, hsel, hfind⟩
    · intro hsel
      cases hb : (r.slots k).bound with
      | none => rfl
      | some o =>
        rcases hsound o hb with h | ⟨ref, h, -⟩ <;> rcases hsel with hsel | hsel <;>
          rw [hsel] at h <;> cases h
  · intro later i r k o hr ho
    obtain ⟨r', hr', hkeep⟩ := bound_run_append hr later
    exact ⟨r', hr', hkeep k o ho⟩

end RuleSet

end AggregateNaming
