import AggregateNaming.Proofs.Guarantee

/-!
# Independence of history

Validation sees what a rule set declares, and not how the rule set came about: neither the order in
which objects were registered nor validations on the way make a difference to it.

## Main definitions

- `RuleSet.declared` : a rule set without what its slots have been bound to.
- `RuleSet.registered` and `RuleSet.pushed` : what the commands of a run have added.

## Main statements

- `RuleSet.validate_declared` : validation of a reachable rule set is that of what it declares.
- `RuleSet.mem_pools_run`, `RuleSet.rules_declared_run` : what a rule set declares after a run.
- `RuleSet.validate_run_of_perm` : runs that add the same come to the same validation.
-/

namespace AggregateNaming

/-! ## §1 Declarations -/

/-- A slot as it is declared, bound to nothing. -/
def Slot.declared {k : Kind} (s : Slot k) : Slot k := { s with bound := none }

/-- A rule as it is declared, with slots that are bound to nothing. -/
def Rule.declared (r : Rule) : Rule := { r with slots := fun k => (r.slots k).declared }

/-- A rule set as it is declared, with slots that are bound to nothing. -/
def RuleSet.declared (s : RuleSet) : RuleSet := { s with rules := s.rules.map Rule.declared }

/-- A rule whose slots are free is as it is declared. -/
theorem Rule.declared_eq_self {r : Rule} (h : ∀ k, (r.slots k).bound = none) : r.declared = r := by
  have hslots : (fun k => (r.slots k).declared) = r.slots := by
    funext k
    rw [Slot.declared, ← h k]
  rw [Rule.declared, hslots]

/-- Binding slots does not change what is declared. -/
@[simp] theorem Rule.declared_resolve (find : (k : Kind) → String → Option k.Object) (r : Rule) :
    (r.resolve find).declared = r.declared := by
  unfold Rule.resolve
  split <;> rfl

/-- A check on the members of a list that has been mapped. -/
theorem Check.every_map {α β : Type} (check : β → Check Bool) (f : α → β) (l : List α) :
    Check.every check (l.map f) = Check.every (fun a => check (f a)) l := by
  induction l with
  | nil => rfl
  | cons a l ih => simp only [List.map_cons, Check.every, ih]

namespace RuleSet

theorem checkTags_declared (seen : List String) (rs : List Rule) :
    checkTags seen (rs.map Rule.declared) = checkTags seen rs := by
  induction rs generalizing seen with
  | nil => rfl
  | cons r rs ih => simp only [List.map_cons, checkTags, ih, Rule.declared]

theorem checkDefault_declared (rs : List Rule) :
    checkDefault (rs.map Rule.declared) = checkDefault rs := by
  have hfilter : (rs.map Rule.declared).filter (·.isUsableDefault) =
      (rs.filter (·.isUsableDefault)).map Rule.declared := List.filter_map
  unfold checkDefault
  rw [hfilter]
  -- no more than the tags of the defaults is used, and they are the same
  generalize rs.filter (·.isUsableDefault) = defaults
  rcases defaults with _ | ⟨r, _ | ⟨r', rest⟩⟩
  · rfl
  · rfl
  · simp [Rule.declared, Function.comp_def]

/-- What validation has to say does not depend on what slots are bound to. -/
theorem check_declared (s : RuleSet) : s.declared.check = s.check := by
  have hrules : Check.every s.declared.checkRule (s.rules.map Rule.declared) =
      Check.every s.checkRule s.rules := Check.every_map _ _ _
  unfold check
  simp only [declared, checkTags_declared, checkDefault_declared]
  rw [← hrules]
  rfl

/-! ## §2 Validation of declarations -/

/-- The slots of rules that are not enabled have not been bound. -/
def DisabledFree (s : RuleSet) : Prop :=
  ∀ r ∈ s.rules, r.enabled = false → ∀ k, (r.slots k).bound = none

/-- Every command leaves the slots of rules that are not enabled alone. -/
theorem disabledFree_step {s : RuleSet} (h : s.DisabledFree) (c : Command) :
    (s.step c).DisabledFree := by
  intro r hr hoff
  cases c with
  | register k o =>
    cases hreg : s.register k o with
    | error e =>
      rw [step_register_error hreg] at hr
      exact h r hr hoff
    | ok s' =>
      rw [step_register_ok hreg, rules_register hreg] at hr
      exact h r hr hoff
  | pushRule r' unbound =>
    rcases List.mem_append.mp hr with hold | hnew
    · exact h r hold hoff
    · obtain rfl : r = r' := by simpa using hnew
      exact unbound
  | validate recorder =>
    obtain ⟨r₀, hr₀, rfl⟩ := List.mem_map.mp hr
    rw [Rule.enabled_resolve] at hoff
    intro k
    rw [Rule.slots_resolve, if_neg (by simp [hoff])]
    exact h r₀ hr₀ hoff k

/-- In every state of every run the slots of rules that are not enabled are free. -/
theorem disabledFree_run (tag : String) (cs : List Command) : (run tag cs).DisabledFree := by
  induction cs using List.reverseRecOn with
  | nil =>
    intro r hr
    simp at hr
  | append_singleton cs c ih =>
    rw [run_concat]
    exact disabledFree_step ih c

/-- What a rule is bound to by validation follows from its declaration. -/
theorem resolve_declared_rule {s : RuleSet} (hsound : s.Sound) (hfree : s.DisabledFree) {r : Rule}
    (hr : r ∈ s.rules) : r.declared.resolve s.lookup = r.resolve s.lookup := by
  cases hon : r.enabled with
  | false =>
    -- there is nothing bound that the declaration leaves out
    rw [Rule.declared_eq_self (hfree r hr hon)]
  | true =>
    have hslots : ∀ k, ((r.slots k).declared).resolve (s.lookup k) =
        (r.slots k).resolve (s.lookup k) := by
      -- by soundness both are bound to what the declaration selects
      intro k
      have hbound := hsound.bound_resolve hr hon k
      rw [Rule.slots_resolve, if_pos hon] at hbound
      change ({ r.slots k with bound := none.or ((r.slots k).target? (s.lookup k)) } : Slot k) = _
      rw [Option.none_or, ← hbound]
      rfl
    unfold Rule.resolve
    rw [if_pos hon, if_pos (show r.declared.enabled = true from hon)]
    change ({ r with slots := fun k => ((r.slots k).declared).resolve (s.lookup k) } : Rule) = _
    simp only [hslots]

/-- Validation of a reachable rule set is validation of what it declares: earlier validations have
bound nothing that this one would not. -/
theorem validate_declared {s : RuleSet} (hs : s.Reachable) : s.declared.validate = s.validate := by
  obtain ⟨tag, cs, rfl⟩ := hs
  have hmap : (run tag cs).rules.map (fun r => r.declared.resolve (run tag cs).lookup) =
      (run tag cs).rules.map (fun r => r.resolve (run tag cs).lookup) :=
    List.map_congr_left fun r hr =>
      resolve_declared_rule (sound_run tag cs) (disabledFree_run tag cs) hr
  have hresolve : (run tag cs).declared.resolve = (run tag cs).resolve := by
    unfold resolve declared
    rw [List.map_map, ← hmap]
    rfl
  unfold validate
  rw [check_declared, hresolve]

/-- Validation of a reachable rule set that has just been validated is that of the rule set before.
-/
theorem validate_resolve {s : RuleSet} (hs : s.Reachable) : s.resolve.validate = s.validate := by
  have hreachable : s.resolve.Reachable := by
    obtain ⟨tag, cs, rfl⟩ := hs
    refine ⟨tag, cs ++ [.validate {}], ?_⟩
    rw [run_concat, step_validate]
  have hdeclared : s.resolve.declared = s.declared := by
    simp [declared, resolve, Function.comp_def]
  rw [← validate_declared hreachable, hdeclared, validate_declared hs]

/-! ## §3 What runs declare -/

/-- The object that a command registers, if it does so with success. -/
def registers? (s : RuleSet) : Command → Option (Σ k : Kind, k.Object)
  | .register k o =>
    match s.register k o with
    | .ok _ => some ⟨k, o⟩
    | .error _ => none
  | .pushRule _ _ => none
  | .validate _ => none

/-- The objects that commands register with success, in order. -/
def registeredFrom (s : RuleSet) : List Command → List (Σ k : Kind, k.Object)
  | [] => []
  | c :: cs => (s.registers? c).toList ++ (s.step c).registeredFrom cs

/-- The objects that are registered with success in a run, in order. -/
def registered (tag : String) (cs : List Command) : List (Σ k : Kind, k.Object) :=
  registeredFrom { tag } cs

end RuleSet

/-- The rule that a command adds. -/
def Command.rule? : Command → Option Rule
  | .register _ _ => none
  | .pushRule r _ => some r
  | .validate _ => none

/-- The rules that are added in a run, in order. -/
def RuleSet.pushed (cs : List Command) : List Rule := cs.filterMap Command.rule?

namespace RuleSet

/-- What a command adds to the pools. -/
theorem mem_pools_step (s : RuleSet) (c : Command) (k : Kind) (o : k.Object) :
    o ∈ ((s.step c).pools k).objects ↔
      o ∈ (s.pools k).objects ∨ s.registers? c = some ⟨k, o⟩ := by
  cases c with
  | register k' o' =>
    -- an object goes to the pool of its own kind, and only when its registration succeeds
    cases hreg : s.register k' o' with
    | error e => simp [step_register_error hreg, registers?, hreg]
    | ok s' =>
      obtain ⟨named, isNew, rfl⟩ := exists_insert_of_register hreg
      simp only [step_register_ok hreg, registers?, hreg, Option.some.injEq, Sigma.mk.injEq]
      by_cases hk : k' = k
      · subst hk
        have hmem : o ∈ ((s.pools k').insert o' named isNew).objects ↔
            o = o' ∨ o ∈ (s.pools k').objects := Pool.mem_insertSorted
        simpa [withPool, or_comm, eq_comm] using hmem
      · simp [withPool, hk]
  | pushRule r unbound => simp [pushRule, registers?]
  | validate recorder => simp [resolve, registers?]

/-- What commands add to the pools. -/
theorem mem_pools_foldl (s : RuleSet) (cs : List Command) (k : Kind) (o : k.Object) :
    o ∈ ((cs.foldl step s).pools k).objects ↔
      o ∈ (s.pools k).objects ∨ ⟨k, o⟩ ∈ s.registeredFrom cs := by
  induction cs generalizing s with
  | nil => simp [registeredFrom]
  | cons c cs ih =>
    rw [List.foldl_cons, ih, mem_pools_step, registeredFrom, List.mem_append, Option.mem_toList,
      or_assoc]

/-- After a run the pools hold what has been registered with success. -/
theorem mem_pools_run (tag : String) (cs : List Command) (k : Kind) (o : k.Object) :
    o ∈ ((run tag cs).pools k).objects ↔ ⟨k, o⟩ ∈ registered tag cs := by
  have hempty : o ∉ (({ tag } : RuleSet).pools k).objects := by simp [Pool.empty]
  rw [run, mem_pools_foldl]
  simp only [hempty, false_or]
  rfl

/-- What a command adds to the declared rules. -/
theorem rules_declared_step (s : RuleSet) (c : Command) :
    (s.step c).declared.rules = s.declared.rules ++ c.rule?.toList := by
  cases c with
  | register k o =>
    cases hreg : s.register k o with
    | error e => simp [step_register_error hreg, Command.rule?]
    | ok s' => simp [step_register_ok hreg, declared, rules_register hreg, Command.rule?]
  | pushRule r unbound =>
    simp [declared, pushRule, Command.rule?, Rule.declared_eq_self unbound]
  | validate recorder => simp [declared, resolve, Command.rule?, Function.comp_def]

/-- What commands add to the declared rules. -/
theorem rules_declared_foldl (s : RuleSet) (cs : List Command) :
    (cs.foldl step s).declared.rules = s.declared.rules ++ pushed cs := by
  induction cs generalizing s with
  | nil => simp [pushed]
  | cons c cs ih =>
    rw [List.foldl_cons, ih, rules_declared_step, List.append_assoc]
    cases hc : c.rule? <;> simp [pushed, hc]

/-- After a run the rules are declared as they have been added. -/
theorem rules_declared_run (tag : String) (cs : List Command) :
    (run tag cs).declared.rules = pushed cs :=
  rules_declared_foldl { tag } cs

@[simp] theorem tag_step (s : RuleSet) (c : Command) : (s.step c).tag = s.tag := by
  cases c with
  | register k o =>
    cases hreg : s.register k o with
    | error e => rw [step_register_error hreg]
    | ok s' =>
      obtain ⟨_, _, rfl⟩ := exists_insert_of_register hreg
      rw [step_register_ok hreg]
      rfl
  | pushRule r unbound => rfl
  | validate recorder => rfl

@[simp] theorem tag_run (tag : String) (cs : List Command) : (run tag cs).tag = tag := by
  induction cs using List.reverseRecOn with
  | nil => rfl
  | append_singleton cs c ih => rw [run_concat, tag_step, ih]

/-- Runs that add the same objects and rules come to rule sets that declare the same. -/
theorem declared_run_eq {tag : String} {cs cs' : List Command}
    (hobjects : (registered tag cs).Perm (registered tag cs')) (hrules : pushed cs = pushed cs') :
    (run tag cs).declared = (run tag cs').declared := by
  have hpools : (run tag cs).pools = (run tag cs').pools := by
    funext k
    refine Pool.eq_of_mem_iff fun o => ?_
    rw [mem_pools_run, mem_pools_run, hobjects.mem_iff]
  have hdeclared : (run tag cs).declared.rules = (run tag cs').declared.rules := by
    rw [rules_declared_run, rules_declared_run, hrules]
  rw [RuleSet.mk.injEq]
  exact ⟨by simp [declared], hpools, hdeclared⟩

/-! ## §4 Independence -/

/-- Validation does not depend on the history of a rule set: after runs that register the same
objects, in whatever order, and add the same rules, in the same order, it has the same outcome. This
is the verdict, all that is reported, and the rule set with what its slots are bound to, so that all
requests are answered alike. In particular a validation changes nothing for the next one. -/
theorem validate_run_of_perm {tag : String} {cs cs' : List Command}
    (hobjects : (registered tag cs).Perm (registered tag cs')) (hrules : pushed cs = pushed cs') :
    (∀ recorder : Recorder,
      (run tag cs).validate.run recorder = (run tag cs').validate.run recorder) ∧
    ∀ earlier recorder : Recorder, ((run tag cs).validate.run earlier).1.2.validate.run recorder =
      (run tag cs).validate.run recorder := by
  constructor
  · intro recorder
    rw [← validate_declared ⟨tag, cs, rfl⟩, declared_run_eq hobjects hrules,
      validate_declared ⟨tag, cs', rfl⟩]
  · intro earlier recorder
    change (run tag cs).resolve.validate.run recorder = _
    rw [validate_resolve ⟨tag, cs, rfl⟩]

/-- A rule that refers to a pooled object in one slot. -/
def sharingRule : Rule where
  tag := "sharing"
  isDefault := true
  slots
    | .factCount => { reference := some { id := "fc" } }
    | k => plainRule.slots k

/-- Everything in order, and the rule last. -/
def straightRun : List Command := [
  .register .factCount { id := "fc" },
  .register .level { id := "lm" },
  .pushRule sharingRule (by intro k; cases k <;> rfl)]

/-- The rule first, a validation before its reference can be followed, and an id that is taken. -/
def crookedRun : List Command := [
  .pushRule sharingRule (by intro k; cases k <;> rfl),
  .validate {},
  .register .level { id := "lm" },
  .register .level { id := "lm", enabled := false },
  .register .factCount { id := "fc" },
  .validate {}]

/-- Two runs that have little in common but what they add. -/
theorem validate_straightRun_eq_crookedRun :
    (registered "doc" straightRun).Perm (registered "doc" crookedRun) ∧
    pushed straightRun = pushed crookedRun ∧
    (run "doc" straightRun).validate.run {} = (run "doc" crookedRun).validate.run {} := by
  have hstraight : registered "doc" straightRun =
      [⟨.factCount, { id := "fc" }⟩, ⟨.level, { id := "lm" }⟩] := rfl
  have hcrooked : registered "doc" crookedRun =
      [⟨.level, { id := "lm" }⟩, ⟨.factCount, { id := "fc" }⟩] := rfl
  have hobjects : (registered "doc" straightRun).Perm (registered "doc" crookedRun) := by
    rw [hstraight, hcrooked]
    exact List.Perm.swap _ _ _
  have hrules : pushed straightRun = pushed crookedRun := rfl
  exact ⟨hobjects, hrules, (validate_run_of_perm hobjects hrules).1 {}⟩

end RuleSet

end AggregateNaming
