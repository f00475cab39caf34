import AggregateNaming.Proofs.Guarantee

/-!
# Free slots

A slot is free until a validation finds an object for it. A request that comes to a free slot is refused
as unresolved, and no other request is, but for the columns that are left alone: whatever its
declaration is, a free slot for them makes the recognizer of no name.

## Main definitions

- `FoundAtValidation` : the object that a validation in a run has found for a slot.

## Main statements

- `Rule.recognizer_eq_unresolved_iff` : the requests that are refused as unresolved.
- `RuleSet.bound_run_eq_some_iff` : what a slot is bound to, said by the history of the rule set.
- `RuleSet.free_slot_requests` : both, and what is left after a validation that has succeeded.
-/

namespace AggregateNaming

/-! ## §1 Refused requests -/

/-- A template is never refused as unresolved. -/
theorem Template.compile_ne_unresolved {t : Template} {inherited : Casing}
    {values : List (String × String)} {tag : String} {k : Kind} :
    t.compile inherited values ≠ .error (.unresolved tag k) := by
  intro h
  rcases bind_eq_error_iff.mp h with hrender | ⟨text, -, hpattern⟩
  · unfold Template.render at hrender
    split at hrender <;> cases hrender
  · split at hpattern <;> cases hpattern

/-- Neither is a map with templates. -/
theorem TemplateMap.recognizer_ne_unresolved {o : TemplateMap} {values : List (String × String)}
    {tag : String} {k : Kind} : o.recognizer values ≠ .error (.unresolved tag k) := by
  intro h
  obtain ⟨t, -, -, hfail⟩ := TemplateMap.exists_of_recognizer_eq_error h
  exact Template.compile_ne_unresolved hfail

/-- Neither are names built around a base name. -/
theorem DerivedName.recognizer_ne_unresolved {o : DerivedName} {name tag : String} {k : Kind} :
    o.recognizer name ≠ .error (.unresolved tag k) := by
  intro h
  have haround : ∀ basename, o.recognizerWith name basename ≠ .error (.unresolved tag k) := by
    intro basename hwith
    obtain ⟨cause, hcause⟩ := DerivedName.recognizerWith_eq_error hwith
    cases hcause
  unfold DerivedName.recognizer at h
  split at h
  · exact haround _ h
  · rcases bind_eq_error_iff.mp h with hbasename | ⟨b, -, hwith⟩
    · unfold Basename.compile at hbasename
      split at hbasename
      · cases hbasename
      · split at hbasename <;> cases hbasename
    · exact haround _ hwith

/-- A request that goes on from the object in a slot is refused as unresolved where the slot is free,
if what it goes on with is not. -/
theorem Rule.bind_boundTo_eq_unresolved_iff {r : Rule} {k k' : Kind} {tag : String}
    {next : k.Object → Except RuleError Recognizer}
    (hnext : ∀ o, next o ≠ .error (.unresolved tag k')) :
    (r.boundTo k >>= next) = .error (.unresolved tag k') ↔
      (r.slots k).bound = none ∧ tag = r.tag ∧ k' = k := by
  rw [bind_eq_error_iff]
  unfold Rule.boundTo
  cases (r.slots k).bound with
  | none => simp [eq_comm]
  | some o => simpa using hnext o

/-- The requests that are refused as unresolved are those that come to a free slot, but for the columns
that are left alone. They are refused in the name of the rule and of their kind. -/
theorem Rule.recognizer_eq_unresolved_iff {r : Rule} {q : Request} {tag : String} {k : Kind} :
    r.recognizer q = .error (.unresolved tag k) ↔
      q ≠ .ignore ∧ (r.slots q.kind).bound = none ∧ tag = r.tag ∧ k = q.kind := by
  cases q with
  | ignore =>
    -- this request alone does not ask for the object, and makes do without one
    refine iff_of_false (fun h => ?_) fun h => h.1 rfl
    simp only [Rule.recognizer] at h
    split at h
    · exact TemplateMap.recognizer_ne_unresolved h
    · cases h
  | factCount =>
    simp only [ne_eq, reduceCtorEq, not_false_eq_true, true_and]
    -- a fixed name makes a recognizer, under whichever name it is asked for
    refine Rule.bind_boundTo_eq_unresolved_iff fun o h => ?_
    split at h
    · obtain ⟨m, hm⟩ := o.recognizerFor_eq_ok ‹_›
      rw [hm] at h
      cases h
    · obtain ⟨m, hm⟩ := o.recognizerFor_eq_ok o.name
      rw [FixedName.recognizer, hm] at h
      cases h
  | foreignKey key =>
    simp only [ne_eq, reduceCtorEq, not_false_eq_true, true_and]
    exact Rule.bind_boundTo_eq_unresolved_iff fun o => DerivedName.recognizer_ne_unresolved
  | table fact =>
    simp only [ne_eq, reduceCtorEq, not_false_eq_true, true_and]
    exact Rule.bind_boundTo_eq_unresolved_iff fun o => DerivedName.recognizer_ne_unresolved
  | level names =>
    simp only [ne_eq, reduceCtorEq, not_false_eq_true, true_and]
    exact Rule.bind_boundTo_eq_unresolved_iff fun o => TemplateMap.recognizer_ne_unresolved
  | measure names =>
    simp only [ne_eq, reduceCtorEq, not_false_eq_true, true_and]
    exact Rule.bind_boundTo_eq_unresolved_iff fun o => TemplateMap.recognizer_ne_unresolved

/-- A free slot for the columns that are left alone makes the recognizer of no name. -/
theorem Rule.recognizer_ignore_of_free {r : Rule} (h : (r.slots .ignore).bound = none) :
    r.recognizer .ignore = .ok .never := by
  unfold Rule.recognizer
  rw [h]

/-! ## §2 The history of a slot -/

/-- An object that a validation in a run has found for the slot of a kind of the rule in a place: the
rule is there and enabled, and its declaration selects the object then. -/
def FoundAtValidation (tag : String) (cs : List Command) (i : Nat) (k : Kind) (o : k.Object) : Prop :=
  ∃ before recorder after, cs = before ++ .validate recorder :: after ∧
    ∃ r, (RuleSet.run tag before).rules[i]? = some r ∧ r.enabled = true ∧
      (r.slots k).target? ((RuleSet.run tag before).lookup k) = some o

/-- What has been found in a run has been found in every longer one. -/
theorem FoundAtValidation.concat {tag : String} {cs : List Command} {i : Nat} {k : Kind}
    {o : k.Object} (h : FoundAtValidation tag cs i k o) (c : Command) :
    FoundAtValidation tag (cs ++ [c]) i k o := by
  obtain ⟨before, recorder, after, rfl, hfound⟩ := h
  exact ⟨before, recorder, after ++ [c], by simp, hfound⟩

namespace RuleSet

/-- What a slot has been bound to has been found by a validation. -/
theorem foundAtValidation_of_bound {tag : String} {cs : List Command} {i : Nat} {r : Rule}
    (hr : (run tag cs).rules[i]? = some r) {k : Kind} {o : k.Object}
    (ho : (r.slots k).bound = some o) : FoundAtValidation tag cs i k o := by
  -- by the commands from the last one: only a validation binds, and then only what it finds
  induction cs using List.reverseRecOn generalizing r with
  | nil => simp at hr
  | append_singleton cs c ih =>
    rw [run_concat] at hr
    cases c with
    | register k' o' =>
      have hrules : ((run tag cs).step (.register k' o')).rules = (run tag cs).rules := by
        cases hreg : (run tag cs).register k' o' with
        | error e => rw [step_register_error hreg]
        | ok s' => rw [step_register_ok hreg, rules_register hreg]
      rw [hrules] at hr
      exact (ih hr ho).concat _
    | pushRule r' unbound =>
      rw [step_pushRule, pushRule, List.getElem?_append] at hr
      split at hr
      · exact (ih hr ho).concat _
      · obtain ⟨-, rfl⟩ : _ ∧ r' = r := by simpa [List.getElem?_singleton] using hr
        rw [unbound k] at ho
        cases ho
    | validate recorder =>
      obtain ⟨r', hr', rfl⟩ : ∃ r', (run tag cs).rules[i]? = some r' ∧
          r'.resolve (run tag cs).lookup = r := by
        simpa [step_validate, resolve] using hr
      rw [Rule.slots_resolve] at ho
      split at ho
      next hon =>
        cases hb : (r'.slots k).bound with
        | some o' =>
          rw [Slot.bound_resolve_of_some hb] at ho
          exact (ih hr' (hb.trans ho)).concat _
        | none =>
          have htarget : (r'.slots k).target? ((run tag cs).lookup k) = some o := by
            simpa [Slot.resolve, hb] using ho
          exact ⟨cs, recorder, [], rfl, r', hr', hon, htarget⟩
      next hoff => exact (ih hr' ho).concat _

/-- What a slot is bound to is what some validation has found for it. -/
theorem bound_run_eq_some_iff {tag : String} {cs : List Command} {i : Nat} {r : Rule}
    (hr : (run tag cs).rules[i]? = some r) {k : Kind} {o : k.Object} :
    (r.slots k).bound = some o ↔ FoundAtValidation tag cs i k o := by
  refine ⟨foundAtValidation_of_bound hr, ?_⟩
  rintro ⟨before, recorder, after, rfl, r₀, hr₀, hon, htarget⟩
  -- the validation binds the slot, and no later command changes that
  have hnow : (run tag (before ++ [.validate recorder])).rules[i]? =
      some (r₀.resolve (run tag before).lookup) := by
    simp [run_concat, resolve, hr₀]
  have hbound : ((r₀.resolve (run tag before).lookup).slots k).bound = some o :=
    ((sound_run tag before).bound_resolve (List.mem_of_getElem? hr₀) hon k).trans htarget
  obtain ⟨r', hr', hkeep⟩ := bound_run_append hnow after
  rw [List.append_assoc, List.singleton_append, hr, Option.some.injEq] at hr'
  subst hr'
  exact hkeep k o hbound

/-! ## §3 Declared and free -/

/-- A validation that succeeds leaves no declared slot of an enabled rule free. -/
theorem bound_ne_none_of_validation {tag : String} {cs : List Command} {recorder : Recorder}
    (hok : ((run tag cs).validate.run recorder).1.1 = true) {r : Rule}
    (hr : r ∈ (run tag cs).resolve.rules) (hon : r.enabled = true) {k : Kind}
    (hdeclared : (r.slots k).Declared) : (r.slots k).bound ≠ none := by
  have hvalid : (run tag cs).Valid := ((run tag cs).check_decides recorder).mp hok
  obtain ⟨r₀, hr₀, rfl⟩ := List.mem_map.mp hr
  rw [Rule.enabled_resolve] at hon
  -- binding leaves the declaration as it was
  have hdeclared₀ : (r₀.slots k).Declared := by
    rw [Rule.slots_resolve, if_pos hon] at hdeclared
    exact hdeclared
  obtain ⟨o, ho⟩ := ((hvalid.rules r₀ hr₀ hon).slots k).exists_target hdeclared₀
  have hbound := ((sound_run tag cs).bound_resolve hr₀ hon k).trans ho
  rw [hbound]
  nofun

/-- What comes of free slots, in every state of every run. A request is refused as unresolved, in the
name of its rule and its kind, exactly when its slot is free and it is not for the columns that are left
alone; a free slot for those makes the recognizer of no name, also where it has been declared. A slot is
bound to what a validation has found for it, and free as long as none has found anything; and where a
validation succeeds, no declared slot of an enabled rule is left free. -/
theorem free_slot_requests (tag : String) (cs : List Command) :
    (∀ r ∈ (run tag cs).rules,
      (∀ (q : Request) tag' k, r.recognizer q = .error (.unresolved tag' k) ↔
        q ≠ .ignore ∧ (r.slots q.kind).bound = none ∧ tag' = r.tag ∧ k = q.kind) ∧
      ((r.slots .ignore).bound = none → r.recognizer .ignore = .ok .never)) ∧
    (∀ (i : Nat) r, (run tag cs).rules[i]? = some r →
      ∀ k o, (r.slots k).bound = some o ↔ FoundAtValidation tag cs i k o) ∧
    ∀ recorder, ((run tag cs).validate.run recorder).1.1 = true →
      ∀ r ∈ ((run tag cs).validate.run recorder).1.2.rules, r.enabled = true →
        ∀ k, (r.slots k).Declared → (r.slots k).bound ≠ none :=
  ⟨fun _ _ => ⟨fun _ _ _ => Rule.recognizer_eq_unresolved_iff, Rule.recognizer_ignore_of_free⟩,
    fun _ _ hr _ _ => bound_run_eq_some_iff hr,
    fun _ hok _ hr hon _ hdeclared => bound_ne_none_of_validation hok hr hon hdeclared⟩

/-- A rule with references to objects that are not there. -/
def danglingRule : Rule where
  tag := "r"
  slots
    | .ignore => { reference := some { id := "nope" } }
    | .table => { reference := some { id := "nope" } }
    | _ => {}

/-- A rule set of one rule with dangling references, after a validation. -/
def dangling : RuleSet :=
  run "d" [.pushRule danglingRule (by intro k; cases k <;> rfl), .validate {}]

/-- A request for tables that comes to a dangling reference is refused. -/
theorem dangling_table_unresolved :
    ∃ r ∈ dangling.rules, (r.slots .table).Declared ∧ (r.slots .table).bound = none ∧
      r.recognizer (.table "sales") = .error (.unresolved "r" .table) := by
  have hrequests := (free_slot_requests "d"
    [.pushRule danglingRule (by intro k; cases k <;> rfl), .validate {}]).1
  refine ⟨_, List.mem_cons_self, Or.inr ⟨_, rfl, rfl⟩, rfl, ?_⟩
  exact ((hrequests _ List.mem_cons_self).1 _ _ _).mpr ⟨nofun, rfl, rfl, rfl⟩

/-- A request for the columns that are left alone is not, though it comes to a dangling reference. -/
theorem dangling_ignore_accepted :
    ∃ r ∈ dangling.rules, (r.slots .ignore).Declared ∧ (r.slots .ignore).bound = none ∧
      r.recognizer .ignore = .ok .never :=
  ⟨_, List.mem_cons_self, Or.inr ⟨_, rfl, rfl⟩, rfl, rfl⟩

end RuleSet

end AggregateNaming
