import AggregateNaming.RuleSet

/-!
# Agreement of verdicts and reports

A check says what it thinks of its subject in two ways: by its verdict, and by the diagnostics that
it adds to the recorder. Nothing in a check compares the two. Here they are shown to agree: a
verdict is favourable exactly when no error has been added, whatever else has been.

## Main definitions

- `Check.Adds` : what a computation adds to the diagnostics, in relation to its answer.
- `Check.Agrees` : the verdict of a check is favourable exactly when it adds no error.

## Main statements

- `Check.Adds.bind` : what is added by one computation after another.
- `Kind.check_agrees`, `Slot.check_agrees`, `Rule.check_agrees`, `RuleSet.check_agrees` : the checks
  of all parts agree with what they report.
- `RuleSet.verdict_iff_no_error_added` : so do validations, and the errors are what a refused rule
  set comes back with.
-/

namespace AggregateNaming

/-- There is no error among diagnostics. -/
def NoError (ds : List Diagnostic) : Prop := ∀ d ∈ ds, d.level ≠ .error

@[simp] theorem noError_nil : NoError [] := by
  simp [NoError]

@[simp] theorem noError_append {ds ds' : List Diagnostic} :
    NoError (ds ++ ds') ↔ NoError ds ∧ NoError ds' := by
  simp [NoError, or_imp, forall_and]

@[simp] theorem noError_cons {d : Diagnostic} {ds : List Diagnostic} :
    NoError (d :: ds) ↔ d.level ≠ .error ∧ NoError ds := by
  simp [NoError]

namespace Check

/-! ## §1 What is added -/

/-- A computation takes no diagnostic away from those that a recorder holds, and what it adds to
them is related to its answer. -/
def Adds (c : Check α) (R : α → List Diagnostic → Prop) : Prop :=
  ∀ r : Recorder, ∃ new, (c.run r).2.diagnostics = r.diagnostics ++ new ∧ R (c.run r).1 new

namespace Adds

variable {c : Check α} {R R' : α → List Diagnostic → Prop}

/-- The relation may be weakened. -/
theorem mono (hc : Adds c R) (h : ∀ a new, R a new → R' a new) : Adds c R' := by
  intro r
  obtain ⟨new, hnew, hR⟩ := hc r
  exact ⟨new, hnew, h _ _ hR⟩

/-- An answer without a walk adds nothing. -/
theorem pure {a : α} (h : R a []) : Adds (Pure.pure a) R :=
  fun _ => ⟨[], (List.append_nil _).symm, h⟩

/-- A report adds one diagnostic, wherever it is made. -/
theorem report {R : Unit → List Diagnostic → Prop} {level : Level} {message : String}
    (h : ∀ context, R () [⟨level, context, message⟩]) : Adds (Check.report level message) R :=
  fun r => ⟨_, rfl, h r.contextPath⟩

/-- One computation after another adds the diagnostics of both, in this order. -/
theorem bind {next : α → Check β} {S : β → List Diagnostic → Prop} (hc : Adds c R)
    (hnext : ∀ a new, R a new → Adds (next a) fun b more => S b (new ++ more)) :
    Adds (c >>= next) S := by
  intro r
  obtain ⟨new, hnew, hR⟩ := hc r
  obtain ⟨more, hmore, hS⟩ := hnext _ new hR (c.run r).2
  refine ⟨new ++ more, ?_, hS⟩
  rw [← List.append_assoc, ← hnew]
  exact hmore

/-- The part in which a computation runs is seen in what it adds, but not in how much. -/
theorem inside (name : String) (hc : Adds c R) : Adds (Check.inside name c) R :=
  fun r => hc (r.push name)

end Adds

/-! ## §2 Agreement -/

/-- The verdict of a check is favourable exactly when the check adds no error. -/
def Agrees (c : Check Bool) : Prop :=
  Adds c fun ok new => ok = true ↔ NoError new

namespace Agrees

variable {c d : Check Bool}

/-- A check without a walk that is in order. -/
theorem accept : Agrees (Pure.pure true) :=
  Adds.pure (by simp)

/-- An error is reported, other things may be, and the verdict is a refusal. -/
theorem refuseAfter (message : String) {body : Check α} (hbody : Adds body fun _ _ => True) :
    Agrees (Check.error message >>= fun _ => body >>= fun _ => Pure.pure false) := by
  have herror : Adds (Check.error message) fun _ new => ¬NoError new := Adds.report (by simp)
  -- the error is among what has been added, whatever follows it
  refine herror.bind fun _ new hnew => hbody.bind fun _ more _ => Adds.pure ?_
  simp [hnew]

/-- An error is reported, and the verdict is a refusal. -/
theorem refuse (message : String) :
    Agrees (Check.error message >>= fun _ => Pure.pure false) := by
  have hnothing : Adds (Pure.pure () : Check Unit) fun _ _ => True := Adds.pure trivial
  exact refuseAfter message hnothing

/-- What is reported before a check does not count when it is no error. -/
theorem note {level : Level} (message : String) (hlevel : level ≠ .error) (hc : Agrees c) :
    Agrees (Check.report level message >>= fun _ => c) := by
  have hnote : Adds (Check.report level message) fun _ new => NoError new :=
    Adds.report (by simp [hlevel])
  exact hnote.bind fun _ new hnew => hc.mono fun ok more h => by simp [hnew, h]

/-- What is reported before a check in some cases does not count either. -/
theorem noteWhen (b : Bool) {level : Level} (message : String) (hlevel : level ≠ .error)
    (hc : Agrees c) :
    Agrees (if b = true then Check.report level message >>= fun _ => c else c) := by
  split
  · exact note message hlevel hc
  · exact hc

/-- The part in which a check runs does not matter. -/
theorem inside (name : String) (hc : Agrees c) : Agrees (Check.inside name c) :=
  Adds.inside name hc

/-- Two checks one after the other, with a verdict that is favourable when both are. -/
theorem and (hc : Agrees c) (hd : Agrees d) :
    Agrees (do let a ← c; let b ← d; return a && b) :=
  hc.bind fun a new ha => hd.bind fun b more hb => Adds.pure (by simp [ha, hb])

/-- A check on every member of a list. -/
theorem every {check : α → Check Bool} (h : ∀ a, Agrees (check a)) :
    ∀ l : List α, Agrees (Check.every check l)
  | [] => accept
  | a :: l => (h a).and (every h l)

/-- A check with a new recorder is passed when that recorder holds no error afterwards. -/
theorem new_iff (hc : Agrees c) : (c.run {}).1 = true ↔ (c.run {}).2.errors = [] := by
  obtain ⟨new, hnew, hok⟩ := hc {}
  rw [hok, Recorder.errors, hnew]
  simp [NoError, List.filter_eq_nil_iff, Diagnostic.isError]

end Agrees

end Check

/-! ## §3 Objects -/

open Check (Adds Agrees)

theorem FixedName.check_agrees (o : FixedName) : Agrees o.check := by
  unfold FixedName.check
  split
  · exact Agrees.refuse _
  · exact Agrees.accept

theorem DerivedName.checkBasename_agrees (o : DerivedName) : Agrees o.checkBasename := by
  unfold DerivedName.checkBasename
  split
  · exact Agrees.accept
  · split
    · exact Agrees.accept
    · exact Agrees.refuse _

theorem DerivedName.checkAround_agrees (o : DerivedName) : Agrees o.checkAround := by
  unfold DerivedName.checkAround
  split
  · exact Agrees.accept
  · exact Agrees.refuse _

theorem DerivedName.check_agrees (o : DerivedName) : Agrees o.check :=
  o.checkBasename_agrees.and o.checkAround_agrees

/-- There is one error for every illegal name, so that there is none only where no name is illegal.
-/
theorem TemplateMap.reportIllegal_adds (k : Kind) (names : List String) :
    Adds (names.forM fun name => Check.error (TemplateMap.illegalNameMessage k name))
      fun _ new => NoError new ↔ names = [] := by
  induction names with
  | nil => exact Adds.pure (by simp)
  | cons name names ih =>
    have herror : Adds (Check.error (TemplateMap.illegalNameMessage k name))
        fun _ new => ¬NoError new := Adds.report (by simp)
    exact herror.bind fun _ new hnew => ih.mono fun _ more _ => by simp [hnew]

/-- A template is refused with an error in each of the three ways to refuse it. -/
theorem TemplateMap.checkTemplate_agrees (k : Kind) (inherited : Casing) (t : Template) :
    Agrees (TemplateMap.checkTemplate k inherited t) := by
  unfold TemplateMap.checkTemplate
  split
  · exact Agrees.refuse _
  · split
    · split
      · exact Agrees.refuse _
      · exact Agrees.noteWhen _ _ (by decide) Agrees.accept
    next illegal hillegal =>
      -- the refusal is right because the list of illegal names, each with an error, is not empty
      refine (TemplateMap.reportIllegal_adds k _).bind fun _ new hnew => Adds.pure ?_
      simpa [hnew] using hillegal

theorem TemplateMap.checkTemplates_agrees (k : Kind) (inherited : Casing) (seen : List String)
    (ts : List Template) : Agrees (TemplateMap.checkTemplates k inherited seen ts) := by
  induction ts generalizing seen with
  | nil => exact Agrees.accept
  | cons t ts ih =>
    have hhead := (TemplateMap.checkTemplate_agrees k inherited t).inside s!"Regex[{t.id}]"
    exact Agrees.noteWhen _ _ (by decide) (hhead.and (ih (t.id :: seen)))

theorem TemplateMap.check_agrees (k : Kind) (o : TemplateMap) : Agrees (TemplateMap.check k o) :=
  Agrees.noteWhen _ _ (by decide)
    (TemplateMap.checkTemplates_agrees k o.casingInForce [] o.templates)

/-- The verdict on an object agrees with what is reported about it. -/
theorem Kind.check_agrees : (k : Kind) → (o : k.Object) → Agrees (k.check o)
  | .factCount, o => FixedName.check_agrees o
  | .foreignKey, o => DerivedName.check_agrees o
  | .table, o => DerivedName.check_agrees o
  | .level, o => TemplateMap.check_agrees .level o
  | .measure, o => TemplateMap.check_agrees .measure o
  | .ignore, o => TemplateMap.check_agrees .ignore o

/-! ## §4 Slots, rules and rule sets -/

/-- A disabled object is worth a warning only, and does not count. -/
theorem Slot.checkReference_agrees (k : Kind) (lookup : String → Option k.Object)
    (r : Reference) : Agrees (Slot.checkReference k lookup r) := by
  unfold Slot.checkReference
  split
  · exact Agrees.refuse _
  · split
    · exact Agrees.noteWhen _ _ (by decide) Agrees.accept
    · exact Agrees.refuse _

/-- The verdict on a slot agrees with what is reported about it, for every selection. -/
theorem Slot.check_agrees {k : Kind} (lookup : String → Option k.Object) (s : Slot k) :
    Agrees (s.check lookup) := by
  refine Agrees.inside _ ?_
  split
  · exact Agrees.refuse _
  · split
    · exact Agrees.refuse _
    · exact Agrees.accept
  · exact k.check_agrees _
  · exact Slot.checkReference_agrees k lookup _

theorem Rule.checkCountColumn_agrees (r : Rule) : Agrees r.checkCountColumn := by
  unfold Rule.checkCountColumn
  split
  · exact Agrees.refuse _
  · exact Agrees.accept

theorem Rule.check_agrees (lookup : (k : Kind) → String → Option k.Object) (r : Rule) :
    Agrees (r.check lookup) :=
  (Agrees.every (fun k => (r.slots k).check_agrees (lookup k)) Kind.slotOrder).and
    r.checkCountColumn_agrees

theorem Pool.check_agrees {k : Kind} (p : Pool k) : Agrees p.check :=
  Agrees.every (fun o => (k.check_agrees o).inside _) p.objects

namespace RuleSet

/-- After a tag that is refused the others are looked at all the same. -/
theorem checkTags_agrees (seen : List String) (rs : List Rule) : Agrees (checkTags seen rs) := by
  induction rs generalizing seen with
  | nil => exact Agrees.accept
  | cons r rs ih =>
    have hrest : ∀ seen, Adds (checkTags seen rs) fun _ _ => True :=
      fun seen => (ih seen).mono fun _ _ _ => trivial
    unfold checkTags
    split
    · exact Agrees.refuseAfter _ (hrest seen)
    · split
      · exact Agrees.refuseAfter _ (hrest seen)
      · exact ih (r.tag :: seen)

theorem checkDefault_agrees (rs : List Rule) : Agrees (checkDefault rs) := by
  unfold checkDefault
  split
  · exact Agrees.refuse _
  · exact Agrees.accept
  · exact Agrees.refuse _

/-- That a rule is not enabled is worth a remark only. -/
theorem checkRule_agrees (s : RuleSet) (r : Rule) : Agrees (s.checkRule r) := by
  unfold checkRule
  split
  · exact (r.check_agrees s.lookup).inside _
  · exact Agrees.note _ (by decide) Agrees.accept

/-- The verdict on a rule set agrees with what is reported about all its parts. -/
theorem check_agrees (s : RuleSet) : Agrees s.check := by
  refine Agrees.inside _ ?_
  -- the verdicts come together at the end, and the errors of all parts lie one after the other
  refine (Agrees.every (fun k => (s.pools k).check_agrees) Kind.all).bind
    fun poolsOk _ hpools => (checkTags_agrees [] s.rules).bind
    fun tagsOk _ htags => (checkDefault_agrees s.rules).bind
    fun defaultOk _ hdefault => (Agrees.every s.checkRule_agrees s.rules).bind
    fun rulesOk _ hrules => Adds.pure ?_
  simp [hpools, htags, hdefault, hrules, and_assoc]

/-! ## §5 Validation -/

/-- No error is among diagnostics when their sub-list of errors is empty. -/
theorem errors_eq_nil_iff (r : Recorder) : r.errors = [] ↔ NoError r.diagnostics := by
  simp [Recorder.errors, NoError, List.filter_eq_nil_iff, Diagnostic.isError]

/-- A validation with a new recorder is passed when that recorder holds no error afterwards. -/
theorem check_new_iff (s : RuleSet) :
    (s.check.run {}).1 = true ↔ (s.check.run {}).2.errors = [] :=
  s.check_agrees.new_iff

/-- Verdicts agree with what is reported. Of a rule set, and of an object of any kind, the verdict
is favourable exactly when no error is added to the diagnostics that a recorder holds, which all
stay. So a rule set comes out of validation with its slots bound when a new recorder is left without
errors, and otherwise all these errors come out, in the order in which they were reported. -/
theorem verdict_iff_no_error_added :
    (∀ (s : RuleSet) (r : Recorder), ∃ new,
      (s.validate.run r).2.diagnostics = r.diagnostics ++ new ∧
      ((s.validate.run r).1.1 = true ↔ ∀ d ∈ new, d.level ≠ .error)) ∧
    (∀ (k : Kind) (o : k.Object) (r : Recorder), ∃ new,
      ((k.check o).run r).2.diagnostics = r.diagnostics ++ new ∧
      (((k.check o).run r).1 = true ↔ ∀ d ∈ new, d.level ≠ .error)) ∧
    ∀ s : RuleSet,
      let reported := (s.validate.run {}).2.diagnostics
      let errors := reported.filter (·.level == .error)
      ((∀ d ∈ reported, d.level ≠ .error) ∧ s.validated = .ok (s.validate.run {}).1.2) ∨
      (errors ≠ [] ∧ s.validated = .error (.invalid errors)) := by
  refine ⟨fun s r => s.check_agrees r, fun k o r => k.check_agrees o r, fun s => ?_⟩
  -- binding reports nothing, so that only the check matters to the verdict and to what is reported
  change (NoError (s.check.run {}).2.diagnostics ∧ s.validated = .ok s.resolve) ∨
    ((s.check.run {}).2.errors ≠ [] ∧ s.validated = .error (.invalid (s.check.run {}).2.errors))
  have hvalidated : s.validated = if (s.check.run {}).1 = true then .ok s.resolve
      else .error (.invalid (s.check.run {}).2.errors) := rfl
  rw [hvalidated, ← errors_eq_nil_iff]
  by_cases hok : (s.check.run {}).1 = true
  · exact Or.inl ⟨s.check_new_iff.mp hok, if_pos hok⟩
  · exact Or.inr ⟨fun hnone => hok (s.check_new_iff.mpr hnone), if_neg hok⟩

end RuleSet

end AggregateNaming
