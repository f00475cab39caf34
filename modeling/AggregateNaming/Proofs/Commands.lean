import AggregateNaming.CommandLine.Run
import AggregateNaming.Proofs.Agreement
import AggregateNaming.Proofs.Builtin
import AggregateNaming.Proofs.Tracing

/-!
# The two commands

One command says what validation has to say about a rule document, the other uses the document. Both
load it in the same way and validate it on their own, and each answers in two formats. Here is what they
have to do with each other.

## Main definitions

- `Directory` : what there is to read while a command runs.
- `Directory.load` : the rule set that a command is about.
- `Directory.check`, `Directory.recognize` : the two commands.

## Main statements

- `answer_recognize_cases` : names are looked at with the recognizer that was asked for, or nothing is
  written.
- `Directory.commands_agree` : names are looked at only where validation finds no error, and alike in
  both formats.
-/

namespace AggregateNaming

namespace CommandLine

/-! ## §1 Reports -/

/-- A rule set is in order when no error is among the diagnostics. -/
theorem CheckReport.valid_ofRules (s : RuleSet) :
    (CheckReport.ofRules s).valid = true ↔
      ∀ d ∈ (CheckReport.ofRules s).diagnostics, d.level ≠ .error :=
  s.check_new_iff.trans (RuleSet.errors_eq_nil_iff _)

/-- A report counts the diagnostics that it lists, and goes by the number of errors. -/
theorem CheckReport.valid_eq_errors (s : RuleSet) :
    (CheckReport.ofRules s).valid = ((CheckReport.ofRules s).errors == 0) := by
  rw [Bool.eq_iff_iff, valid_ofRules, beq_iff_eq]
  change _ ↔ List.countP _ (CheckReport.ofRules s).diagnostics = 0
  simp [List.countP_eq_zero]

/-- The line for a name that was looked at has the id of the first pattern that accepts it. -/
theorem MatchReport.traceLine_trace (m : Recognizer) (name : String) :
    traceLine (m.trace name) = match m.firstMatch? name with
      | some id => s!"{name}: matched by '{id}'"
      | none => s!"{name}: no match" := by
  unfold traceLine
  cases hfirst : m.firstMatch? name <;>
    simp only [Recognizer.matchedBy_trace, Recognizer.name_trace, hfirst]

/-- The lines for names come after all others. -/
theorem MatchReport.lines_eq_append (r : MatchReport) :
    r.lines = { r with traces := [] }.lines ++ r.traces.map traceLine := by
  simp [lines]

/-! ## §2 Answers -/

theorem Result.exitCode_eq_zero_iff (r : Result) : r.exitCode = 0 ↔ r.error = none := by
  unfold exitCode
  cases r.error <;> simp

/-- What uses a rule set goes by the same verdict. -/
theorem validated_eq (s : RuleSet) :
    s.validated = if (CheckReport.ofRules s).valid = true then .ok s.resolve
      else .error (.invalid (s.check.run {}).2.errors) :=
  rfl

/-- The report ends well where the rule set is in order. -/
theorem error_answer_check (s : RuleSet) (tag : Option String) (f : Format) :
    (answer s tag f .check).error = if (CheckReport.ofRules s).valid = true then none
      else some (.failedCheck s.tag) :=
  rfl

/-- Names are looked at with the recognizer that was asked for, or nothing is written. Formats make no
difference to this. -/
theorem answer_recognize_cases (s : RuleSet) (tag : Option String) (q : Request)
    (names : List String) :
    (∃ e, ∀ f, answer s tag f (.recognize q names) = { error := some e }) ∨
    ∃ s' rule m, s.validated = .ok s' ∧ s'.rule tag = .ok rule ∧ rule.recognizer q = .ok m ∧
      ∀ f, answer s tag f (.recognize q names) =
        { output := (MatchReport.mk rule.tag m (names.map m.trace)).print f } := by
  -- what fails on the way to a report does not depend on the format, in which only a report is printed
  cases hvalidated : s.validated with
  | error cause => exact .inl ⟨.invalid cause, fun f => by simp only [answer, hvalidated]⟩
  | ok s' =>
    cases hreport : MatchReport.ofRules s' tag q names with
    | error cause =>
      exact .inl ⟨.noRecognizer cause, fun f => by simp only [answer, hvalidated, hreport]⟩
    | ok report =>
      obtain ⟨rule, hrule, hrest⟩ := bind_eq_ok_iff.mp hreport
      obtain ⟨m, hm, hpure⟩ := bind_eq_ok_iff.mp hrest
      cases hpure
      exact .inr ⟨s', rule, m, rfl, hrule, hm,
        fun f => by simp only [answer, hvalidated, hreport]⟩

/-! ## §3 Commands in a directory -/

/-- What there is to read under every path while a command runs. -/
abbrev Directory := String → Except ReadError String

namespace Directory

variable (d : Directory) (config : Option String) (flags : Settings)

/-- The rule set that a command is about, and the tag of the rule, by the settings of a file and those
that go before them. -/
def load : Except RunError (RuleSet × Option String) := do
  let settings := flags.override (← Id.run (loadSettings d config))
  let s ← Id.run (loadRules d settings.path)
  return (s, settings.tag)

/-- Says what validation has to say. -/
def check (f : Format) : Result :=
  Id.run (execute d { config, settings := flags, format := f, command := .check })

/-- Looks at names with the recognizer for a request. -/
def recognize (f : Format) (q : Request) (names : List String) : Result :=
  Id.run (execute d { config, settings := flags, format := f, command := .recognize q names })

/-- Commands are about what is loaded, and write nothing where nothing can be loaded. -/
theorem execute_eq (f : Format) (c : Command) :
    Id.run (execute d { config, settings := flags, format := f, command := c }) =
      match d.load config flags with
      | .error e => { error := some e }
      | .ok (s, tag) => answer s tag f c := by
  unfold execute load
  simp only [Id.run, bind, pure]
  cases loadSettings (m := Id) d config with
  | error e => rfl
  | ok given =>
    simp only [Except.bind]
    cases loadRules (m := Id) d (flags.override given).path <;> rfl

theorem check_eq_of_load {s : RuleSet} {tag : Option String}
    (h : d.load config flags = .ok (s, tag)) (f : Format) :
    d.check config flags f = answer s tag f .check := by
  rw [check, execute_eq, h]

theorem check_eq_of_load_error {e : RunError} (h : d.load config flags = .error e) (f : Format) :
    d.check config flags f = { error := some e } := by
  rw [check, execute_eq, h]

/-- What looking at names comes to: one failure for both formats, or one report. -/
theorem recognize_cases (q : Request) (names : List String) :
    (∃ e, ∀ f, d.recognize config flags f q names = { error := some e }) ∨
    ∃ s tag s' rule m, d.load config flags = .ok (s, tag) ∧ s.validated = .ok s' ∧
      s'.rule tag = .ok rule ∧ rule.recognizer q = .ok m ∧
      ∀ f, d.recognize config flags f q names =
        { output := (MatchReport.mk rule.tag m (names.map m.trace)).print f } := by
  unfold recognize
  simp only [execute_eq]
  cases d.load config flags with
  | error e => exact .inl ⟨e, fun _ => rfl⟩
  | ok loaded =>
    obtain ⟨s, tag⟩ := loaded
    rcases answer_recognize_cases s tag q names with hfail | ⟨s', rule, m, hvalidated, hrule, hm, h⟩
    · exact .inl hfail
    · exact .inr ⟨s, tag, s', rule, m, rfl, hvalidated, hrule, hm, h⟩

/-- The check succeeds where rules can be loaded in which validation finds no error. -/
theorem exitCode_check_eq_zero_iff (f : Format) :
    (d.check config flags f).exitCode = 0 ↔ ∃ s tag, d.load config flags = .ok (s, tag) ∧
      (CheckReport.ofRules s).valid = true := by
  rw [Result.exitCode_eq_zero_iff]
  cases hload : d.load config flags with
  | error e => simp [d.check_eq_of_load_error config flags hload]
  | ok loaded =>
    obtain ⟨s, tag⟩ := loaded
    rw [d.check_eq_of_load config flags hload, error_answer_check]
    cases hvalid : (CheckReport.ofRules s).valid <;> simp [hvalid]

/-- Names are looked at only where the check succeeds. -/
theorem exitCode_check_of_recognize {f : Format} {q : Request} {names : List String}
    (h : (d.recognize config flags f q names).exitCode = 0) (f' : Format) :
    (d.check config flags f').exitCode = 0 := by
  rcases d.recognize_cases config flags q names with ⟨e, hfail⟩ |
    ⟨s, tag, s', rule, m, hload, hvalidated, -⟩
  · rw [Result.exitCode_eq_zero_iff, hfail f] at h
    cases h
  · refine (d.exitCode_check_eq_zero_iff config flags f').mpr ⟨s, tag, hload, ?_⟩
    rw [validated_eq] at hvalidated
    split at hvalidated
    · assumption
    · cases hvalidated

/-- Where looking at names fails, nothing is written. -/
theorem output_recognize_of_exitCode {f : Format} {q : Request} {names : List String}
    (h : (d.recognize config flags f q names).exitCode ≠ 0) :
    (d.recognize config flags f q names).output = "" := by
  rcases d.recognize_cases config flags q names with ⟨e, hfail⟩ |
    ⟨s, tag, s', rule, m, -, -, -, -, hok⟩
  · rw [hfail f]
  · rw [Ne, Result.exitCode_eq_zero_iff, hok f] at h
    exact absurd rfl h

/-- The commands agree on every document, whatever a directory holds, whichever file with settings is
named and whatever flags go before its settings. The check succeeds exactly where the rules can be
loaded and validation finds no error in them; its report as JSON counts the diagnostics that it lists,
and says that the rules are valid when it counts no error. Looking at names, for any request, succeeds
only where the check does; it fails where the check has found errors, and where it fails it writes
nothing. Where it succeeds, the answer as JSON is the list of one trace for every name, in order, and
the id in a trace is the one that the answer in the other format has on the line for that name: the
id of the first pattern that accepts the name, in the recognizer that was asked for. -/
theorem commands_agree :
    (∀ f, (d.check config flags f).exitCode = 0 ↔ ∃ s tag, d.load config flags = .ok (s, tag) ∧
      ∀ x ∈ (s.validate.run {}).2.diagnostics, x.level ≠ .error) ∧
    (∀ s tag, d.load config flags = .ok (s, tag) → ∃ report : CheckReport,
      (d.check config flags .json).output = unlines [report.toJson.print] ∧
      report.tag = s.tag ∧
      report.diagnostics = (s.validate.run {}).2.diagnostics ∧
      report.errors = report.diagnostics.countP (·.level == .error) ∧
      report.warnings = report.diagnostics.countP (·.level == .warn) ∧
      report.valid = (report.errors == 0)) ∧
    (∀ f q names, (d.recognize config flags f q names).exitCode = 0 →
      ∀ f', (d.check config flags f').exitCode = 0) ∧
    (∀ f tag, (d.check config flags f).error = some (.failedCheck tag) →
      ∀ f' q names, (d.recognize config flags f' q names).exitCode ≠ 0 ∧
        (d.recognize config flags f' q names).output = "") ∧
    (∀ f q names, (d.recognize config flags f q names).exitCode ≠ 0 →
      (d.recognize config flags f q names).output = "") ∧
    ∀ q names, (d.recognize config flags .json q names).exitCode = 0 →
      ∃ s tag s' rule m, d.load config flags = .ok (s, tag) ∧ s.validated = .ok s' ∧
        s'.rule tag = .ok rule ∧ rule.recognizer q = .ok m ∧
      ∃ traces : List Trace,
        (d.recognize config flags .json q names).output =
          unlines [(Json.array (traces.map (·.toJson))).print] ∧
        (traces.map fun t => (t.name, t.matchedBy)) = names.map (fun n => (n, m.firstMatch? n)) ∧
        (d.recognize config flags .text q names).exitCode = 0 ∧
        (d.recognize config flags .text q names).output =
          unlines ((MatchReport.mk rule.tag m []).lines ++ names.map fun n =>
            match m.firstMatch? n with
            | some id => s!"{n}: matched by '{id}'"
            | none => s!"{n}: no match") := by
  refine ⟨fun f => ?_, fun s tag hload => ?_,
    fun f q names => d.exitCode_check_of_recognize config flags, fun f tag hcheck f' q names => ?_,
    fun f q names => d.output_recognize_of_exitCode config flags, fun q names hzero => ?_⟩
  · rw [d.exitCode_check_eq_zero_iff]
    simp only [CheckReport.valid_ofRules]
    rfl
  · refine ⟨.ofRules s, ?_, rfl, rfl, rfl, rfl, CheckReport.valid_eq_errors s⟩
    rw [d.check_eq_of_load config flags hload]
    rfl
  · -- with names looked at, the check would have succeeded
    have hfails : (d.recognize config flags f' q names).exitCode ≠ 0 := fun hzero => by
      have hsucceeds := d.exitCode_check_of_recognize config flags hzero f
      rw [Result.exitCode_eq_zero_iff, hcheck] at hsucceeds
      cases hsucceeds
    exact ⟨hfails, d.output_recognize_of_exitCode config flags hfails⟩
  · rcases d.recognize_cases config flags q names with ⟨e, hfail⟩ |
      ⟨s, tag, s', rule, m, hload, hvalidated, hrule, hm, hok⟩
    · rw [Result.exitCode_eq_zero_iff, hfail] at hzero
      cases hzero
    · -- both answers come from the traces of one recognizer
      refine ⟨s, tag, s', rule, m, hload, hvalidated, hrule, hm, names.map m.trace, ?_, ?_, ?_, ?_⟩
      · rw [hok]
        rfl
      · simp
      · rw [hok]
        rfl
      · rw [hok, MatchReport.print, MatchReport.lines_eq_append, List.map_map]
        exact congrArg (fun ls => unlines (_ ++ ls))
          (List.map_congr_left fun n _ => MatchReport.traceLine_trace m n)

/-- A directory with one document, in which there is no rule. -/
def ruleless : Directory := fun path => if path = "d" then .ok "tag: t\n" else .error .notFound

/-- Where no file is named, names are looked at with the built-in rules, so that the check of these
succeeds; of the document without a rule the check fails, and no name is looked at. -/
theorem commands_agree_ruleless :
    (ruleless.recognize none {} .json .ignore ["a"]).exitCode = 0 ∧
    (ruleless.check none {} .text).exitCode = 0 ∧
    (ruleless.check none { path := some "d" } .text).error = some (.failedCheck "t") ∧
    (ruleless.recognize none { path := some "d" } .json .ignore ["a"]).output = "" := by
  obtain ⟨loaded, s, r, hloaded, hvalidated, hrule, -, -, hbound⟩ := RuleSet.builtin_validated
  have hload : ruleless.load none {} = .ok (loaded, none) := by
    unfold load loadRules
    rw [hloaded]
    rfl
  have hreport : MatchReport.ofRules s none .ignore ["a"] =
      .ok ⟨r.tag, .never, [⟨"a", none, []⟩]⟩ := by
    rw [MatchReport.ofRules, hrule]
    change r.recognizer .ignore >>= _ = _
    rw [Rule.recognizer, hbound .ignore]
    rfl
  have hzero : (ruleless.recognize none {} .json .ignore ["a"]).exitCode = 0 := by
    simp only [recognize, execute_eq, hload, answer, hvalidated, hreport]
    rfl
  have hcheck : (ruleless.check none { path := some "d" } .text).error =
      some (.failedCheck "t") := by decide +kernel
  obtain ⟨-, -, honly, -⟩ := ruleless.commands_agree none {}
  obtain ⟨-, -, -, hnever, -⟩ := ruleless.commands_agree none { path := some "d" }
  exact ⟨hzero, honly _ _ _ hzero _, hcheck, (hnever _ _ hcheck _ _ _).2⟩

end Directory

end CommandLine

end AggregateNaming
