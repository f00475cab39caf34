import AggregateNaming.Recognizer
import Mathlib.Data.List.Basic

/-!
# What a trace says

A name can be looked at in two ways. One looks for the first pattern that accepts it. The other goes
through all patterns, remembers whether one of them has accepted the name, and writes down what became
of each. Here is why they agree: as long as nothing is remembered, no pattern has accepted the name, and
from then on all patterns are skipped.

## Main definitions

- `Trace.outcomes` : what became of the patterns, in order.

## Main statements

- `traceFrom_spec` : what is remembered at the end.
- `entries_traceFrom` : there is one entry for each pattern.
- `outcomes_traceFrom_some`, `outcomes_traceFrom_append` : what becomes of the patterns once one has
  accepted the name, and before.
- `trace_agrees_with_search` : the trace of a name and the search for the first pattern.
-/

namespace AggregateNaming

/-- What became of the patterns, in order. -/
def Trace.outcomes (t : Trace) : List Outcome := t.entries.map (·.outcome)

namespace Recognizer

/-! ## §1 One pattern after another -/

/-- A trace is about the name that was looked at, with the id of the first pattern that accepts it, or
with one from before. -/
theorem traceFrom_spec (name : String) (before : Option String) (ps : List NamedPattern) :
    (traceFrom name before ps).name = name ∧
      (traceFrom name before ps).matchedBy = before.or (firstMatch? ⟨ps⟩ name) := by
  induction ps generalizing before with
  | nil => cases before <;> exact ⟨rfl, rfl⟩
  | cons p ps ih =>
    cases before with
    | some id => exact ih (some id)
    | none =>
      simp only [traceFrom, firstMatch?, List.find?_cons]
      cases p.pattern.accepts name with
      | true => exact ih (some p.id)
      | false => exact ih none

@[simp] theorem name_trace (m : Recognizer) (name : String) : (m.trace name).name = name :=
  (traceFrom_spec name none m.patterns).1

@[simp] theorem matchedBy_trace (m : Recognizer) (name : String) :
    (m.trace name).matchedBy = m.firstMatch? name :=
  (traceFrom_spec name none m.patterns).2.trans (Option.none_or ..)

/-- There is one entry for each pattern, in the same order, whatever is remembered. -/
theorem entries_traceFrom (name : String) (before : Option String) (ps : List NamedPattern) :
    (traceFrom name before ps).entries.map (fun e => (e.id, e.text)) =
      ps.map fun p => (p.id, p.pattern.text) := by
  induction ps generalizing before with
  | nil => rfl
  | cons p ps ih =>
    cases before with
    | some id => simp [traceFrom, entry, ih]
    | none =>
      rw [traceFrom]
      split <;> simp [entry, ih]

/-- Once a pattern has accepted the name, the others are skipped. -/
theorem outcomes_traceFrom_some (name id : String) (ps : List NamedPattern) :
    (traceFrom name (some id) ps).outcomes = List.replicate ps.length .skipped := by
  induction ps with
  | nil => rfl
  | cons p ps ih =>
    simp only [Trace.outcomes] at ih
    simp [Trace.outcomes, traceFrom, entry, ih, List.replicate_succ]

/-- Patterns that do not accept the name are gone past. -/
theorem outcomes_traceFrom_append {name : String} {before : List NamedPattern}
    (h : ∀ p ∈ before, p.pattern.accepts name = false) (ps : List NamedPattern) :
    (traceFrom name none (before ++ ps)).outcomes =
      List.replicate before.length .notMatched ++ (traceFrom name none ps).outcomes := by
  induction before with
  | nil => rfl
  | cons p before ih =>
    have hrest := ih fun q hq => h q (List.mem_cons_of_mem p hq)
    simp only [Trace.outcomes] at hrest
    simp [Trace.outcomes, traceFrom, h p List.mem_cons_self, entry, hrest, List.replicate_succ]

/-! ## §2 The trace and the search -/

/-- A recognizer recognizes the names that some pattern of it accepts. -/
theorem recognizes_iff (r : Recognizer) (name : String) :
    r.recognizes name = true ↔ ∃ p ∈ r.patterns, p.pattern.accepts name = true := by
  simp [recognizes, firstMatch?]

/-- A trace has an entry for each pattern. No pattern before the first that accepts the name matches,
that one does, and those behind it are skipped; its id is what the search for the first pattern finds.
Where no pattern accepts the name, none matches and none is found. -/
theorem trace_agrees_with_search (r : Recognizer) (name : String) :
    (r.trace name).name = name ∧
      (r.trace name).entries.map (fun e => (e.id, e.text)) =
        r.patterns.map (fun p => (p.id, p.pattern.text)) ∧
      ((∀ p ∈ r.patterns, p.pattern.accepts name = false) ∧
          (r.trace name).outcomes = List.replicate r.patterns.length .notMatched ∧
          (r.trace name).matchedBy = none ∨
        ∃ before p after, r.patterns = before ++ p :: after ∧
          (∀ q ∈ before, q.pattern.accepts name = false) ∧ p.pattern.accepts name = true ∧
          (r.trace name).outcomes = List.replicate before.length .notMatched ++
            .matched :: List.replicate after.length .skipped ∧
          (r.trace name).matchedBy = some p.id) ∧
      (r.trace name).matchedBy = r.firstMatch? name ∧
      (r.trace name).isMatch = r.recognizes name ∧
      (r.recognizes name = true ↔ ∃ p ∈ r.patterns, p.pattern.accepts name = true) := by
  refine ⟨name_trace r name, entries_traceFrom name none r.patterns, ?_, matchedBy_trace r name, ?_,
    recognizes_iff r name⟩
  · rw [matchedBy_trace, firstMatch?]
    cases hfind : r.patterns.find? (·.pattern.accepts name) with
    | none =>
      -- the walk goes past all patterns
      have hnone : ∀ p ∈ r.patterns, p.pattern.accepts name = false := by
        simpa using List.find?_eq_none.mp hfind
      refine .inl ⟨hnone, ?_, rfl⟩
      have houtcomes := outcomes_traceFrom_append hnone []
      rw [List.append_nil] at houtcomes
      exact houtcomes.trans (List.append_nil _)
    | some p =>
      -- it goes past those before the pattern that is found, and skips those behind
      obtain ⟨hp, before, after, hpatterns, hbefore⟩ := List.find?_eq_some_iff_append.mp hfind
      have hnone : ∀ q ∈ before, q.pattern.accepts name = false := by
        simpa using hbefore
      refine .inr ⟨before, p, after, hpatterns, hnone, hp, ?_, rfl⟩
      have hfound : (traceFrom name none (p :: after)).outcomes =
          .matched :: List.replicate after.length .skipped := by
        rw [traceFrom, if_pos hp, ← outcomes_traceFrom_some name p.id after]
        rfl
      rw [trace, hpatterns, outcomes_traceFrom_append hnone, hfound]
  · rw [Trace.isMatch, matchedBy_trace, recognizes]

end Recognizer

end AggregateNaming
