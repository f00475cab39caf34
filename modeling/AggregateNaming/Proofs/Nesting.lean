import AggregateNaming.Proofs.Transparency
import Mathlib.Data.List.Infix

/-!
# Programs of recorder steps

A program of steps is a tree: some of its steps run programs of their own inside a part. Where parts are
entered and left by such steps only, a program leaves the recorder at the place where it was, and what it
reports is in the places that the tree shows. Where names are also put on the path and taken from it by
hand, the steps no longer are what the tree shows, but the path still is a stack: a part is entered by a
move that puts its name on top, and left by one that takes away what is on top then, whatever that is.

## Main definitions

- `Step.isScoped` : parts are entered and left by steps inside of them only.
- `Step.findings` : what the tree shows to be reported, and where.
- `Step.toCheck` : a step as a computation that reports.
- `Move`, `Step.moves` : what happens to a recorder, one thing at a time.
- `Move.onStack` : what a move does to a stack of names.

## Main statements

- `Step.run_toCheck` : steps do to a recorder what checks made of the same parts do.
- `Step.toCheck_finds` : without names put on the path by hand, the findings are those of the tree.
- `Step.after_moves`, `Step.trace_eq_states` : a program makes its moves one after the other.
- `Recorder.path_after` : the path is a stack.
- `Step.programs_append_findings_and_follow_stack` : all of it.
-/

namespace AggregateNaming

namespace Step

open Check (Finds)

/-! ## §1 What the tree shows -/

mutual
/-- Parts are entered and left by steps that run inside of them, and not by hand. -/
def isScoped : Step → Bool
  | .report _ _ => true
  | .push _ => false
  | .pop => false
  | .inside _ steps => allScoped steps

/-- All steps of a program are scoped. -/
def allScoped : List Step → Bool
  | [] => true
  | s :: rest => s.isScoped && allScoped rest
end

mutual
/-- What a step reports, in the parts that the tree shows around the report. -/
def findings : Step → List Finding
  | .report level message => [⟨level, [], message⟩]
  | .push _ => []
  | .pop => []
  | .inside name steps => (findingsAll steps).map (·.within name)

/-- What a program reports, in order. -/
def findingsAll : List Step → List Finding
  | [] => []
  | s :: rest => s.findings ++ findingsAll rest
end

/-! ## §2 Steps as checks -/

mutual
/-- A step as a computation that reports. -/
def toCheck : Step → Check Unit
  | .report level message => Check.report level message
  | .push name => modify (·.push name)
  | .pop => modify (·.pop)
  | .inside name steps => Check.inside name (toCheckAll steps)

/-- A program as a computation that reports. -/
def toCheckAll : List Step → Check Unit
  | [] => return ()
  | s :: rest => do
    s.toCheck
    toCheckAll rest
end

mutual
/-- A step does to a recorder what the check made of it does. -/
theorem run_toCheck : (s : Step) → (r : Recorder) → s.toCheck.run r = ((), s.run r)
  | .report _ _, _ => rfl
  | .push _, _ => rfl
  | .pop, _ => rfl
  | .inside name steps, r => by
    have hsteps := run_toCheckAll steps (r.push name)
    have hrun : (Check.inside name (toCheckAll steps)).run r =
        (((toCheckAll steps).run (r.push name)).1, ((toCheckAll steps).run (r.push name)).2.pop) := rfl
    rw [toCheck, hrun, hsteps, run]

/-- A program does to a recorder what the check made of it does. -/
theorem run_toCheckAll : (steps : List Step) → (r : Recorder) →
    (toCheckAll steps).run r = ((), runAll steps r)
  | [], _ => rfl
  | s :: rest, r => by
    have hrun : (toCheckAll (s :: rest)).run r = (toCheckAll rest).run (s.toCheck.run r).2 := rfl
    rw [hrun, run_toCheck s r, run_toCheckAll rest (s.run r), runAll]
end

mutual
/-- A scoped step finds what the tree shows, wherever it runs. -/
theorem toCheck_finds : (s : Step) → s.isScoped = true → s.toCheck.Finds () s.findings
  | .report level message, _ => Finds.report level message
  | .inside name steps, h => (toCheckAll_finds steps h).inside name

/-- A scoped program finds what the tree shows, wherever it runs. -/
theorem toCheckAll_finds : (steps : List Step) → allScoped steps = true →
    (toCheckAll steps).Finds () (findingsAll steps)
  | [], _ => Finds.pure ()
  | s :: rest, h => by
    obtain ⟨hs, hrest⟩ : s.isScoped = true ∧ allScoped rest = true := by
      simpa only [allScoped, Bool.and_eq_true] using h
    exact (toCheck_finds s hs).bind (toCheckAll_finds rest hrest)
end

/-- A scoped program adds its findings to a recorder and does nothing else to it. -/
theorem runAll_of_allScoped {steps : List Step} (h : allScoped steps = true) (r : Recorder) :
    runAll steps r =
      { r with diagnostics := r.diagnostics ++ (findingsAll steps).map (·.diagnostic r.path) } := by
  have hfinds := toCheckAll_finds steps h r
  rw [run_toCheckAll] at hfinds
  exact (Prod.mk.inj hfinds).2

end Step

/-! ## §3 Moves -/

/-- What happens to a recorder, one thing at a time. -/
inductive Move where
  | report (level : Level) (message : String)
  /-- A name is put on the path by hand. -/
  | push (name : String)
  /-- The innermost name is taken from the path, by hand or at the end of a step inside a part. -/
  | pop
  /-- A step inside a part begins. -/
  | enter (name : String)
  deriving Repr, DecidableEq

namespace Move

/-- What a move does to a recorder. -/
def run (r : Recorder) : Move → Recorder
  | report level message => r.report level message
  | push name => r.push name
  | pop => r.pop
  | enter name => r.push name

/-- What a move does to a stack of names, the top of which comes first. Nothing is taken from the empty
stack. -/
def onStack (stack : List String) : Move → List String
  | report _ _ => stack
  | push name => name :: stack
  | pop => stack.tail
  | enter name => name :: stack

/-- A step is done with a move, unless it only begins with it. -/
def endsStep : Move → Bool
  | enter _ => false
  | _ => true

/-- A step is done with the last of some moves. -/
def endsWithStep (moves : List Move) : Bool := moves.getLast?.any endsStep

end Move

/-- A recorder after some moves. -/
def Recorder.after (r : Recorder) (moves : List Move) : Recorder := moves.foldl Move.run r

/-- The states of a recorder in a row of moves each time that a step is done. -/
def Recorder.states (r : Recorder) (moves : List Move) : List Recorder :=
  (moves.inits.filter Move.endsWithStep).map r.after

namespace Recorder

/-- A move does to the path what it does to a stack. -/
theorem path_run (r : Recorder) (m : Move) :
    (Move.run r m).path.reverse = m.onStack r.path.reverse := by
  cases m with
  | report level message => rfl
  | push name => simp [Move.run, Move.onStack, push]
  | pop => simp [Move.run, Move.onStack, pop, List.tail_reverse]
  | enter name => simp [Move.run, Move.onStack, push]

/-- Moves do to the path what they do to a stack. -/
theorem path_after (r : Recorder) (moves : List Move) :
    (r.after moves).path.reverse = moves.foldl Move.onStack r.path.reverse := by
  induction moves generalizing r with
  | nil => rfl
  | cons m moves ih =>
    rw [List.foldl_cons, ← path_run]
    exact ih (Move.run r m)

theorem after_append (r : Recorder) (first second : List Move) :
    r.after (first ++ second) = (r.after first).after second :=
  List.foldl_append

/-- The states in one row of moves after another are those in the one, and those in the other from
there on. -/
theorem states_append (r : Recorder) (first second : List Move) :
    r.states (first ++ second) = r.states first ++ (r.after first).states second := by
  -- no step is done before the first move of the second row
  have htail : (r.after first).states second =
      (second.inits.tail.filter Move.endsWithStep).map (r.after first).after := by
    cases second <;> simp [states, Move.endsWithStep]
  have hlast : second.inits.tail.filter (Move.endsWithStep ∘ (first ++ ·)) =
      second.inits.tail.filter Move.endsWithStep := by
    refine List.filter_congr fun done hdone => ?_
    cases second with
    | nil => simp at hdone
    | cons m second =>
      obtain ⟨done, -, rfl⟩ : ∃ done' ∈ second.inits, m :: done' = done := by simpa using hdone
      exact congrArg _ (List.getLast?_append_of_ne_nil first (List.cons_ne_nil m done))
  rw [htail, states, List.inits_append, List.filter_append, List.map_append, List.filter_map,
    List.map_map, hlast]
  exact congrArg _ (List.map_congr_left fun done _ => r.after_append first done)

end Recorder

/-! ## §4 Programs as moves -/

namespace Step

mutual
/-- The moves of a step. A part is entered before the program inside of it, and what is innermost then
is left after it. -/
def moves : Step → List Move
  | .report level message => [.report level message]
  | .push name => [.push name]
  | .pop => [.pop]
  | .inside name steps => .enter name :: movesAll steps ++ [.pop]

/-- The moves of a program. -/
def movesAll : List Step → List Move
  | [] => []
  | s :: rest => s.moves ++ movesAll rest
end

mutual
/-- A step makes its moves. -/
theorem after_moves : (s : Step) → (r : Recorder) → r.after s.moves = s.run r
  | .report _ _, _ => rfl
  | .push _, _ => rfl
  | .pop, _ => rfl
  | .inside name steps, r => by
    have hsteps := after_movesAll steps (r.push name)
    rw [moves, run, List.cons_append, ← hsteps]
    exact Recorder.after_append (r.push name) (movesAll steps) [.pop]

/-- A program makes its moves. -/
theorem after_movesAll : (steps : List Step) → (r : Recorder) →
    r.after (movesAll steps) = runAll steps r
  | [], _ => rfl
  | s :: rest, r => by
    rw [movesAll, runAll, Recorder.after_append, after_moves s r, after_movesAll rest]
end

mutual
/-- The last state that a step shows is the one after it. -/
theorem getLast?_trace : (s : Step) → (r : Recorder) → (s.trace r).getLast? = some (s.run r)
  | .report _ _, _ => rfl
  | .push _, _ => rfl
  | .pop, _ => rfl
  | .inside name steps, r => by
    rw [trace, run, List.getLast?_concat, getLast?_traceAll steps (r.push name)]

/-- The last state that a program shows, if there is any, is the one after it. -/
theorem getLast?_traceAll : (steps : List Step) → (r : Recorder) →
    (traceAll steps r).getLast?.getD r = runAll steps r
  | [], _ => rfl
  | s :: rest, r => by
    have hstep := getLast?_trace s r
    have hrest := getLast?_traceAll rest (s.run r)
    rw [traceAll, runAll, hstep, List.getLast?_append, hstep, Option.getD_some, ← hrest]
    cases (traceAll rest (s.run r)).getLast? <;> rfl
end

mutual
/-- A step shows the states of its moves each time that a step is done. -/
theorem trace_eq_states : (s : Step) → (r : Recorder) → s.trace r = r.states s.moves
  | .report _ _, _ => rfl
  | .push _, _ => rfl
  | .pop, _ => rfl
  | .inside name steps, r => by
    -- nothing is shown when the part is entered
    have henter : r.states (.enter name :: movesAll steps) = (r.push name).states (movesAll steps) :=
      r.states_append [.enter name] (movesAll steps)
    have hafter : r.after (.enter name :: movesAll steps) = runAll steps (r.push name) :=
      after_movesAll steps (r.push name)
    rw [trace, getLast?_traceAll, traceAll_eq_states steps (r.push name), moves,
      Recorder.states_append, henter, hafter]
    rfl

/-- A program shows the states of its moves each time that a step is done. -/
theorem traceAll_eq_states : (steps : List Step) → (r : Recorder) →
    traceAll steps r = r.states (movesAll steps)
  | [], _ => rfl
  | s :: rest, r => by
    rw [traceAll, getLast?_trace, Option.getD_some, trace_eq_states s r,
      traceAll_eq_states rest (s.run r), movesAll, Recorder.states_append, after_moves]
end

/-! ## §5 Programs -/

/-- What programs do to a recorder. A scoped program adds a diagnostic for every report, in order, in
the place that the tree shows below the one where the recorder is, and does nothing else; what is counted
and found among the diagnostics counts these, too. Any program makes its moves, and what it shows are the
states each time that a step is done; after any number of moves the path is what they make of it as a
stack. -/
theorem programs_append_findings_and_follow_stack (steps : List Step) (r : Recorder) :
    (allScoped steps = true →
      let found := (findingsAll steps).map (·.diagnostic r.path)
      runAll steps r = { r with diagnostics := r.diagnostics ++ found } ∧
      (∀ level, (runAll steps r).count level =
        r.count level + found.countP (·.level = level)) ∧
      (runAll steps r).errors = r.errors ++ found.filter (·.level = .error) ∧
      ((runAll steps r).hasErrors = true ↔
        r.hasErrors = true ∨ ∃ d ∈ found, d.level = .error)) ∧
    runAll steps r = r.after (movesAll steps) ∧
    traceAll steps r = r.states (movesAll steps) ∧
    ∀ n, (r.after ((movesAll steps).take n)).path =
      (((movesAll steps).take n).foldl Move.onStack r.path.reverse).reverse := by
  refine ⟨fun h => ?_, (after_movesAll steps r).symm, traceAll_eq_states steps r, fun n => ?_⟩
  · have hrun := runAll_of_allScoped h r
    refine ⟨hrun, fun level => ?_, ?_, ?_⟩
    · simp only [hrun, Recorder.count, List.countP_append]
      rfl
    · simp only [hrun, Recorder.errors, List.filter_append]
      rfl
    · simp [hrun, Recorder.hasErrors, Diagnostic.isError]
  · rw [← Recorder.path_after, List.reverse_reverse]

/-- A program with reports on three levels of the tree. -/
def nestedReports : List Step :=
  [.inside "Outer" [.inside "Inner" [.report .error "first"], .report .warn "odd"],
    .report .info "loaded"]

/-- The program leaves the path and the earlier diagnostic alone and adds its own three. -/
theorem programs_append_findings_nestedReports :
    allScoped nestedReports = true ∧
      runAll nestedReports ⟨["P"], [⟨.error, "", "earlier"⟩]⟩ =
        ⟨["P"], [⟨.error, "", "earlier"⟩, ⟨.error, "P > Outer > Inner", "first"⟩,
          ⟨.warn, "P > Outer", "odd"⟩, ⟨.info, "P", "loaded"⟩]⟩ ∧
      (runAll nestedReports ⟨["P"], [⟨.error, "", "earlier"⟩]⟩).count .error = 2 := by
  have h := (programs_append_findings_and_follow_stack nestedReports
    ⟨["P"], [⟨.error, "", "earlier"⟩]⟩).1 rfl
  exact ⟨rfl, h.1.trans (by decide), (h.2.1 .error).trans (by decide)⟩

-- Names taken by hand in a part are its own first, and then those around it. The end of the part takes
-- what is innermost then.
example : (runAll [.inside "A" [.pop, .pop, .push "B", .push "C"]] ⟨["P"], []⟩).path = ["B"] := rfl

end Step

end AggregateNaming
