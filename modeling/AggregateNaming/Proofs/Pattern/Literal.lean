import AggregateNaming.NamePattern
import AggregateNaming.Proofs.Fallible

/-!
# Escaped text

A text that has been escaped is read as a row of literals, one for each character, wherever the
reader stands outside of brackets and blanks count.

## Main definitions

- `ReadState.addChars` : what an escaped text adds to the group that is being read.

## Main statements

- `Token.read_escapeChar` : an escaped character is one literal token.
- `ReadState.run_escapeChars` : reading past an escaped text.
- `read_eq_ok_iff` : when a text is a written pattern.
- `NamePattern.compile_literal` : every name, written as a literal, makes a pattern.
-/

namespace AggregateNaming.Pattern

/-! ## §1 One character -/

/-- The set of a character that is written as it is. -/
def charSet (f : Flags) (c : Char) : CharSet :=
  if f.unicode then (if f.caseInsensitive then .sameUpToCase c else .single c)
  else if c.toNat < 0x80 then foldSet f (.single c)
  else .single c

/-- A character that is written as it is has a set under all switches. -/
theorem literalSet_char (f : Flags) (c : Char) :
    ReadState.literalSet f ⟨c, false⟩ = .ok (charSet f c) := by
  unfold ReadState.literalSet charSet
  cases f.unicode <;> simp
  split <;> rfl

/-- An escaped character with a meaning of its own is a literal. -/
theorem escaped_of_isMeta {c : Char} (h : isMeta c = true) (verbose : Bool) (rest : List Char) :
    escaped verbose (c :: rest) = .ok (.literal ⟨c, false⟩, rest) := by
  simp only [isMeta, List.contains_eq_mem, decide_eq_true_eq, List.mem_cons, List.not_mem_nil,
    or_false] at h
  rcases h with rfl | rfl | rfl | rfl | rfl | rfl | rfl | rfl | rfl | rfl | rfl | rfl | rfl | rfl |
    rfl | rfl | rfl | rfl <;> rfl

/-- A character without a meaning of its own is a literal. -/
theorem Token.read_of_not_isMeta {c : Char} (h : isMeta c = false) (verbose : Bool)
    (rest : List Char) :
    Token.read verbose (c :: rest) = .ok (some (.literal ⟨c, false⟩), rest) := by
  simp only [isMeta, List.contains_eq_mem, decide_eq_false_iff_not, List.mem_cons,
    List.not_mem_nil, or_false, not_or] at h
  unfold Token.read
  split <;> simp_all

/-- An escaped character is one literal token. -/
theorem Token.read_escapeChar (c : Char) (verbose : Bool) (rest : List Char) :
    Token.read verbose (escapeChar c ++ rest) = .ok (some (.literal ⟨c, false⟩), rest) := by
  unfold escapeChar
  split
  next hmeta =>
    show (escaped verbose (c :: rest) >>= fun p => .ok (some (Token.ofEscape p.1), p.2)) = _
    rw [escaped_of_isMeta hmeta]
    rfl
  next hplain => exact Token.read_of_not_isMeta (by simpa using hplain) verbose rest

/-- Only at the end of a text is there no token. -/
theorem Token.eq_nil_of_read {verbose : Bool} {cs rest : List Char}
    (h : Token.read verbose cs = .ok (none, rest)) : cs = [] := by
  unfold Token.read at h
  split at h
  · rfl
  all_goals first
    | cases h
    | obtain ⟨_, _, h⟩ := bind_eq_ok_iff.mp h
      cases h

/-! ## §2 Whole texts -/

namespace ReadState

/-- Adds the sets of characters that are written as they are. -/
def addChars (s : ReadState) (cs : List Char) : ReadState :=
  cs.foldl (fun s c => s.add (.set (charSet s.flags c))) s

@[simp] theorem addChars_cons (s : ReadState) (c : Char) (cs : List Char) :
    s.addChars (c :: cs) = (s.add (.set (charSet s.flags c))).addChars cs := rfl

@[simp] theorem flags_addChars (s : ReadState) (cs : List Char) :
    (s.addChars cs).flags = s.flags := by
  induction cs generalizing s with
  | nil => rfl
  | cons c cs ih => rw [addChars_cons, ih]; rfl

@[simp] theorem stack_addChars (s : ReadState) (cs : List Char) :
    (s.addChars cs).stack = s.stack := by
  induction cs generalizing s with
  | nil => rfl
  | cons c cs ih => rw [addChars_cons, ih]; rfl

@[simp] theorem names_addChars (s : ReadState) (cs : List Char) :
    (s.addChars cs).names = s.names := by
  induction cs generalizing s with
  | nil => rfl
  | cons c cs ih => rw [addChars_cons, ih]; rfl

/-- The token of a character that is written as it is. -/
theorem step_char (s : ReadState) (c : Char) :
    s.step (.literal ⟨c, false⟩) = .ok (s.add (.set (charSet s.flags c))) := by
  simp only [step, literalSet_char]
  rfl

/-- A group that remembers its match is opened when its name, if it has one, has not been used. -/
theorem openGroup_capture_iff {s s' : ReadState} {name : Option String} :
    s.openGroup (.capture name) = .ok s' ↔ (∀ n, name = some n → n ∉ s.names) ∧ s' = { s with
      body := {}, stack := ⟨s.body, s.flags, some (s.captures + 1)⟩ :: s.stack,
      captures := s.captures + 1, names := name.toList ++ s.names } := by
  cases name with
  | none => exact ⟨fun h => ⟨nofun, (Except.ok.inj h).symm⟩, fun ⟨_, h⟩ => congrArg Except.ok h.symm⟩
  | some n =>
    have hunused : (∀ m, some n = some m → m ∉ s.names) ↔ ¬s.names.contains n = true := by
      simp
    rw [openGroup, hunused]
    by_cases hused : s.names.contains n = true
    · rw [if_pos hused]
      exact ⟨nofun, fun h => absurd hused h.1⟩
    · rw [if_neg hused]
      exact ⟨fun h => ⟨hused, (Except.ok.inj h).symm⟩, fun h => congrArg Except.ok h.2.symm⟩

/-- What the reader has done when it has come to the end. -/
theorem run_eq_ok {n : Nat} {s u : ReadState} {cs : List Char} (h : run n s cs = .ok u) :
    ∃ m token rest, n = m + 1 ∧
      Token.read s.flags.verbose (skip s.flags.verbose cs) = .ok (token, rest) ∧
      (token = none ∧ u = s ∨
        ∃ t s', token = some t ∧ s.step t = .ok s' ∧ run m s' rest = .ok u) := by
  cases n with
  | zero => cases h
  | succ m =>
    rw [run] at h
    obtain ⟨⟨token, rest⟩, hread, h⟩ := bind_eq_ok_iff.mp h
    refine ⟨m, token, rest, rfl, hread, ?_⟩
    cases token with
    | none =>
      cases h
      exact .inl ⟨rfl, rfl⟩
    | some t =>
      obtain ⟨s', hstep, h⟩ := bind_eq_ok_iff.mp h
      exact .inr ⟨t, s', rfl, hstep, h⟩

/-- One turn of the reader, where a token comes next. -/
theorem run_of_read {s : ReadState} {cs r : List Char} {t : Token}
    (hread : Token.read s.flags.verbose (skip s.flags.verbose cs) = .ok (some t, r)) (n : Nat) :
    run (n + 1) s cs = s.step t >>= fun s' => run n s' r := by
  rw [run, hread]
  rfl

/-- The last turn of the reader. -/
theorem run_of_skip {s : ReadState} {cs : List Char} (hskip : skip s.flags.verbose cs = [])
    (n : Nat) : run (n + 1) s cs = .ok s := by
  rw [run, hskip]
  rfl

/-- One turn of the reader, where blanks count and a token comes next. -/
theorem run_of_token {s s' : ReadState} {cs rest : List Char} {t : Token}
    (hv : s.flags.verbose = false) (hread : Token.read false cs = .ok (some t, rest))
    (hstep : s.step t = .ok s') (fuel : Nat) : run (fuel + 1) s cs = run fuel s' rest := by
  rw [run_of_read (t := t) (r := rest) (by rw [hv]; exact hread), hstep]
  rfl

/-- Reading past an escaped text, where blanks count. -/
theorem run_escapeChars (fuel : Nat) (s : ReadState) (w rest : List Char)
    (hv : s.flags.verbose = false) :
    run (fuel + w.length) s (escapeChars w ++ rest) = run fuel (s.addChars w) rest := by
  induction w generalizing s with
  | nil => rfl
  | cons c w ih =>
    have hsplit : escapeChars (c :: w) ++ rest = escapeChar c ++ (escapeChars w ++ rest) := by
      simp [escapeChars]
    rw [hsplit, List.length_cons, ← Nat.add_assoc,
      run_of_token hv (Token.read_escapeChar c false _) (step_char s c), addChars_cons]
    exact ih (s.add (.set (charSet s.flags c))) hv

/-- More fuel does not change what has been read. -/
theorem run_mono {fuel more : Nat} {s u : ReadState} {cs : List Char} (h : run fuel s cs = .ok u)
    (hle : fuel ≤ more) : run more s cs = .ok u := by
  -- by the fuel that was enough, with both runs taking the same token at a time
  induction fuel generalizing s cs more with
  | zero => cases h
  | succ fuel ih =>
    obtain ⟨more, rfl⟩ : ∃ m, more = m + 1 := ⟨more - 1, by omega⟩
    obtain ⟨_, token, rest, hfuel, hread, hend⟩ := run_eq_ok h
    cases hfuel
    rcases hend with ⟨rfl, rfl⟩ | ⟨t, s', rfl, hstep, hrest⟩
    · exact run_of_skip (Token.eq_nil_of_read hread) more
    · rw [run_of_read hread, hstep]
      exact ih hrest (by omega)

end ReadState

/-- A text is a written pattern when the reader comes to its end with no group open. -/
theorem read_eq_ok_iff {f : Flags} {cs : List Char} {p : Pattern} :
    Pattern.read f cs = .ok p ↔ ∃ u, ReadState.run (cs.length + 1) { flags := f } cs = .ok u ∧
      u.stack = [] ∧ u.body.toPattern = p := by
  refine bind_eq_ok_iff.trans (exists_congr fun u => and_congr_right' ?_)
  unfold ReadState.finish
  split
  next hstack => simp [hstack]
  next frame stack hstack => simp [hstack]

/-- Every escaped text has at least as many characters as the text itself. -/
theorem length_le_length_escapeChars (w : List Char) : w.length ≤ (escapeChars w).length := by
  induction w with
  | nil => exact Nat.zero_le _
  | cons c w ih =>
    have hchar : 1 ≤ (escapeChar c).length := by
      unfold escapeChar
      split <;> simp
    simp only [escapeChars, List.flatMap_cons, List.length_append, List.length_cons] at ih ⊢
    omega

/-! ## §3 Names as patterns -/

/-- The state of the reader inside the marks for the start and the end of a name. -/
def ReadState.inMarks (casing : Casing) : ReadState :=
  let flags : Flags := { caseInsensitive := casing.isInsensitive }
  { flags, stack := [⟨({} : Body).add (.assertion .textStart), flags, none⟩] }

/-- Reading the mark for the start of a name. -/
theorem ReadState.run_startMark (casing : Casing) (fuel : Nat) (rest : List Char) :
    run (fuel + 2) { flags := { caseInsensitive := casing.isInsensitive } }
      ('^' :: '(' :: '?' :: ':' :: rest) = run fuel (inMarks casing) rest := rfl

/-- Reading the mark for the end of a name, with one group open. -/
theorem ReadState.run_endMark {s s' : ReadState} (hv : s.flags.verbose = false)
    (hclose : s.closeGroup = .ok s') (hv' : s'.flags.verbose = false) (fuel : Nat) :
    run (fuel + 3) s [')', '$'] = .ok (s'.add (.assertion (endAssertion s'.flags))) := by
  rw [run_of_token hv (t := .closeGroup) rfl hclose, run_of_token hv' (t := .lineEnd) rfl rfl, run]
  have hlast : (s'.add (.assertion (endAssertion s'.flags))).flags.verbose = false := hv'
  rw [hlast]
  rfl

end AggregateNaming.Pattern

namespace AggregateNaming

open Pattern

/-- A text makes a pattern when the reader comes to its end with no group open. -/
theorem NamePattern.compile_of_run {casing : Casing} {body : List Char} {u : ReadState} {fuel : Nat}
    (hrun : ReadState.run fuel { flags := { caseInsensitive := casing.isInsensitive } }
      (NamePattern.wrap body) = .ok u)
    (hclosed : u.stack = []) (hfuel : fuel ≤ (NamePattern.wrap body).length + 1) :
    ∃ p, NamePattern.compile casing (.ofList body) = .ok p := by
  have hall := ReadState.run_mono hrun hfuel
  have hread : Pattern.read { caseInsensitive := casing.isInsensitive } (NamePattern.wrap body) =
      .ok u.body.toPattern := read_eq_ok_iff.mpr ⟨u, hall, hclosed, rfl⟩
  refine ⟨⟨.ofList (NamePattern.wrap body), u.body.toPattern⟩, ?_⟩
  unfold NamePattern.compile
  rw [String.toList_ofList]
  dsimp only
  rw [hread]
  rfl

/-- A text makes a pattern when the reader comes from the mark for the start to the mark for the end
with no other group open. -/
theorem NamePattern.compile_of_inside {casing : Casing} {body : List Char} {s : ReadState} {n : Nat}
    (hrun : ReadState.run (n + 3) (ReadState.inMarks casing) (body ++ [')', '$']) =
      ReadState.run 3 s [')', '$'])
    (hverbose : s.flags.verbose = false) (hstack : s.stack = (ReadState.inMarks casing).stack)
    (hfuel : n ≤ body.length) : ∃ p, NamePattern.compile casing (.ofList body) = .ok p := by
  obtain ⟨s', hclose, hflags, hclosed⟩ : ∃ s', s.closeGroup = .ok s' ∧ s'.flags.verbose = false ∧
      s'.stack = [] := by
    rw [ReadState.closeGroup, hstack]
    exact ⟨_, rfl, rfl, rfl⟩
  have hend := ReadState.run_endMark hverbose hclose hflags 0
  have hlength : n + 3 + 2 ≤ (NamePattern.wrap body).length + 1 := by
    simp only [NamePattern.wrap, List.length_append, List.length_cons, List.length_nil]
    omega
  exact NamePattern.compile_of_run
    ((ReadState.run_startMark casing (n + 3) (body ++ [')', '$'])).trans (hrun.trans hend)) hclosed
    hlength

/-- Every text, once escaped, makes a pattern. -/
theorem NamePattern.compile_escapeChars (casing : Casing) (w : List Char) :
    ∃ p, NamePattern.compile casing (.ofList (escapeChars w)) = .ok p := by
  have hbody := ReadState.run_escapeChars 3 (ReadState.inMarks casing) w [')', '$'] rfl
  rw [Nat.add_comm] at hbody
  refine NamePattern.compile_of_inside hbody ?_ ?_ (length_le_length_escapeChars w)
  · rw [ReadState.flags_addChars]
    rfl
  · rw [ReadState.stack_addChars]

/-- Every name, written as a literal, makes a pattern. -/
theorem NamePattern.compile_literal (casing : Casing) (name : String) :
    ∃ p, NamePattern.compile casing (casing.literal name) = .ok p :=
  NamePattern.compile_escapeChars casing (casing.foldChars name.toList)

end AggregateNaming
