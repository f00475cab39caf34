import AggregateNaming.Proofs.Pattern.CaselessRead
import AggregateNaming.Proofs.Pattern.Seam

/-!
# Reading token by token

Where blanks count and no switches are turned, what a text is read as depends on its tokens alone: the
reader does to them one step after another. So the tokens of two texts, one behind the other, are what
there is to look at when the texts are read as one.

## Main definitions

- `Tokens` : a text is read to its end as a row of tokens.
- `ReadState.steps` : what a row of tokens does.
- `readAlternatives` : the alternatives of a written pattern.

## Main statements

- `Tokens.append` : two texts, one behind the other.
- `ReadState.run_eq_steps` : reading a text is taking the steps of its tokens.
- `NamePattern.compile_of_steps`, `NamePattern.exists_steps_of_compile` : the same between marks.
-/

namespace AggregateNaming.Pattern

variable {cs w : List Char} {ts us : List Token} {t : Token} {f : Flags}

/-! ## §1 The tokens of a text -/

/-- Where blanks count, a text is read to its end as a row of tokens, none of which turns switches. -/
inductive Tokens : List Char → List Token → Prop
  | nil : Tokens [] []
  | cons {cs rest : List Char} {t : Token} {ts : List Token}
      (next : Token.read false cs = .ok (some t, rest)) (still : t.turnsSwitch = false)
      (after : Tokens rest ts) : Tokens cs (t :: ts)

/-- A text that turns no switches has tokens. -/
theorem Switchless.exists_tokens (h : Switchless cs) : ∃ ts, Tokens cs ts := by
  induction h with
  | nil => exact ⟨[], .nil⟩
  | token next still after ih =>
    obtain ⟨ts, hts⟩ := ih
    exact ⟨_ :: ts, .cons next still hts⟩

namespace Tokens

/-- Two texts, one behind the other, have the tokens of both. -/
theorem append (hw : Quiet w) (h : Tokens cs ts) (h' : Tokens w us) :
    Tokens (cs ++ w) (ts ++ us) := by
  induction h with
  | nil => exact h'
  | cons next still after ih => exact .cons (Token.read_append hw next) still ih

/-- The tokens of an escaped text are its characters. -/
theorem escapeChars (w : List Char) :
    Tokens (escapeChars w) (w.map fun c => .literal ⟨c, false⟩) := by
  induction w with
  | nil => exact .nil
  | cons c w ih => exact .cons (Token.read_escapeChar c false (Pattern.escapeChars w)) rfl ih

/-- Every token takes a character. -/
theorem length_le (h : Tokens cs ts) : ts.length ≤ cs.length := by
  induction h with
  | nil => exact Nat.le_refl 0
  | @cons cs rest t ts next still after ih =>
    cases cs with
    | nil => cases next
    | cons c cs =>
      have hle := (Token.read_suffix next).length_le
      simp only [List.length_cons]
      omega

/-- No token turns switches. -/
theorem still (h : Tokens cs ts) : ∀ t ∈ ts, t.turnsSwitch = false := by
  induction h with
  | nil => exact nofun
  | cons next still after ih => exact List.forall_mem_cons.mpr ⟨still, ih⟩

end Tokens

/-! ## §2 Steps -/

namespace ReadState

variable {s s' u : ReadState} {frame : Frame} {n : Nat}

/-- A token changes the innermost group only, or it opens or closes a group, or it turns switches. -/
theorem step_cases (h : s.step t = .ok s') : (∃ body, s' = { s with body }) ∨
    (∃ k, t = .openGroup k ∧ s.openGroup k = .ok s') ∨
    (t = .closeGroup ∧ s.closeGroup = .ok s') ∨
    ∃ changes, t = .directive changes ∧ s' = { s with
      flags := s.flags.apply changes
      body := { s.body with pieces := .directive :: s.body.pieces } } := by
  have hset : ∀ {x : Except PatternError CharSet},
      (x >>= fun c => .ok (s.add (.set c))) = .ok s' → ∃ body, s' = { s with body } := by
    intro x hx
    obtain ⟨c, -, hx⟩ := bind_eq_ok_iff.mp hx
    cases hx
    exact ⟨_, rfl⟩
  have hbody : ∀ {body}, Except.ok { s with body } = Except.ok (ε := PatternError) s' →
      ∃ body, s' = { s with body } := by
    intro body hbody
    cases hbody
    exact ⟨_, rfl⟩
  cases t with
  | literal l => exact .inl (hset h)
  | dot => exact .inl (hset h)
  | short c negated => exact .inl (hset h)
  | property q negated => exact .inl (hset h)
  | bracket b => exact .inl (hset h)
  | lineStart => exact .inl (hbody h)
  | lineEnd => exact .inl (hbody h)
  | assertion a => exact .inl (hbody h)
  | bar => exact .inl (hbody h)
  | repetition least most isLazy =>
    rw [step, repeatLast] at h
    split at h
    · exact .inl (hbody h)
    · cases h
  | openGroup k => exact .inr (.inl ⟨k, rfl, h⟩)
  | closeGroup => exact .inr (.inr (.inl ⟨rfl, h⟩))
  | directive changes =>
    cases h
    exact .inr (.inr (.inr ⟨changes, rfl, rfl⟩))

/-- What a row of tokens does. -/
def steps (s : ReadState) (ts : List Token) : Except PatternError ReadState :=
  ts.foldlM step s

theorem steps_cons (s : ReadState) (t : Token) (ts : List Token) :
    s.steps (t :: ts) = s.step t >>= fun s' => s'.steps ts := List.foldlM_cons

theorem steps_append (s : ReadState) (ts us : List Token) :
    s.steps (ts ++ us) = s.steps ts >>= fun s' => s'.steps us := List.foldlM_append

/-- What the characters of a text do. -/
theorem steps_chars (s : ReadState) (w : List Char) :
    s.steps (w.map fun c => .literal ⟨c, false⟩) = .ok (s.addChars w) := by
  induction w generalizing s with
  | nil => rfl
  | cons c w ih =>
    rw [List.map_cons, steps_cons, step_char, addChars_cons]
    exact ih (s.add (.set (charSet s.flags c)))

/-- A row of tokens that can be taken can be taken with one more group around. -/
theorem steps_within (h : s.steps ts = .ok u) :
    (s.within frame).steps ts = .ok (u.within frame) := by
  induction ts generalizing s with
  | nil =>
    cases h
    rfl
  | cons t ts ih =>
    rw [steps_cons] at h ⊢
    obtain ⟨s', hstep, hrest⟩ := bind_eq_ok_iff.mp h
    have hopen : t = .closeGroup → s.stack ≠ [] := by
      rintro rfl hs
      -- there would be no group to close
      rw [step, closeGroup, hs] at hstep
      cases hstep
    rw [step_within hopen, hstep]
    exact ih hrest

/-! ## §3 Switches -/

/-- The same switches are in force in all groups that are open. -/
structure Under (f : Flags) (s : ReadState) : Prop where
  flags : s.flags = f
  frames : ∀ frame ∈ s.stack, frame.flags = f

/-- A group that is opened leaves the switches as they are. -/
theorem Under.openGroup {k : GroupKind} (h : s.Under f)
    (hstill : (Token.openGroup k).turnsSwitch = false) (hs' : s.openGroup k = .ok s') :
    s'.Under f := by
  have hframes : ∀ capture, ∀ frame ∈ ⟨s.body, s.flags, capture⟩ :: s.stack, frame.flags = f :=
    fun capture => List.forall_mem_cons.mpr ⟨h.flags, h.frames⟩
  rcases k with name | changes
  · obtain ⟨-, rfl⟩ := openGroup_capture_iff.mp hs'
    exact ⟨h.flags, hframes _⟩
  · have hchanges : changes = [] := by simpa [Token.turnsSwitch] using hstill
    subst hchanges
    cases hs'
    exact ⟨h.flags, hframes _⟩

/-- The group that is closed gives way to the switches of the one around, which are the same. -/
theorem Under.closeGroup (h : s.Under f) (hs' : s.closeGroup = .ok s') : s'.Under f := by
  unfold ReadState.closeGroup at hs'
  split at hs'
  next => cases hs'
  next frame stack hstack =>
    cases hs'
    obtain ⟨hframe, hframes⟩ := List.forall_mem_cons.mp (hstack ▸ h.frames)
    exact ⟨hframe, hframes⟩

/-- A token that turns no switches leaves them as they are. -/
theorem Under.step (h : s.Under f) (hstill : t.turnsSwitch = false) (hs' : s.step t = .ok s') :
    s'.Under f := by
  rcases step_cases hs' with ⟨body, rfl⟩ | ⟨k, rfl, hopen⟩ | ⟨rfl, hclose⟩ | ⟨changes, rfl, -⟩
  · exact ⟨h.flags, h.frames⟩
  · exact h.openGroup hstill hopen
  · exact h.closeGroup hclose
  · cases hstill

theorem Under.steps (h : s.Under f) (hstill : ∀ t ∈ ts, t.turnsSwitch = false)
    (hs' : s.steps ts = .ok s') : s'.Under f := by
  induction ts generalizing s with
  | nil =>
    cases hs'
    exact h
  | cons t ts ih =>
    rw [steps_cons] at hs'
    obtain ⟨u, hstep, hrest⟩ := bind_eq_ok_iff.mp hs'
    obtain ⟨hfirst, hrest'⟩ := List.forall_mem_cons.mp hstill
    exact ih (h.step hfirst hstep) hrest' hrest

/-- Reading a text is taking the steps of its tokens. -/
theorem run_eq_steps (hs : s.Under f) (hv : f.verbose = false) (h : Tokens cs ts)
    (hn : ts.length < n) : run n s cs = s.steps ts := by
  -- by the tokens, with one turn of the reader for each
  induction h generalizing s n with
  | nil =>
    obtain ⟨n, rfl⟩ := Nat.exists_eq_succ_of_ne_zero (by omega : n ≠ 0)
    exact run_of_skip (by rw [hs.flags, hv]; rfl) n
  | @cons cs rest t ts next still after ih =>
    obtain ⟨n, rfl⟩ := Nat.exists_eq_succ_of_ne_zero (by omega : n ≠ 0)
    have hread : Token.read s.flags.verbose (skip s.flags.verbose cs) = .ok (some t, rest) := by
      rw [hs.flags, hv]
      exact next
    rw [run_of_read hread, steps_cons]
    cases hstep : s.step t with
    | error e => rfl
    | ok s' => exact ih (hs.step still hstep) (by rw [List.length_cons] at hn; omega)

/-! ## §4 Names of groups -/

/-- A group that is opened keeps the names that have been used, and its own is none of them. -/
theorem names_subset_of_openGroup {k : GroupKind} (h : s.openGroup k = .ok s') :
    s.names ⊆ s'.names ∧ ∀ n ∈ s.names, k ≠ .capture (some n) := by
  rcases k with name | changes
  · obtain ⟨hunused, rfl⟩ := openGroup_capture_iff.mp h
    refine ⟨List.subset_append_right _ _, fun n hn heq => ?_⟩
    exact hunused n (GroupKind.capture.inj heq) hn
  · cases h
    exact ⟨List.Subset.refl _, nofun⟩

/-- The names of groups that have been used stay used. -/
theorem names_subset_of_step (h : s.step t = .ok s') : s.names ⊆ s'.names := by
  rcases step_cases h with ⟨body, rfl⟩ | ⟨k, rfl, hopen⟩ | ⟨rfl, hclose⟩ | ⟨changes, rfl, rfl⟩
  · exact List.Subset.refl _
  · exact (names_subset_of_openGroup hopen).1
  · unfold closeGroup at hclose
    split at hclose
    · cases hclose
    · cases hclose
      exact List.Subset.refl _
  · exact List.Subset.refl _

/-- No group is opened under a name that has been used. -/
theorem named_notMem_of_steps {name : String} (hname : name ∈ s.names) (h : s.steps ts = .ok u) :
    .openGroup (.capture (some name)) ∉ ts := by
  -- by the tokens: the name stays used, whichever state has been reached
  induction ts generalizing s with
  | nil => exact List.not_mem_nil
  | cons t ts ih =>
    rw [steps_cons] at h
    obtain ⟨s', hstep, hrest⟩ := bind_eq_ok_iff.mp h
    rw [List.mem_cons, not_or]
    constructor
    · rintro rfl
      have hopen : s.openGroup (.capture (some name)) = .ok s' := hstep
      exact (names_subset_of_openGroup hopen).2 name hname rfl
    · exact ih (names_subset_of_step hstep hname) hrest

end ReadState

/-! ## §5 Written patterns -/

namespace ReadState

variable {s u : ReadState}

/-- At the beginning of a text. -/
theorem Under.start (f : Flags) : ({ flags := f } : ReadState).Under f := ⟨rfl, nofun⟩

/-- Inside the marks for the start and the end of a name. -/
theorem Under.inMarks (casing : Casing) :
    (ReadState.inMarks casing).Under { caseInsensitive := casing.isInsensitive } :=
  ⟨rfl, List.forall_mem_singleton.mpr rfl⟩

/-- The alternatives that have been read, once no group is open. -/
def parted (s : ReadState) : Except PatternError (List Pattern) :=
  match s.stack with
  | [] => .ok s.body.bar.alternatives.reverse
  | _ :: _ => .error .unclosedGroup

theorem finish_eq_parted (s : ReadState) : s.finish = s.parted.map alternateAll := by
  rcases s with ⟨flags, body, _ | ⟨frame, stack⟩, captures, names⟩ <;> rfl

theorem parted_of_stack (h : s.stack = []) : s.parted = .ok s.body.bar.alternatives.reverse := by
  rw [parted, h]

end ReadState

/-- The alternatives of a written pattern, which the bars outside of its groups part. -/
def readAlternatives (f : Flags) (cs : List Char) : Except PatternError (List Pattern) := do
  (← ReadState.run (cs.length + 1) { flags := f } cs).parted

/-- A written pattern is made of its alternatives. -/
theorem read_eq_alternateAll (f : Flags) (cs : List Char) :
    Pattern.read f cs = (readAlternatives f cs).map alternateAll := by
  unfold Pattern.read readAlternatives
  cases ReadState.run (cs.length + 1) { flags := f } cs with
  | error e => rfl
  | ok s => exact s.finish_eq_parted

/-- A text is read from its beginning by the steps of its tokens. -/
theorem run_start_eq_steps (hv : f.verbose = false) (h : Tokens cs ts) :
    ReadState.run (cs.length + 1) { flags := f } cs = ReadState.steps { flags := f } ts :=
  ReadState.run_eq_steps (.start f) hv h (Nat.lt_succ_of_le h.length_le)

/-- The tokens of a written pattern can be taken, and leave no group open. -/
theorem exists_steps_of_read {p : Pattern} (hv : f.verbose = false) (h : Tokens cs ts)
    (hread : Pattern.read f cs = .ok p) : ∃ u, ReadState.steps { flags := f } ts = .ok u ∧
      u.stack = [] ∧ readAlternatives f cs = .ok u.body.bar.alternatives.reverse := by
  obtain ⟨u, hu, hstack, -⟩ := read_eq_ok_iff.mp hread
  refine ⟨u, (run_start_eq_steps hv h).symm.trans hu, hstack, ?_⟩
  rw [readAlternatives, hu]
  exact ReadState.parted_of_stack hstack

/-- A text is a written pattern when its tokens can be taken and leave no group open. -/
theorem read_of_steps {u : ReadState} (hv : f.verbose = false) (h : Tokens cs ts)
    (hu : ReadState.steps { flags := f } ts = .ok u) (hstack : u.stack = []) :
    Pattern.read f cs = .ok u.body.toPattern :=
  read_eq_ok_iff.mpr ⟨u, (run_start_eq_steps hv h).trans hu, hstack, rfl⟩

/-! ## §6 Seams -/

/-- No pattern begins with a mark that belongs to what is before it. -/
theorem quiet_of_steps {u : ReadState} (h : Tokens cs ts)
    (hu : ReadState.steps { flags := f } ts = .ok u) : Quiet cs := by
  -- there would be nothing that the mark repeats
  constructor
  · rintro k rfl
    cases h with
    | cons next still after =>
      cases next
      cases hu
  · rintro k rfl
    cases h with
    | cons next still after =>
      obtain ⟨⟨t, rest⟩, hcounts, hnext⟩ := bind_eq_ok_iff.mp next
      obtain ⟨least, most, isLazy, rfl⟩ := Token.exists_repetition_of_readCounts hcounts
      cases hnext
      cases hu

/-- An escaped text does not begin with such a mark either. -/
theorem quiet_escapeChars_append {v : List Char} (hv : Quiet v) (w : List Char) :
    Quiet (escapeChars w ++ v) := by
  cases w with
  | nil => exact hv
  | cons c w =>
    have hmeta : ∀ {d k}, isMeta d = true → d ≠ '\\' → escapeChars (c :: w) ++ v ≠ d :: k := by
      intro d k hd hback heq
      rw [escapeChars, List.flatMap_cons, escapeChar] at heq
      split at heq
      next => exact hback (List.cons.inj heq).1.symm
      next hplain => exact hplain ((List.cons.inj heq).1 ▸ hd)
    exact ⟨fun k => hmeta rfl (by decide), fun k => hmeta rfl (by decide)⟩

/-- Nor does what closes the group around a name. -/
theorem quiet_endMark : Quiet [')', '$'] := ⟨nofun, nofun⟩

theorem tokens_endMark : Tokens [')', '$'] [.closeGroup, .lineEnd] :=
  .cons rfl rfl (.cons rfl rfl .nil)

end AggregateNaming.Pattern

namespace AggregateNaming

open Pattern

/-! ## §7 Between the marks -/

variable {casing : Casing} {body : List Char} {ts : List Token} {u : ReadState}

/-- Between the marks for the start and the end of a name, a text is read by the steps of its tokens. -/
theorem NamePattern.run_wrap (h : Tokens body ts) :
    ReadState.run ((wrap body).length + 1)
        { flags := { caseInsensitive := casing.isInsensitive } } (wrap body) =
      (ReadState.inMarks casing).steps (ts ++ [.closeGroup, .lineEnd]) := by
  have htokens : Tokens (body ++ [')', '$']) (ts ++ [.closeGroup, .lineEnd]) :=
    h.append quiet_endMark tokens_endMark
  have hlength : (wrap body).length + 1 = body.length + 5 + 2 := by
    simp [wrap]
  have hfuel : (ts ++ [Token.closeGroup, Token.lineEnd]).length < body.length + 5 := by
    have hle := h.length_le
    simp only [List.length_append, List.length_cons, List.length_nil]
    omega
  rw [hlength]
  exact (ReadState.run_startMark casing _ (body ++ [')', '$'])).trans
    (ReadState.run_eq_steps (.inMarks casing) rfl htokens hfuel)

/-- A text makes a pattern for names when its tokens can be taken and leave no group open. -/
theorem NamePattern.compile_of_steps (h : Tokens body ts)
    (hu : ReadState.steps { flags := { caseInsensitive := casing.isInsensitive } } ts = .ok u)
    (hstack : u.stack = []) : ∃ pat, NamePattern.compile casing (.ofList body) = .ok pat ∧
      pat.pattern = u.body.toPattern.marked := by
  -- the mark for the start opens a group, so the tokens are taken with that one more around
  obtain ⟨frame, hframe⟩ : ∃ frame, ReadState.inMarks casing = ReadState.within
      { flags := { caseInsensitive := casing.isInsensitive } } frame := ⟨_, rfl⟩
  obtain ⟨v, hv, hclosed⟩ : ∃ v,
      (u.within frame).steps [.closeGroup, .lineEnd] = .ok v ∧ v.stack = [] := by
    rw [ReadState.steps_cons, ReadState.step, ReadState.closeGroup, ReadState.stack_within, hstack]
    exact ⟨_, rfl, rfl⟩
  have hrun := @NamePattern.run_wrap casing body ts h
  rw [ReadState.steps_append, hframe, ReadState.steps_within hu] at hrun
  obtain ⟨pat, hpat⟩ := NamePattern.compile_of_run (hrun.trans hv) hclosed (Nat.le_refl _)
  refine ⟨pat, hpat, NamePattern.pattern_of_compile ?_ hpat⟩
  rw [String.toList_ofList]
  exact read_of_steps rfl h hu hstack

/-- The tokens of a text that makes a pattern for names can be taken between the marks. -/
theorem NamePattern.exists_steps_of_compile {pat : NamePattern} (h : Tokens body ts)
    (hpat : NamePattern.compile casing (.ofList body) = .ok pat) :
    ∃ v, (ReadState.inMarks casing).steps ts = .ok v := by
  obtain ⟨p, hread, -⟩ := bind_eq_ok_iff.mp hpat
  rw [String.toList_ofList] at hread
  obtain ⟨v, hrun, -⟩ := bind_eq_ok_iff.mp hread
  rw [NamePattern.run_wrap h, ReadState.steps_append] at hrun
  obtain ⟨v', hv', -⟩ := bind_eq_ok_iff.mp hrun
  exact ⟨v', hv'⟩

end AggregateNaming
