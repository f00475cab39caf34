import AggregateNaming.Proofs.Pattern.BracketFill

/-!
# Patterns with holes

A pattern with holes that is read with every probe in them is read with everything else, where
blanks count. The readings go in lockstep: what they have read differs, but not what can be read
next.

## Main definitions

- `ReadState.Alike` : two states of the reader that accept the same tokens.
- `ReadState.blanksCount` : blanks count wherever the reader comes to.
- `Ends` : the reader comes to the end of a text with no group open.

## Main statements

- `ReadState.Alike.step` : alike states accept the same tokens, and are alike after them.
- `run_fill` : what is read with all probes in the holes is read with what they are probes of.
-/

namespace AggregateNaming.Pattern

/-! ## §1 States that are alike -/

/-- Whether there is something that a repetition mark can follow. -/
def Body.canRepeat (b : Body) : Bool :=
  match b.pieces with
  | .pattern _ :: _ => true
  | _ => false

theorem Body.canRepeat_iff {b : Body} :
    b.canRepeat = true ↔ ∃ p rest, b.pieces = .pattern p :: rest := by
  unfold Body.canRepeat
  split
  next p rest hp => exact iff_of_true rfl ⟨p, rest, hp⟩
  next hnone => exact iff_of_false nofun fun ⟨p, rest, hp⟩ => hnone p rest hp

namespace ReadState

/-- Two states that accept the same tokens. -/
structure Alike (s u : ReadState) : Prop where
  flags : s.flags = u.flags
  names : s.names = u.names
  stack : s.stack.map Frame.flags = u.stack.map Frame.flags
  canRepeat : s.body.canRepeat = u.body.canRepeat

variable {s u : ReadState}

theorem Alike.refl (s : ReadState) : Alike s s := ⟨rfl, rfl, rfl, rfl⟩

theorem Alike.symm (h : Alike s u) : Alike u s :=
  ⟨h.flags.symm, h.names.symm, h.stack.symm, h.canRepeat.symm⟩

theorem Alike.trans {v : ReadState} (h : Alike s u) (h' : Alike u v) : Alike s v :=
  ⟨h.flags.trans h'.flags, h.names.trans h'.names, h.stack.trans h'.stack,
    h.canRepeat.trans h'.canRepeat⟩

/-- Whatever is added, a repetition mark can follow it. -/
theorem Alike.add (h : Alike s u) (p q : Pattern) : Alike (s.add p) (u.add q) :=
  ⟨h.flags, h.names, h.stack, rfl⟩

theorem Alike.addChars (h : Alike s u) {w w' : List Char} (hw : w ≠ []) (hw' : w' ≠ []) :
    Alike (s.addChars w) (u.addChars w') := by
  have hnames : ∀ (s : ReadState) (w : List Char), (s.addChars w).names = s.names := by
    intro s w
    induction w generalizing s with
    | nil => rfl
    | cons c w ih => rw [addChars_cons, ih]; rfl
  have hrepeat : ∀ (s : ReadState) (w : List Char), w ≠ [] →
      (s.addChars w).body.canRepeat = true := by
    intro s w hw
    induction w generalizing s with
    | nil => exact absurd rfl hw
    | cons c w ih =>
      cases w with
      | nil => rfl
      | cons d w => exact ih (s.add (.set (charSet s.flags c))) nofun
  constructor
  · simpa using h.flags
  · rw [hnames, hnames, h.names]
  · simpa using h.stack
  · rw [hrepeat s w hw, hrepeat u w' hw']

/-- Where no group is open in a state, none is in one that is alike. -/
theorem Alike.stack_eq_nil (h : Alike s u) (hs : s.stack = []) : u.stack = [] := by
  have := h.stack
  rw [hs] at this
  simpa using this.symm

/-- A token that stands for a set: which one it is depends on the switches in force only. -/
private theorem Alike.step_set (h : Alike s u) {t : Token}
    (p : Flags → Except PatternError CharSet)
    (ht : ∀ v : ReadState, v.step t = p v.flags >>= fun set => .ok (v.add (.set set)))
    {s' : ReadState} (hs : s.step t = .ok s') : ∃ u', u.step t = .ok u' ∧ Alike s' u' := by
  rw [ht] at hs
  obtain ⟨set, hset, hs⟩ := bind_eq_ok_iff.mp hs
  cases hs
  refine ⟨u.add (.set set), ?_, h.add _ _⟩
  rw [ht, ← h.flags, hset]
  rfl

/-- States that are alike accept the same tokens, and are alike after them. -/
theorem Alike.step (h : Alike s u) {t : Token} {s' : ReadState} (hs : s.step t = .ok s') :
    ∃ u', u.step t = .ok u' ∧ Alike s' u' := by
  cases t with
  | literal l => exact h.step_set (literalSet · l) (fun _ => rfl) hs
  | dot => exact h.step_set dotSet (fun _ => rfl) hs
  | lineStart =>
    cases hs
    exact ⟨_, rfl, h.add _ _⟩
  | lineEnd =>
    cases hs
    exact ⟨_, rfl, h.add _ _⟩
  | short c negated => exact h.step_set (c.toSetIn · negated) (fun _ => rfl) hs
  | property q negated => exact h.step_set (q.toSetIn · negated) (fun _ => rfl) hs
  | assertion a =>
    cases hs
    exact ⟨_, rfl, h.add _ _⟩
  | bracket b => exact h.step_set b.toSet (fun _ => rfl) hs
  | repetition least most isLazy =>
    simp only [ReadState.step, repeatLast] at hs
    split at hs
    next p rest hp =>
      cases hs
      -- what is repeated need not be the same in both states; that there is something is
      obtain ⟨q, rest', hq⟩ := Body.canRepeat_iff.mp
        (h.canRepeat.symm.trans (Body.canRepeat_iff.mpr ⟨p, rest, hp⟩))
      have hstep : ∃ body, u.step (.repetition least most isLazy) = .ok { u with body } ∧
          body.canRepeat = true := by
        simp only [ReadState.step, repeatLast, hq]
        exact ⟨_, rfl, rfl⟩
      obtain ⟨body, hu, hbody⟩ := hstep
      exact ⟨_, hu, h.flags, h.names, h.stack, hbody.symm⟩
    next => cases hs
  | bar =>
    cases hs
    exact ⟨_, rfl, h.flags, h.names, h.stack, rfl⟩
  | openGroup k =>
    have hstack : s.flags :: s.stack.map Frame.flags = u.flags :: u.stack.map Frame.flags := by
      rw [h.flags, h.stack]
    rcases k with ⟨name⟩ | changes
    · cases name with
      | none =>
        cases hs
        exact ⟨_, rfl, h.flags, h.names, hstack, rfl⟩
      | some name =>
        simp only [ReadState.step, openGroup] at hs ⊢
        rw [← h.names]
        split at hs
        · cases hs
        next hname =>
          cases hs
          rw [if_neg hname]
          exact ⟨_, rfl, h.flags, rfl, hstack, rfl⟩
    · cases hs
      exact ⟨_, rfl, congrArg (Flags.apply · changes) h.flags, h.names, hstack, rfl⟩
  | closeGroup =>
    have hstack := h.stack
    simp only [ReadState.step, closeGroup] at hs ⊢
    split at hs
    · cases hs
    next frame stack hs' =>
      cases hs
      rw [hs'] at hstack
      cases hu : u.stack with
      | nil =>
        rw [hu] at hstack
        cases hstack
      | cons frame' stack' =>
        rw [hu] at hstack
        obtain ⟨hframe, hrest⟩ := List.cons.inj hstack
        exact ⟨_, rfl, hframe, h.names, hrest, rfl⟩
  | directive changes =>
    cases hs
    exact ⟨_, rfl, congrArg (Flags.apply · changes) h.flags, h.names, h.stack, rfl⟩

/-- Blanks count at every place that the reader comes to. -/
def blanksCount : (fuel : Nat) → ReadState → List Char → Bool
  | 0, _, _ => true
  | fuel + 1, s, cs =>
    !s.flags.verbose &&
      match Token.read false cs with
      | .ok (some t, rest) =>
        match s.step t with
        | .ok s' => blanksCount fuel s' rest
        | .error _ => true
      | _ => true

end ReadState

/-! ## §2 Texts that are read to their end -/

/-- The reader comes to the end of a text with no group open. With `plain`, blanks count all the
way. -/
def Ends (plain : Bool) (s : ReadState) (cs : List Char) : Prop :=
  ∃ n u, s.run n cs = .ok u ∧ u.stack = [] ∧ (plain = true → s.blanksCount n cs = true)

section Ends

variable {plain : Bool} {s : ReadState} {cs rest : List Char}

theorem Ends.verbose (h : Ends true s cs) : s.flags.verbose = false := by
  obtain ⟨n, u, hrun, -, hblanks⟩ := h
  cases n with
  | zero => cases hrun
  | succ n =>
    have := hblanks rfl
    rw [ReadState.blanksCount, Bool.and_eq_true] at this
    simpa using this.1

/-- Past a token. -/
theorem Ends.of_token (h : Ends plain s cs) (hv : s.flags.verbose = false) {t : Token}
    (hread : Token.read false cs = .ok (some t, rest)) :
    ∃ s', s.step t = .ok s' ∧ Ends plain s' rest := by
  obtain ⟨n, u, hrun, hstack, hblanks⟩ := h
  cases n with
  | zero => cases hrun
  | succ n =>
    rw [ReadState.run, hv] at hrun
    change (Token.read false cs >>= _) = _ at hrun
    rw [hread] at hrun
    change (s.step t >>= fun s' => ReadState.run n s' rest) = _ at hrun
    obtain ⟨s', hs', hrun⟩ := bind_eq_ok_iff.mp hrun
    refine ⟨s', hs', n, u, hrun, hstack, fun hplain => ?_⟩
    have hall := hblanks hplain
    rw [ReadState.blanksCount, Bool.and_eq_true, hread] at hall
    simpa [hs'] using hall.2

/-- Before the end of a text there is a token. -/
theorem Ends.exists_token (h : Ends plain s cs) (hv : s.flags.verbose = false) (hne : cs ≠ []) :
    ∃ t rest s', Token.read false cs = .ok (some t, rest) ∧ s.step t = .ok s' ∧
      Ends plain s' rest := by
  have hread : ∃ p, Token.read false cs = .ok p := by
    obtain ⟨n, u, hrun, -⟩ := h
    cases n with
    | zero => cases hrun
    | succ n =>
      rw [ReadState.run, hv] at hrun
      change (Token.read false cs >>= _) = _ at hrun
      obtain ⟨p, hp, -⟩ := bind_eq_ok_iff.mp hrun
      exact ⟨p, hp⟩
  obtain ⟨⟨token, rest⟩, hread⟩ := hread
  cases token with
  | none => exact absurd (Token.eq_nil_of_read hread) hne
  | some t =>
    obtain ⟨s', hs', hends⟩ := h.of_token hv hread
    exact ⟨t, rest, s', hread, hs', hends⟩

/-- At the end of a text no group is open. -/
theorem Ends.stack_eq_nil (h : Ends plain s []) (hv : s.flags.verbose = false) : s.stack = [] := by
  obtain ⟨n, u, hrun, hstack, -⟩ := h
  cases n with
  | zero => cases hrun
  | succ n =>
    rw [ReadState.run, hv] at hrun
    cases hrun
    exact hstack

/-- Past an escaped text. -/
theorem Ends.of_escapeChars (hv : s.flags.verbose = false) {w : List Char}
    (h : Ends plain s (escapeChars w ++ rest)) : Ends plain (s.addChars w) rest := by
  induction w generalizing s with
  | nil => exact h
  | cons c w ih =>
    have hsplit : escapeChars (c :: w) ++ rest = escapeChar c ++ (escapeChars w ++ rest) := by
      simp [escapeChars]
    rw [hsplit] at h
    obtain ⟨s', hs', hends⟩ := h.of_token hv (Token.read_escapeChar c false _)
    rw [ReadState.step_char] at hs'
    cases hs'
    exact ih hv hends

end Ends

/-- The reader comes to the end of a text with no group open, and needs no more fuel than it is
given. -/
def Finishes (s : ReadState) (cs : List Char) : Prop :=
  ∃ n u, n ≤ cs.length + 1 ∧ s.run n cs = .ok u ∧ u.stack = []

theorem Finishes.of_token {s s' : ReadState} {cs rest : List Char} {t : Token}
    (h : Finishes s' rest) (hv : s.flags.verbose = false)
    (hread : Token.read false cs = .ok (some t, rest)) (hstep : s.step t = .ok s')
    (hlength : rest.length < cs.length) : Finishes s cs := by
  obtain ⟨n, u, hn, hrun, hstack⟩ := h
  exact ⟨n + 1, u, by omega, (ReadState.run_of_token hv hread hstep n).trans hrun, hstack⟩

theorem Finishes.of_escapeChars {s : ReadState} {w rest : List Char}
    (h : Finishes (s.addChars w) rest) (hv : s.flags.verbose = false) :
    Finishes s (escapeChars w ++ rest) := by
  obtain ⟨n, u, hn, hrun, hstack⟩ := h
  refine ⟨n + w.length, u, ?_, (ReadState.run_escapeChars n s w rest hv).trans hrun, hstack⟩
  have := length_le_length_escapeChars w
  simp only [List.length_append]
  omega

/-! ## §3 Lockstep -/

variable {σ : Filling}

instance : Nonempty ReadState := ⟨{ flags := {} }⟩

/-- The states of the reader for a filling and for its probes. -/
def InStep (σ : Filling) (s : Filling → ReadState) : Prop := ∀ ρ, σ.Run ρ → (s σ).Alike (s ρ)

/-- A repetition does not begin with a percent sign. -/
theorem read_brace_percent (cs : List Char) :
    ∃ e, Token.read false ('{' :: '%' :: cs) = .error e := by
  refine ⟨.badRepetition, ?_⟩
  have hdecimal : decimal false ('%' :: cs) = .error .badRepetition := by
    unfold decimal
    have hblank : ('%' :: cs).dropWhile Text.isBlank = '%' :: cs := by
      simp [Text.isBlank_percent]
    rw [hblank]
    rfl
  show (Token.readCounts false ('%' :: cs) >>= _) = _
  have hcounts : Token.readCounts false ('%' :: cs) = .error .badRepetition := by
    show (decimal false ('%' :: cs) >>= _) = _
    rw [hdecimal]
    rfl
  rw [hcounts]
  rfl

/-- What a reading with probes says of the text from a place on. -/
structure Probed (σ : Filling) (s : Filling → ReadState) (S : List Symbol) : Prop where
  inStep : InStep σ s
  ends : ∀ τ, σ.Probes τ → Ends false (s τ) (fill τ S)
  plain : Ends true (s (σ.copies '%')) (fill (σ.copies '%') S)

theorem Probed.verbose {s : Filling → ReadState} {S : List Symbol} (h : Probed σ s S)
    {ρ : Filling} (hρ : σ.Run ρ) : (s ρ).flags.verbose = false := by
  have hβ := h.inStep _ (Or.inr σ.probes_percent)
  rw [← (h.inStep ρ hρ).flags, hβ.flags]
  exact h.plain.verbose

/-- Past tokens that take the reader from states that are alike to states that are alike. -/
theorem Probed.of_tokens {s s' : Filling → ReadState} {S T : List Symbol} {t : Filling → Token}
    (h : Probed σ s S)
    (hread : ∀ ρ, σ.Run ρ → Token.read false (fill ρ S) = .ok (some (t ρ), fill ρ T))
    (hstep : ∀ ρ, σ.Run ρ → (s ρ).step (t ρ) = .ok (s' ρ)) (hs' : InStep σ s') : Probed σ s' T where
  inStep := hs'
  ends τ hτ := by
    have hρ : σ.Run τ := Or.inr hτ
    obtain ⟨u, hu, hends⟩ := (h.ends τ hτ).of_token (h.verbose hρ) (hread τ hρ)
    rw [hstep τ hρ] at hu
    cases hu
    exact hends
  plain := by
    have hρ : σ.Run (σ.copies '%') := Or.inr σ.probes_percent
    obtain ⟨u, hu, hends⟩ := h.plain.of_token (h.verbose hρ) (hread _ hρ)
    rw [hstep _ hρ] at hu
    cases hu
    exact hends

/-- Past a hole. -/
theorem Probed.of_hole (hσ : σ.Full) {s : Filling → ReadState} {S : List Symbol} {name : String}
    (h : Probed σ s (.hole name :: S)) : Probed σ (fun ρ => (s ρ).addChars (ρ name)) S where
  inStep ρ hρ := (h.inStep ρ hρ).addChars (hσ name) (hρ.full hσ name)
  ends τ hτ := (h.ends τ hτ).of_escapeChars (h.verbose (Or.inr hτ))
  plain := h.plain.of_escapeChars (h.verbose (Or.inr σ.probes_percent))

/-- One token of the author, which is the same for all fillings. -/
theorem Probed.of_steady {s : Filling → ReadState} (hσ : σ.Full) {S T : List Symbol} {t : Token}
    (h : Probed σ s S)
    (hread : ∀ ρ : Filling, ρ.Full → Token.read false (fill ρ S) = .ok (some t, fill ρ T)) :
    ∃ s', (∀ ρ, σ.Run ρ → (s ρ).step t = .ok (s' ρ)) ∧ Probed σ s' T := by
  have hβ : σ.Run (σ.copies '%') := Or.inr σ.probes_percent
  obtain ⟨u, hu, -⟩ := h.plain.of_token (h.verbose hβ) (hread _ (hβ.full hσ))
  -- the reading with percent signs accepts the token, and all others are alike to it
  have hall : ∀ ρ, σ.Run ρ → ∃ s', (s ρ).step t = .ok s' ∧ u.Alike s' := fun ρ hρ =>
    ((h.inStep _ hβ).symm.trans (h.inStep ρ hρ)).step hu
  choose! s' hs' using hall
  refine ⟨s', fun ρ hρ => (hs' ρ hρ).1, h.of_tokens (t := fun _ => t)
    (fun ρ hρ => hread ρ (hρ.full hσ)) (fun ρ hρ => (hs' ρ hρ).1) fun ρ hρ => ?_⟩
  exact (hs' σ (Or.inl rfl)).2.symm.trans (hs' ρ hρ).2

/-- One bracket, which stands for a set for all fillings. -/
theorem Probed.of_bracket {s : Filling → ReadState} (hσ : σ.Full) {S : List Symbol}
    (h : Probed σ s (.char '[' :: S)) :
    ∃ T, T <:+ S ∧ ∃ (b : Filling → Bracket) (s' : Filling → ReadState),
      (∀ ρ, σ.Run ρ → Token.read false (fill ρ (.char '[' :: S)) =
        .ok (some (.bracket (b ρ)), fill ρ T)) ∧
      (∀ ρ, σ.Run ρ → (s ρ).step (.bracket (b ρ)) = .ok (s' ρ)) ∧ Probed σ s' T := by
  have hbrackets : ∀ τ, σ.Probes τ →
      ∃ b rest, Bracket.read false (fill τ S) = .ok (b, rest) ∧ b.Fits (s σ).flags := by
    intro τ hτ
    obtain ⟨t, rest, s', hread, hstep, -⟩ :=
      (h.ends τ hτ).exists_token (h.verbose (Or.inr hτ)) (by simp)
    change (Bracket.read false (fill τ S) >>= _) = _ at hread
    obtain ⟨⟨b, rest'⟩, hb, hread⟩ := bind_eq_ok_iff.mp hread
    cases hread
    obtain ⟨set, hset, -⟩ := bind_eq_ok_iff.mp hstep
    exact ⟨b, rest, hb, set, by rw [(h.inStep τ (Or.inr hτ)).flags, hset]⟩
  obtain ⟨T, hT, hfill⟩ := bracketRead_fill hσ hbrackets
  -- the brackets differ, but any two sets leave states that are alike
  have hall : ∀ ρ, σ.Run ρ → ∃ b s', Bracket.read false (fill ρ S) = .ok (b, fill ρ T) ∧
      (s ρ).step (.bracket b) = .ok s' ∧ ((s ρ).add .empty).Alike s' := by
    intro ρ hρ
    obtain ⟨b, hb, set, hset⟩ := hfill ρ hρ
    refine ⟨b, (s ρ).add (.set set), hb, ?_, (ReadState.Alike.refl _).add _ _⟩
    show (b.toSet (s ρ).flags >>= _) = _
    rw [← (h.inStep ρ hρ).flags, hset]
    rfl
  choose! b s' hbs using hall
  have hread : ∀ ρ, σ.Run ρ → Token.read false (fill ρ (.char '[' :: S)) =
      .ok (some (.bracket (b ρ)), fill ρ T) := by
    intro ρ hρ
    show (Bracket.read false (fill ρ S) >>= _) = _
    rw [(hbs ρ hρ).1]
    rfl
  refine ⟨T, hT, b, s', hread, fun ρ hρ => (hbs ρ hρ).2.1,
    h.of_tokens hread (fun ρ hρ => (hbs ρ hρ).2.1) fun ρ hρ => ?_⟩
  exact (hbs σ (Or.inl rfl)).2.2.symm.trans
    (((h.inStep ρ hρ).add .empty .empty).trans (hbs ρ hρ).2.2)

/-- What a token of the author has come to that is no bracket: it is the same for all fillings. -/
theorem Probed.steady_token {s : Filling → ReadState} (hσ : σ.Full) {c : Char} (hc : c ≠ '[')
    {S : List Symbol} (h : Probed σ s (.char c :: S)) :
    ∃ t T, T <:+ S ∧ ∀ ρ : Filling, ρ.Full →
      Token.read false (fill ρ (.char c :: S)) = .ok (some t, fill ρ T) := by
  have hα := σ.probes_lastChar
  have hβ := σ.probes_percent
  obtain ⟨_, _, _, hαread, -⟩ :=
    (h.ends _ hα).exists_token (h.verbose (Or.inr hα)) (by simp)
  obtain ⟨t, rest, s', hread, hstep, hends⟩ :=
    h.plain.exists_token (h.verbose (Or.inr hβ)) (by simp)
  rcases tokenRead_fill (Filling.only_copies hσ _) (Filling.only_copies hσ _) hc ⟨_, hαread⟩ hread
    with ⟨T, hT, hsteady⟩ | ⟨q, negated, rfl, hq⟩ | ⟨a, cs, rfl, rfl⟩
  · exact ⟨t, T, hT, hsteady⟩
  · -- a property that does not exist is refused by the step
    obtain ⟨set, hset, -⟩ := bind_eq_ok_iff.mp hstep
    simp only [PropertyQuery.toSetIn, hq] at hset
    split at hset <;> cases hset
  · -- a word boundary is accepted, but the brace and the percent sign after it are not
    cases hstep
    obtain ⟨_, _, _, hnext, -⟩ := hends.exists_token hends.verbose (by simp)
    obtain ⟨e, he⟩ := read_brace_percent cs
    rw [he] at hnext
    cases hnext

/-- What is read with all probes in the holes is read with what they are probes of. -/
theorem run_fill (hσ : σ.Full) {s : Filling → ReadState} {S : List Symbol} (h : Probed σ s S) :
    Finishes (s σ) (fill σ S) := by
  -- by the number of symbols left: a token takes any number of them, a hole is taken as a whole
  have hself : σ.Run σ := Or.inl rfl
  induction hlength : S.length using Nat.strong_induction_on generalizing S s with
  | _ n ih =>
    subst hlength
    have hv := h.verbose hself
    rcases S with _ | ⟨a, S⟩
    · have hβ := σ.probes_percent
      have hstack := h.plain.stack_eq_nil h.plain.verbose
      refine ⟨1, s σ, Nat.le_refl _, ?_, (h.inStep _ (Or.inr hβ)).symm.stack_eq_nil hstack⟩
      rw [ReadState.run, hv]
      rfl
    · have hlt : ∀ {T : List Symbol}, T <:+ S → T.length < (a :: S).length := fun hT =>
        length_lt_of_suffix hT a
      cases a with
      | hole name =>
        -- all characters of a hole stand for themselves, and probes of it leave alike states
        have hrest := ih S.length (hlt (List.suffix_refl S)) (h.of_hole hσ) rfl
        exact hrest.of_escapeChars hv
      | char c =>
        have hfilled : ∀ {T : List Symbol}, T <:+ S →
            (fill σ T).length < (fill σ (.char c :: S)).length := fun hT => length_fill_lt hT c σ
        -- a bracket is not the same for all fillings; every other token is
        by_cases hc : c = '['
        · subst hc
          obtain ⟨T, hT, b, s', hread, hstep, hprobed⟩ := h.of_bracket hσ
          exact (ih T.length (hlt hT) hprobed rfl).of_token hv (hread σ hself) (hstep σ hself)
            (hfilled hT)
        · obtain ⟨t, T, hT, hread⟩ := h.steady_token hσ hc
          obtain ⟨s', hstep, hprobed⟩ := h.of_steady hσ hread
          exact (ih T.length (hlt hT) hprobed rfl).of_token hv (hread σ hσ) (hstep σ hself)
            (hfilled hT)

end AggregateNaming.Pattern

namespace AggregateNaming

open Pattern

/-! ## §4 Names -/

/-- Blanks count wherever the reader of the pattern for a whole name comes to. -/
def NamePattern.blanksCount (casing : Casing) (body : String) : Bool :=
  let text := NamePattern.wrap body.toList
  ReadState.blanksCount (text.length + 1)
    { flags := { caseInsensitive := casing.isInsensitive } } text

/-- What is read as a pattern for a whole name. -/
theorem NamePattern.ends_of_compile {casing : Casing} {body : List Char} {p : NamePattern}
    (h : NamePattern.compile casing (.ofList body) = .ok p) {plain : Bool}
    (hplain : plain = true → NamePattern.blanksCount casing (.ofList body) = true) :
    Ends plain { flags := { caseInsensitive := casing.isInsensitive } }
      (NamePattern.wrap body) := by
  unfold NamePattern.compile at h
  unfold NamePattern.blanksCount at hplain
  rw [String.toList_ofList] at h hplain
  obtain ⟨q, hq, -⟩ := bind_eq_ok_iff.mp h
  obtain ⟨u, hu, hstack, -⟩ := read_eq_ok_iff.mp hq
  exact ⟨_, u, hu, hstack, hplain⟩

/-- A text with holes between the marks for the start and the end of a name. -/
def wrapSymbols (S : List Symbol) : List Symbol :=
  ['^', '(', '?', ':'].map .char ++ S ++ [')', '$'].map .char

theorem fill_wrapSymbols (ρ : Filling) (S : List Symbol) :
    fill ρ (wrapSymbols S) = NamePattern.wrap (fill ρ S) := by
  simp only [wrapSymbols, fill_append, fill_map_char]
  rfl

/-- A pattern for a whole name with no empty hole in it. -/
private theorem NamePattern.compile_fill_full {σ : Filling} (hσ : σ.Full) {casing : Casing}
    {S : List Symbol}
    (hprobes : ∀ τ, σ.Probes τ → ∃ p, NamePattern.compile casing (.ofList (fill τ S)) = .ok p)
    (hblanks : NamePattern.blanksCount casing (.ofList (fill (σ.copies '%') S)) = true) :
    ∃ p, NamePattern.compile casing (.ofList (fill σ S)) = .ok p := by
  have hprobed : Probed σ (fun _ => { flags := { caseInsensitive := casing.isInsensitive } })
      (wrapSymbols S) := by
    refine ⟨fun _ _ => ReadState.Alike.refl _, fun τ hτ => ?_, ?_⟩
    · obtain ⟨p, hp⟩ := hprobes τ hτ
      rw [fill_wrapSymbols]
      exact NamePattern.ends_of_compile hp nofun
    · obtain ⟨p, hp⟩ := hprobes _ σ.probes_percent
      rw [fill_wrapSymbols]
      exact NamePattern.ends_of_compile hp fun _ => hblanks
  obtain ⟨n, u, hn, hrun, hstack⟩ := run_fill hσ hprobed
  rw [fill_wrapSymbols] at hn hrun
  exact NamePattern.compile_of_run hrun hstack hn

/-- A text without the holes that are left empty. -/
def dropEmpty (σ : Filling) (S : List Symbol) : List Symbol :=
  S.filter fun
    | .char _ => true
    | .hole name => σ name ≠ []

/-- What is left empty does not matter. -/
theorem fill_dropEmpty {σ τ τ' : Filling} (hempty : ∀ name, σ name = [] → τ name = [])
    (hsame : ∀ name, σ name ≠ [] → τ' name = τ name) (S : List Symbol) :
    fill τ' (dropEmpty σ S) = fill τ S := by
  induction S with
  | nil => rfl
  | cons a S ih =>
    cases a with
    | char c =>
      have hkeep : dropEmpty σ (.char c :: S) = .char c :: dropEmpty σ S := by simp [dropEmpty]
      rw [hkeep, fill_char, fill_char, ih]
    | hole name =>
      by_cases hname : σ name = []
      · have hdrop : dropEmpty σ (.hole name :: S) = dropEmpty σ S := by simp [dropEmpty, hname]
        rw [hdrop, fill_hole, hempty name hname, ih]
        rfl
      · have hkeep : dropEmpty σ (.hole name :: S) = .hole name :: dropEmpty σ S := by
          simp [dropEmpty, hname]
        rw [hkeep, fill_hole, fill_hole, ih, hsame name hname]

/-- A pattern for a whole name is accepted if it is with all probes in its holes, and blanks count
in it with percent signs there. -/
theorem NamePattern.compile_fill {σ : Filling} {casing : Casing} {S : List Symbol}
    (hprobes : ∀ τ, σ.Probes τ → ∃ p, NamePattern.compile casing (.ofList (fill τ S)) = .ok p)
    (hblanks : NamePattern.blanksCount casing (.ofList (fill (σ.copies '%') S)) = true) :
    ∃ p, NamePattern.compile casing (.ofList (fill σ S)) = .ok p := by
  -- the same filling, with something in the holes that are dropped
  let σ' : Filling := fun name => if σ name = [] then ['%'] else σ name
  have hne : ∀ {name}, σ name ≠ [] → σ' name = σ name := fun hname => if_neg hname
  have hfull : σ'.Full := by
    intro name
    by_cases hname : σ name = []
    · simp [σ', hname]
    · rwa [hne hname]
  rw [← fill_dropEmpty (fun _ h => h) (fun _ => hne) S]
  refine NamePattern.compile_fill_full hfull (fun τ hτ => ?_) ?_
  · have hprobe : σ.Probes fun name => if σ name = [] then [] else τ name := by
      constructor
      · intro name c hc
        split at hc
        · cases hc
        · exact hτ.chars name c hc
      · intro name
        split
        next hname => simp [hname]
        next hname => rw [hτ.length name, hne hname]
    obtain ⟨p, hp⟩ := hprobes _ hprobe
    refine ⟨p, ?_⟩
    rw [← hp]
    congr 2
    exact fill_dropEmpty (fun _ hname => if_pos hname) (fun _ hname => (if_neg hname).symm) S
  · rw [← hblanks]
    congr 2
    refine fill_dropEmpty (fun name hname => ?_) (fun name hname => ?_) S
    · simp [Filling.copies, hname]
    · simp [Filling.copies, hne hname]

end AggregateNaming
