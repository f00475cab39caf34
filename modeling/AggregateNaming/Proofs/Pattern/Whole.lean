import AggregateNaming.Proofs.Pattern.BlindBracket
import AggregateNaming.Proofs.Pattern.Literal
import AggregateNaming.Proofs.Pattern.Search
import AggregateNaming.Proofs.Pattern.Walk

/-!
# What an author writes, between its marks

A pattern for a whole name is read as one text, in which what an author has written stands between the
marks for the start and the end of the name. Here is when it is read there as it is read on its own:
whenever the whole is a pattern, unless the author closes a group that the author has not opened. The
group around the author's text is open there, and it takes the blame.

The reader is followed with one more group at the bottom of its stack. As long as that group stays, a
token does the same with it as without it. It may be closed by the parenthesis behind the text, which
is as it should be, or before. It may also never be closed, where a comment or the switches of a group
have swallowed the parenthesis behind the text; then the whole is no pattern.

## Main definitions

- `ReadState.within` : the reader with one more group around all others.
- `Pattern.marked` : a pattern between the marks for the start and the end of a text.

## Main statements

- `ReadState.step_within` : what one token does, with one more group around.
- `ReadState.run_within` : what is read in that group, up to its end.
- `NamePattern.read_of_compile` : the same for whole names.
- `accepts_marked_iff` : a pattern between its marks is found where it matches the whole text.
-/

namespace AggregateNaming.Pattern

/-! ## §1 Groups and counts -/

/-- A group is opened, or switches are turned. -/
theorem Token.readGroup_cases {verbose : Bool} {cs rest : List Char} {t : Token}
    (h : Token.readGroup verbose cs = .ok (t, rest)) :
    (∃ k, t = .openGroup k) ∨ ∃ changes, t = .directive changes := by
  unfold Token.readGroup at h
  split at h
  case h_7 =>
    obtain ⟨p, -, h⟩ := bind_eq_ok_iff.mp h
    dsimp only at h
    split_ifs at h
    · cases h
      exact .inl ⟨_, rfl⟩
    · cases h
      exact .inr ⟨_, rfl⟩
  case h_8 =>
    cases h
    exact .inl ⟨_, rfl⟩
  all_goals first
    | cases h
    | obtain ⟨p, -, h⟩ := bind_eq_ok_iff.mp h
      cases h
      exact .inl ⟨_, rfl⟩

/-- Counts are a repetition. -/
theorem Token.exists_repetition_of_readCounts {verbose : Bool} {cs rest : List Char} {t : Token}
    (h : Token.readCounts verbose cs = .ok (t, rest)) :
    ∃ least most isLazy, t = .repetition least most isLazy := by
  obtain ⟨p, -, h⟩ := bind_eq_ok_iff.mp h
  obtain ⟨q, -, h⟩ := bind_eq_ok_iff.mp h
  dsimp only at h
  split at h
  · split_ifs at h
    cases h
    exact ⟨_, _, _, rfl⟩
  · cases h

/-! ## §2 One more group around -/

namespace ReadState

variable {s s' u : ReadState} {f : Frame} {t : Token} {cs rest : List Char} {n : Nat}

/-- The reader with one more group around all others. -/
def within (s : ReadState) (f : Frame) : ReadState := { s with stack := s.stack ++ [f] }

@[simp] theorem flags_within (s : ReadState) (f : Frame) : (s.within f).flags = s.flags := rfl

@[simp] theorem stack_within (s : ReadState) (f : Frame) :
    (s.within f).stack = s.stack ++ [f] := rfl

/-- What a set adds does not depend on the groups around. -/
private theorem add_within (x : Except PatternError CharSet) :
    (x >>= fun c => .ok ((s.within f).add (.set c))) =
      (x >>= fun c => .ok (s.add (.set c))).map (within · f) := by
  cases x <;> rfl

/-- What one token does, with one more group around. That group makes a difference only where it is
closed. -/
theorem step_within (h : t = .closeGroup → s.stack ≠ []) :
    (s.within f).step t = (s.step t).map (within · f) := by
  cases t with
  | literal l => exact add_within _
  | dot => exact add_within _
  | short c negated => exact add_within _
  | property q negated => exact add_within _
  | bracket b => exact add_within _
  | lineStart => rfl
  | lineEnd => rfl
  | assertion a => rfl
  | bar => rfl
  | directive changes => rfl
  | repetition least most isLazy =>
    rcases s with ⟨flags, ⟨alternatives, _ | ⟨_ | _, pieces⟩⟩, stack, captures, names⟩ <;> rfl
  | openGroup k =>
    rcases k with (_ | name) | changes
    · rfl
    · rw [step, step, openGroup, openGroup]
      by_cases hname : s.names.contains name
      · rw [if_pos hname, if_pos (show (s.within f).names.contains name = true from hname)]
        rfl
      · rw [if_neg hname, if_neg (show ¬(s.within f).names.contains name = true from hname)]
        rfl
    · rfl
  | closeGroup =>
    simp only [step, closeGroup, stack_within]
    cases hs : s.stack with
    | nil => exact absurd hs (h rfl)
    | cons frame stack => rfl

/-! ## §3 The end of the group -/

/-- No group is closed by the mark for the end of a text, or where nothing is left. -/
theorem stack_of_run_mark (hcs : skip s.flags.verbose cs <:+ ['$']) (h : run n s cs = .ok u) :
    u.stack = s.stack := by
  obtain ⟨m, token, rest, rfl, hread, hend⟩ := run_eq_ok h
  rcases hend with ⟨-, rfl⟩ | ⟨t, s', rfl, hstep, hrun⟩
  · -- the reader is at its end
    rfl
  rcases List.suffix_cons_iff.mp hcs with hskip | hskip
  · -- after the mark for the end there is nothing more
    rw [hskip] at hread
    cases hread
    cases hstep
    obtain ⟨m, token, rest, rfl, hread, hend⟩ := run_eq_ok hrun
    rw [List.suffix_nil.mp (skip_suffix _ [])] at hread
    cases hread
    rcases hend with ⟨-, rfl⟩ | ⟨t, s', ht, -⟩
    · rfl
    · cases ht
  · rw [List.suffix_nil.mp hskip] at hread
    cases hread

/-- What is left of the reader once the group around has been closed and the mark for the end of the
text has been read. -/
def closing (s : ReadState) (f : Frame) : ReadState :=
  { s with
    flags := f.flags
    body := (f.body.add s.body.toPattern).add (.assertion (endAssertion f.flags))
    stack := [] }

/-- The group around is closed, and the mark for the end of the text is read. -/
theorem run_closing (hs : s.stack = []) (hf : f.flags.verbose = false) (hcapture : f.capture = none)
    (hskip : skip s.flags.verbose cs = [')', '$']) (h : run n (s.within f) cs = .ok u) :
    u = s.closing f := by
  -- three turns: the parenthesis, the mark for the end of the text, the end
  have hmore := run_mono h (Nat.le_add_right n 3)
  have hclose : (s.within f).step .closeGroup =
      .ok { s with flags := f.flags, body := f.body.add s.body.toPattern, stack := [] } := by
    rw [step, closeGroup, stack_within, hs]
    simp [hcapture, within]
  rw [run_of_read (t := .closeGroup) (r := ['$']) (by rw [flags_within, hskip]; rfl),
    hclose] at hmore
  change run (n + 2) _ ['$'] = .ok u at hmore
  rw [run_of_token hf (t := .lineEnd) rfl rfl, run_of_skip (by exact congrArg (skip · []) hf)] at hmore
  exact (Except.ok.inj hmore).symm

/-- An end of a text with a parenthesis in it begins before the parenthesis or after it. -/
private theorem suffix_paren_cases {r l w : List Char} (h : r <:+ l ++ ')' :: w) :
    (∃ k, r = k ++ ')' :: w) ∨ r <:+ w := by
  rcases List.suffix_or_suffix_of_suffix h (List.suffix_append l (')' :: w)) with hr | ⟨k, rfl⟩
  · rcases List.suffix_cons_iff.mp hr with rfl | hr
    · exact .inl ⟨[], rfl⟩
    · exact .inr hr
  · exact .inl ⟨k, rfl⟩

/-- There are no counts where the group around ends. -/
private theorem readCounts_ne_ok {verbose : Bool} {k : List Char} (hk : skip verbose k = [])
    (p : Token × List Char) : Token.readCounts verbose (k ++ [')', '$']) ≠ .ok p := by
  intro h
  obtain ⟨q, hq, -⟩ := bind_eq_ok_iff.mp h
  have hskip : skip verbose (k ++ [')', '$']) <:+ [')', '$'] := by
    rcases skip_append_paren (w := ['$']) verbose k with heq | ⟨-, hsuffix⟩
    · rw [heq, hk]
      exact List.suffix_refl _
    · exact hsuffix.trans (List.suffix_cons _ _)
  -- neither the parenthesis nor the mark is a digit
  simp only [List.suffix_cons_iff, List.suffix_nil] at hskip
  rcases hskip with heq | heq | heq <;> rw [heq] at hq <;> cases verbose <;> cases hq

/-- Only a closing parenthesis closes a group. -/
private theorem eq_paren_of_read {verbose : Bool} {c : Char} {cs rest : List Char}
    (h : Token.read verbose (c :: cs) = .ok (some .closeGroup, rest)) : c = ')' ∧ cs = rest := by
  unfold Token.read at h
  split at h
  case h_3 heq =>
    cases h
    exact List.cons.inj heq
  case h_2 =>
    obtain ⟨⟨t, r⟩, hread, h⟩ := bind_eq_ok_iff.mp h
    cases h
    rcases Token.readGroup_cases hread with ⟨k, hk⟩ | ⟨changes, hchanges⟩
    · cases hk
    · cases hchanges
  case h_9 =>
    obtain ⟨⟨t, r⟩, hread, h⟩ := bind_eq_ok_iff.mp h
    cases h
    obtain ⟨least, most, isLazy, hcounts⟩ := Token.exists_repetition_of_readCounts hread
    cases hcounts
  case h_10 =>
    obtain ⟨⟨e, r⟩, -, h⟩ := bind_eq_ok_iff.mp h
    cases e <;> cases h
  all_goals first
    | cases h
    | obtain ⟨p, -, h⟩ := bind_eq_ok_iff.mp h
      cases h

/-- The reader does not come to its end where the mark for the end of the text, or nothing, is left to
close the group around. -/
private theorem run_within_ne_ok (hu : u.stack = []) (hcs : skip s.flags.verbose cs <:+ ['$']) :
    run n (s.within f) cs ≠ .ok u := by
  intro h
  rw [stack_of_run_mark (s := s.within f) hcs h] at hu
  simp at hu

/-- Where the author's text is at its end, so is every group of the author's, and the parenthesis
closes the group around. -/
private theorem run_within_end (hf : f.flags.verbose = false) (hcapture : f.capture = none)
    (hskip : skip s.flags.verbose cs = [')', '$']) (hu : u.stack = [])
    (h : run n (s.within f) cs = .ok u) : s.stack = [] ∧ u = s.closing f := by
  by_cases hs : s.stack = []
  · exact ⟨hs, run_closing hs hf hcapture hskip h⟩
  obtain ⟨m, token, rest, rfl, hread, hend⟩ := run_eq_ok h
  rw [flags_within, hskip] at hread
  cases hread
  rcases hend with ⟨ht, -⟩ | ⟨t, s', ht, hstep, hrun⟩
  · cases ht
  · cases ht
    rw [step_within fun _ => hs] at hstep
    obtain ⟨v, -, rfl⟩ := map_eq_ok_iff.mp hstep
    exact absurd hrun (run_within_ne_ok hu (skip_suffix _ _))

/-- A brace with nothing behind it in the author's text has no counts. -/
private theorem run_brace_ne_ok (hcs : skip s.flags.verbose cs = []) :
    run n s ('{' :: cs ++ [')', '$']) ≠ .ok u := by
  intro h
  obtain ⟨m, token, rest, -, hread, -⟩ := run_eq_ok h
  have hbrace : skip s.flags.verbose ('{' :: cs ++ [')', '$']) = '{' :: cs ++ [')', '$'] := by
    cases s.flags.verbose <;> rfl
  rw [hbrace] at hread
  obtain ⟨p, hp, -⟩ := bind_eq_ok_iff.mp hread
  exact readCounts_ne_ok hcs p hp

/-- What is read in a group around, up to its end. -/
theorem run_within (hf : f.flags.verbose = false) (hcapture : f.capture = none)
    (h : run n (s.within f) (cs ++ [')', '$']) = .ok u) (hu : u.stack = []) :
    (∃ v, (∀ m, cs.length < m → run m s cs = .ok v) ∧ v.stack = [] ∧ u = v.closing f) ∨
      ∀ m, cs.length < m → run m s cs = .error .unopenedGroup := by
  induction n generalizing s cs with
  | zero => cases h
  | succ n ih =>
    have hfuel : ∀ {m}, cs.length < m → ∃ m', m = m' + 1 := fun hm =>
      Nat.exists_eq_succ_of_ne_zero (by omega)
    rcases skip_append_paren (w := ['$']) s.flags.verbose cs with heq | ⟨-, hsuffix⟩
    swap
    · -- a comment has swallowed the parenthesis
      exact absurd h (run_within_ne_ok hu hsuffix)
    cases hskip : skip s.flags.verbose cs with
    | nil =>
      rw [hskip] at heq
      obtain ⟨hs, hclosing⟩ := run_within_end hf hcapture heq hu h
      refine .inl ⟨s, fun m hm => ?_, hs, hclosing⟩
      obtain ⟨m, rfl⟩ := hfuel hm
      exact run_of_skip hskip m
    | cons c l =>
      obtain ⟨_, token, rest, hn, hread, hend⟩ := run_eq_ok h
      cases hn
      rw [flags_within, heq, hskip] at hread
      rcases hend with ⟨rfl, -⟩ | ⟨t, s', rfl, hstep, hrun⟩
      · cases Token.eq_nil_of_read hread
      by_cases hclose : t = .closeGroup ∧ s.stack = []
      · -- the author closes the group around
        obtain ⟨rfl, hs⟩ := hclose
        obtain ⟨rfl, rfl⟩ := eq_paren_of_read hread
        refine .inr fun m hm => ?_
        obtain ⟨m, rfl⟩ := hfuel hm
        rw [run_of_read (t := .closeGroup) (r := l) (by rw [hskip]; rfl), step, closeGroup, hs]
        rfl
      rw [step_within fun ht hs => hclose ⟨ht, hs⟩] at hstep
      obtain ⟨v, hv, rfl⟩ := map_eq_ok_iff.mp hstep
      rcases suffix_paren_cases (Token.read_suffix hread) with ⟨k, rfl⟩ | hsuffix
      swap
      · -- the token has swallowed the parenthesis
        exact absurd hrun (run_within_ne_ok hu ((skip_suffix _ _).trans hsuffix))
      rcases Token.read_cut hread with hcut | ⟨⟨a, rfl⟩, j, rfl, hj⟩
      swap
      · -- the brace after the mark for a word boundary has no counts
        cases hv
        exact absurd hrun (run_brace_ne_ok hj)
      -- the token is the same without the group around, and the reading goes on from there
      have hlength : k.length < cs.length := by
        have hk := (Token.read_suffix hcut).length_le
        have hle := (skip_suffix s.flags.verbose cs).length_le
        rw [hskip, List.length_cons] at hle
        omega
      have hnext : ∀ m, run (m + 1) s cs = run m v k := by
        intro m
        rw [run_of_read (by rw [hskip]; exact hcut), hv]
        rfl
      rcases ih hrun with ⟨v', hrun', hv', hu'⟩ | herror
      · refine .inl ⟨v', fun m hm => ?_, hv', hu'⟩
        obtain ⟨m, rfl⟩ := hfuel hm
        rw [hnext]
        exact hrun' m (by omega)
      · refine .inr fun m hm => ?_
        obtain ⟨m, rfl⟩ := hfuel hm
        rw [hnext]
        exact herror m (by omega)

end ReadState

/-! ## §4 Between the marks -/

/-- A pattern between the marks for the start and the end of a text. -/
def marked (p : Pattern) : Pattern :=
  .concat (.assertion .textStart) (.concat p (.assertion .textEnd))

/-- The marks are no groups. -/
theorem groupCount_marked (p : Pattern) : p.marked.groupCount = p.groupCount := by
  simp [marked, groupCount, groupIndices]

/-- The mark for the start holds before all characters. -/
theorem holds_textStart_iff {t : List Char} {i : Nat} (hi : i ≤ t.length) :
    Assertion.textStart.holds (charBefore t i) (charAfter t i) = true ↔ i = 0 := by
  cases i with
  | zero => exact iff_of_true rfl rfl
  | succ i =>
    have hsome : charBefore t (i + 1) = some t[i] := List.getElem?_eq_getElem hi
    rw [hsome]
    exact iff_of_false nofun nofun

/-- The mark for the end holds behind all characters. -/
theorem holds_textEnd_iff {t : List Char} {i : Nat} (hi : i ≤ t.length) :
    Assertion.textEnd.holds (charBefore t i) (charAfter t i) = true ↔ i = t.length := by
  rw [Assertion.holds, Option.isNone_iff_eq_none, charAfter, List.getElem?_eq_none_iff]
  omega

/-- Between its marks a pattern is found where it matches the whole text, and nowhere else. -/
theorem accepts_marked_iff {p : Pattern} {t : List Char} :
    p.marked.accepts t = true ↔ p.MatchesWhole t := by
  rw [accepts_iff, marked, MatchesWhole]
  simp only [spans_concat_iff, spans_assertion_iff]
  constructor
  · rintro ⟨i, j, m, ⟨rfl, hi, hstart⟩, k, hp, rfl, hk, hend⟩
    rwa [(holds_textStart_iff hi).mp hstart, (holds_textEnd_iff hk).mp hend] at hp
  · intro h
    exact ⟨0, t.length, 0, ⟨rfl, Nat.zero_le _, rfl⟩, t.length, h, rfl, Nat.le_refl _,
      (holds_textEnd_iff (Nat.le_refl _)).mpr rfl⟩

end AggregateNaming.Pattern

namespace AggregateNaming

open Pattern

/-- What an author has written is read between its marks as it is read on its own, unless the author
closes a group that the author has not opened. -/
theorem NamePattern.read_of_compile {casing : Casing} {body : String} {pat : NamePattern}
    (h : NamePattern.compile casing body = .ok pat) :
    (∃ p, Pattern.read { caseInsensitive := casing.isInsensitive } body.toList = .ok p ∧
        pat.pattern = p.marked) ∨
      Pattern.read { caseInsensitive := casing.isInsensitive } body.toList =
        .error .unopenedGroup := by
  obtain ⟨p, hread, hpat⟩ := bind_eq_ok_iff.mp h
  cases hpat
  obtain ⟨u, hrun, hu, rfl⟩ := read_eq_ok_iff.mp hread
  have hinside := (ReadState.run_startMark casing _ (body.toList ++ [')', '$'])).symm.trans hrun
  rcases ReadState.run_within (s := { flags := { caseInsensitive := casing.isInsensitive } }) rfl rfl
    hinside hu with ⟨v, hv, hstack, rfl⟩ | herror
  · exact .inl ⟨_, read_eq_ok_iff.mpr ⟨v, hv _ (Nat.lt_succ_self _), hstack, rfl⟩, rfl⟩
  · refine .inr ?_
    rw [Pattern.read, herror _ (Nat.lt_succ_self _)]
    rfl

/-- The pattern of a text that is one by itself. -/
theorem NamePattern.pattern_of_compile {casing : Casing} {body : String} {p : Pattern}
    {pat : NamePattern}
    (hread : Pattern.read { caseInsensitive := casing.isInsensitive } body.toList = .ok p)
    (h : NamePattern.compile casing body = .ok pat) : pat.pattern = p.marked := by
  rcases NamePattern.read_of_compile h with ⟨q, hq, hpattern⟩ | herror
  · rw [hpattern, Except.ok.inj (hread.symm.trans hq)]
  · exact absurd (hread.symm.trans herror) nofun

/-- A pattern for base names is one for whole names that does not heed case, with one group. -/
theorem Basename.compile_eq_ok {body : String} {b : Basename} (h : Basename.compile body = .ok b) :
    NamePattern.compile .ignore body = .ok b.pattern := by
  unfold Basename.compile at h
  split at h
  · cases h
  next pat hpat =>
    split at h
    · cases h
      exact hpat
    · cases h

/-- Text that is no pattern makes no pattern for whole names either, and no pattern for base names
unless it has one group, as long as it does not close a group that it has not opened. -/
theorem valid_or_unopenedGroup_of_compile (body : String) :
    (∀ casing pat, NamePattern.compile casing body = .ok pat →
      (∃ p, Pattern.read { caseInsensitive := casing.isInsensitive } body.toList = .ok p ∧
          pat.pattern = p.marked) ∨
        Pattern.read { caseInsensitive := casing.isInsensitive } body.toList =
          .error .unopenedGroup) ∧
    ∀ b, Basename.compile body = .ok b →
      (∃ p, Pattern.read { caseInsensitive := true } body.toList = .ok p ∧ p.groupCount = 1 ∧
          b.pattern.pattern = p.marked) ∨
        Pattern.read { caseInsensitive := true } body.toList = .error .unopenedGroup := by
  refine ⟨fun casing pat h => NamePattern.read_of_compile h, fun b h => ?_⟩
  refine (NamePattern.read_of_compile (Basename.compile_eq_ok h)).imp_left ?_
  rintro ⟨p, hread, hpattern⟩
  have hgroups : p.groupCount = 1 := by
    rw [← groupCount_marked, ← hpattern]
    exact b.one_group
  exact ⟨p, hread, hgroups, hpattern⟩

/-- A group between other text is read alone as it is between the marks. -/
theorem valid_of_compile_gap :
    (∃ pat, NamePattern.compile .exact "agg_(.+)" = .ok pat ∧
      ((∃ p, Pattern.read {} "agg_(.+)".toList = .ok p ∧ pat.pattern = p.marked) ∨
        Pattern.read {} "agg_(.+)".toList = .error .unopenedGroup)) ∧
    ∃ b, Basename.compile "agg_(.+)" = .ok b ∧
      ((∃ p, Pattern.read { caseInsensitive := true } "agg_(.+)".toList = .ok p ∧
          p.groupCount = 1 ∧ b.pattern.pattern = p.marked) ∨
        Pattern.read { caseInsensitive := true } "agg_(.+)".toList = .error .unopenedGroup) :=
  ⟨⟨_, rfl, (valid_or_unopenedGroup_of_compile "agg_(.+)").1 .exact _ rfl⟩,
    ⟨_, rfl, (valid_or_unopenedGroup_of_compile "agg_(.+)").2 _ rfl⟩⟩

/-- Text that closes the group around it and opens another one makes a pattern, though it is none by
itself. What is before and behind the bar is then held by one mark only. -/
theorem unopened_group_slips_through :
    (∃ pat, NamePattern.compile .exact "a)|(?:b" = .ok pat ∧ pat.accepts "ax" = true) ∧
      Pattern.read {} "a)|(?:b".toList = .error .unopenedGroup ∧
      (∃ b, Basename.compile "a)(b" = .ok b ∧ b.pattern.accepts "ab" = true) ∧
      Pattern.read { caseInsensitive := true } "a)(b".toList = .error .unopenedGroup :=
  ⟨⟨_, rfl, by decide +kernel⟩, rfl, ⟨_, rfl, by decide +kernel⟩, rfl⟩

/-- A pattern for whole names accepts a name exactly when what the author has written, read on its
own, matches the whole name. The same holds for patterns for base names, where case never counts, and
it is there that they find something to take a base name from. -/
theorem accepts_iff_matchesWhole (body : String) :
    (∀ casing p pat, Pattern.read { caseInsensitive := casing.isInsensitive } body.toList = .ok p →
      NamePattern.compile casing body = .ok pat →
      ∀ name, pat.accepts name = true ↔ p.MatchesWhole name.toList) ∧
    ∀ p b, Pattern.read { caseInsensitive := true } body.toList = .ok p →
      Basename.compile body = .ok b →
      ∀ basis, (b.pattern.accepts basis = true ↔ p.MatchesWhole basis.toList) ∧
        ((b.pattern.pattern.find basis.toList).isSome = true ↔ p.MatchesWhole basis.toList) := by
  have hwhole : ∀ casing p pat,
      Pattern.read { caseInsensitive := casing.isInsensitive } body.toList = .ok p →
      NamePattern.compile casing body = .ok pat →
      ∀ name, pat.accepts name = true ↔ p.MatchesWhole name.toList := by
    intro casing p pat hread hcompile name
    rw [NamePattern.accepts, NamePattern.pattern_of_compile hread hcompile]
    exact accepts_marked_iff
  refine ⟨hwhole, fun p b hread hcompile basis => ?_⟩
  have haccepts := hwhole .ignore p b.pattern hread (Basename.compile_eq_ok hcompile) basis
  refine ⟨haccepts, ?_⟩
  rw [isSome_find_eq_accepts]
  exact haccepts

/-- A gap between two bars stays between the marks, whatever case the letters around it have. -/
theorem accepts_bars_iff_matchesWhole :
    ∃ p pat b, Pattern.read { caseInsensitive := true } "a|(.*)b".toList = .ok p ∧
      NamePattern.compile .ignore "a|(.*)b" = .ok pat ∧ Basename.compile "a|(.*)b" = .ok b ∧
      (pat.accepts "xB" = true ↔ p.MatchesWhole "xB".toList) ∧
      (b.pattern.accepts "ax" = true ↔ p.MatchesWhole "ax".toList) ∧
      ((b.pattern.pattern.find "ax".toList).isSome = true ↔ p.MatchesWhole "ax".toList) :=
  ⟨_, _, _, rfl, rfl, rfl, (accepts_iff_matchesWhole "a|(.*)b").1 .ignore _ _ rfl rfl "xB",
    (accepts_iff_matchesWhole "a|(.*)b").2 _ _ rfl rfl "ax"⟩

end AggregateNaming
