import AggregateNaming.Proofs.Pattern.Alternation
import AggregateNaming.Proofs.Pattern.Steps

/-!
# Texts one behind the other

A text is read behind another one that is a pattern already. Its tokens do what they do at the
beginning of a text, with one difference: what comes before the first of its bars continues the last
alternative of what has been read before. Groups are numbered differently there, which changes no
match; and a name of a group must not have been used before.

Two readers of the same tokens are compared step by step: one at the beginning of a text, one behind
what another text has left. The innermost of the groups that wait are alike in both. The body around
all groups is not: there one reader has more than the other.

## Main definitions

- `Behind` : what a group has been read as, with and without something before it.
- `Joined` : a reader at the beginning of a text, and one behind another text.

## Main statements

- `Joined.step`, `Joined.steps` : what one token and what several tokens do to both.
- `Behind.spans_toPattern_iff` : what the pattern of the whole matches.
- `exists_joined` : two texts with an escaped one between them.
-/

namespace AggregateNaming.Pattern

variable {t : List Char} {b own ctx : Body}

/-! ## §1 Pieces -/

/-- Two pieces that match the same stretches of a text. -/
inductive SamePiece (t : List Char) : Piece → Piece → Prop
  | pattern {p q : Pattern} (same : SameSpans t p q) : SamePiece t (.pattern p) (.pattern q)
  | directive : SamePiece t .directive .directive

/-- Rows of the same pieces. -/
theorem SameSpans.row {ps qs : List Piece} (h : List.Forall₂ (SamePiece t) ps qs) :
    SameSpans t (Body.row ps) (Body.row qs) := by
  refine .concatAll (List.rel_filterMap ?_ (List.rel_reverse h))
  intro piece piece' hpiece
  cases hpiece with
  | pattern same => exact .some same
  | directive => exact .none

/-- A row of pieces, given last first, that continues another one. -/
theorem spans_row_append_iff {ps qs : List Piece} {i k : Nat} :
    Spans t (Body.row (ps ++ qs)) i k ↔
      ∃ j, Spans t (Body.row qs) i j ∧ Spans t (Body.row ps) j k := by
  unfold Body.row
  rw [List.reverse_append, List.filterMap_append, spans_concatAll_append_iff]

/-! ## §2 A group with something before it -/

/-- What a group has been read as at the beginning of a text, and what it has been read as behind
`b`. The first of its alternatives continues the last one of `b`. -/
inductive Behind (t : List Char) (b : Body) : Body → Body → Prop
  /-- There has been no bar yet. -/
  | first {ps qs : List Piece} (pieces : List.Forall₂ (SamePiece t) ps qs) :
      Behind t b ⟨[], ps⟩ ⟨b.alternatives, qs ++ b.pieces⟩
  /-- The first alternative is `p`, and `q` with what is before it. -/
  | later {as as' : List Pattern} {p q : Pattern} {ps qs : List Piece}
      (alternatives : List.Forall₂ (SameSpans t) as as')
      (seam : SameSpans t (.concat (Body.row b.pieces) p) q)
      (pieces : List.Forall₂ (SamePiece t) ps qs) :
      Behind t b ⟨as ++ [p], ps⟩ ⟨as' ++ q :: b.alternatives, qs⟩

namespace Behind

/-- Where nothing has been read behind something. -/
theorem start (b : Body) : Behind t b {} b := .first .nil

/-- A piece is added to both. -/
theorem addPiece (h : Behind t b own ctx) {x y : Piece} (hxy : SamePiece t x y) :
    Behind t b { own with pieces := x :: own.pieces } { ctx with pieces := y :: ctx.pieces } := by
  cases h with
  | first pieces => exact .first (.cons hxy pieces)
  | later alternatives seam pieces => exact .later alternatives seam (.cons hxy pieces)

theorem add (h : Behind t b own ctx) {p q : Pattern} (hpq : SameSpans t p q) :
    Behind t b (own.add p) (ctx.add q) := h.addPiece (.pattern hpq)

/-- What was read last at the beginning of a text was read last behind something, too. -/
theorem exists_last {p : Pattern} {ps : List Piece} (h : Behind t b own ctx)
    (hown : own.pieces = .pattern p :: ps) : ∃ q qs, ctx.pieces = .pattern q :: qs ∧
      SameSpans t p q ∧ Behind t b { own with pieces := ps } { ctx with pieces := qs } := by
  cases h with
  | first pieces =>
    cases hown
    cases pieces with
    | cons hpiece hrest =>
      cases hpiece with
      | pattern same => exact ⟨_, _, rfl, same, .first hrest⟩
  | later alternatives seam pieces =>
    cases hown
    cases pieces with
    | cons hpiece hrest =>
      cases hpiece with
      | pattern same => exact ⟨_, _, rfl, same, .later alternatives seam hrest⟩

/-- The alternatives of both end. With the first one at the beginning of a text ends the last one of
what is before. -/
theorem exists_of_bar (h : Behind t b own ctx) : ∃ as p as' q, own.bar = ⟨as ++ [p], []⟩ ∧
    ctx.bar = ⟨as' ++ q :: b.alternatives, []⟩ ∧
      SameSpans t (.concat (Body.row b.pieces) p) q ∧ List.Forall₂ (SameSpans t) as as' := by
  cases h with
  | @first ps qs pieces =>
    refine ⟨[], Body.row ps, [], Body.row (qs ++ b.pieces), rfl, rfl, fun i k => ?_, .nil⟩
    simp only [spans_concat_iff, spans_row_append_iff, SameSpans.row pieces _ _]
  | later alternatives seam pieces =>
    exact ⟨_ :: _, _, _ :: _, _, rfl, rfl, seam, .cons (.row pieces) alternatives⟩

theorem bar (h : Behind t b own ctx) : Behind t b own.bar ctx.bar := by
  obtain ⟨as, p, as', q, hown, hctx, seam, alternatives⟩ := h.exists_of_bar
  rw [hown, hctx]
  exact .later alternatives seam .nil

/-- The pattern of a whole group, behind something: one of the alternatives before, what is at the
seam, or one of the alternatives behind. -/
theorem spans_toPattern_iff (h : Behind t b own ctx) {a : Pattern} {as : List Pattern} {i k : Nat}
    (hown : own.bar.alternatives.reverse = a :: as) :
    Spans t ctx.toPattern i k ↔ (∃ p ∈ b.alternatives, Spans t p i k) ∨
      Spans t (.concat (Body.row b.pieces) a) i k ∨ ∃ p ∈ as, Spans t p i k := by
  -- a last bar brings both groups to the case in which the seam is an alternative of its own
  obtain ⟨as₁, p, as₂, q, hown', hctx, seam, halternatives⟩ := h.exists_of_bar
  rw [hown', List.reverse_append, List.reverse_singleton, List.singleton_append] at hown
  obtain ⟨rfl, rfl⟩ := List.cons.inj hown
  have hbehind : (∃ r ∈ as₁, Spans t r i k) ↔ ∃ r ∈ as₂, Spans t r i k :=
    SameSpans.exists_mem_iff halternatives
  have hall : ∀ r, r ∈ ctx.bar.alternatives.reverse ↔
      r ∈ b.alternatives ∨ r = q ∨ r ∈ as₂ := by
    intro r
    rw [hctx, List.mem_reverse, List.mem_append, List.mem_cons]
    tauto
  rw [Body.toPattern, spans_alternateAll_iff (by simp [hctx]), seam i k]
  simp only [hall, or_and_right, exists_or, exists_eq_left, List.mem_reverse, hbehind]

/-- With nothing before it, a group is the same. -/
theorem toPattern (h : Behind t {} own ctx) : SameSpans t own.toPattern ctx.toPattern := by
  intro i k
  obtain ⟨as, p, -, -, hown, -⟩ := h.exists_of_bar
  have hparts : own.bar.alternatives.reverse = p :: as.reverse := by
    rw [hown, List.reverse_append]
    rfl
  have hempty : Spans t (.concat (Body.row []) p) i k ↔ Spans t p i k := spans_empty_concat_iff
  rw [h.spans_toPattern_iff hparts, hempty, Body.toPattern, hparts,
    spans_alternateAll_iff (List.cons_ne_nil _ _), List.exists_mem_cons_iff]
  simp

end Behind

/-! ## §3 Readers -/

/-- The bodies of the groups that are open, innermost first, at the beginning of a text and behind `b`:
what is before makes a difference to the outermost body only. -/
inductive Beside (t : List Char) (b : Body) : Body → List Frame → Body → List Frame → Prop
  | bottom {own ctx : Body} (outermost : Behind t b own ctx) : Beside t b own [] ctx []
  | inner {own ctx : Body} {frame frame' : Frame} {stack stack' : List Frame}
      (innermost : Behind t {} own ctx) (flags : frame'.flags = frame.flags)
      (capture : frame'.capture.isSome = frame.capture.isSome)
      (around : Beside t b frame.body stack frame'.body stack') :
      Beside t b own (frame :: stack) ctx (frame' :: stack')

namespace Beside

variable {stack stack' : List Frame}

/-- The innermost group. -/
theorem exists_innermost (h : Beside t b own stack ctx stack') : ∃ b', Behind t b' own ctx := by
  cases h with
  | bottom outermost => exact ⟨b, outermost⟩
  | inner innermost flags capture around => exact ⟨{}, innermost⟩

/-- The innermost group is replaced, by bodies of which one is behind whatever the other one is. -/
theorem replace {own' ctx' : Body} (h : Beside t b own stack ctx stack')
    (hbehind : ∀ b', Behind t b' own ctx → Behind t b' own' ctx') :
    Beside t b own' stack ctx' stack' := by
  cases h with
  | bottom outermost => exact .bottom (hbehind b outermost)
  | inner innermost flags capture around => exact .inner (hbehind {} innermost) flags capture around

end Beside

/-- A reader at the beginning of a text, and one behind another text that has left `b` and the names
of groups `names`. -/
structure Joined (t : List Char) (b : Body) (names : List String) (s u : ReadState) : Prop where
  flags : u.flags = s.flags
  names : u.names = s.names ++ names
  groups : Beside t b s.body s.stack u.body u.stack

namespace Joined

variable {names : List String} {s s' u : ReadState}

/-- Both begin. -/
theorem start (f : Flags) (hflags : u.flags = f) (hstack : u.stack = []) :
    Joined t u.body u.names { flags := f } u where
  flags := hflags
  names := rfl
  groups := by
    rw [hstack]
    exact .bottom (.start u.body)

/-- Both add what matches the same. -/
theorem add (h : Joined t b names s u) {p q : Pattern} (hpq : SameSpans t p q) :
    Joined t b names (s.add p) (u.add q) where
  flags := h.flags
  names := h.names
  groups := h.groups.replace fun _ hbehind => hbehind.add hpq

/-- Both add the same set, if there is one. -/
theorem addSet (h : Joined t b names s u) {x : Except PatternError CharSet}
    (hs' : (x >>= fun c => .ok (s.add (.set c))) = .ok s') :
    ∃ u', (x >>= fun c => .ok (u.add (.set c))) = .ok u' ∧ Joined t b names s' u' := by
  obtain ⟨c, rfl, hs'⟩ := bind_eq_ok_iff.mp hs'
  cases hs'
  exact ⟨_, rfl, h.add (.refl _)⟩

/-- Both repeat what they have read last. -/
theorem repeatLast (h : Joined t b names s u) {least : Nat} {most : Option Nat} {isLazy : Bool}
    (hs' : s.repeatLast least most isLazy = .ok s') :
    ∃ u', u.repeatLast least most isLazy = .ok u' ∧ Joined t b names s' u' := by
  unfold ReadState.repeatLast at hs' ⊢
  split at hs'
  next p ps hown =>
    cases hs'
    obtain ⟨b', hinnermost⟩ := h.groups.exists_innermost
    obtain ⟨q, qs, hctx, hsame, -⟩ := hinnermost.exists_last hown
    rw [hctx]
    refine ⟨_, rfl, h.flags, h.names, h.groups.replace fun b' hbehind => ?_⟩
    -- `b'` is any body that the group may be behind, so what was read last is found once more for it
    obtain ⟨q', qs', hctx', -, hrest⟩ := hbehind.exists_last hown
    obtain ⟨-, rfl⟩ := List.cons.inj (hctx.symm.trans hctx')
    refine hrest.addPiece (.pattern ?_)
    rw [h.flags]
    exact hsame.times least most _
  next => cases hs'

/-- Both open a group, if its name has not been used before. -/
theorem openGroup (h : Joined t b names s u) {k : GroupKind}
    (hfresh : ∀ n ∈ names, k ≠ .capture (some n)) (hs' : s.openGroup k = .ok s') :
    ∃ u', u.openGroup k = .ok u' ∧ Joined t b names s' u' := by
  rcases k with name | changes
  · obtain ⟨hunused, rfl⟩ := ReadState.openGroup_capture_iff.mp hs'
    refine ⟨_, ReadState.openGroup_capture_iff.mpr ⟨fun n hn hmem => ?_, rfl⟩, h.flags, ?_,
      .inner (.start {}) h.flags rfl h.groups⟩
    · rw [h.names, List.mem_append] at hmem
      rcases hmem with hown | hbefore
      · exact hunused n hn hown
      · exact hfresh n hbefore (congrArg GroupKind.capture hn)
    · rw [h.names, List.append_assoc]
  · cases hs'
    exact ⟨_, rfl, congrArg (Flags.apply · changes) h.flags, h.names,
      .inner (.start {}) h.flags rfl h.groups⟩

/-- Both close a group. -/
theorem closeGroup (h : Joined t b names s u) (hs' : s.closeGroup = .ok s') :
    ∃ u', u.closeGroup = .ok u' ∧ Joined t b names s' u' := by
  have hgroups := h.groups
  unfold ReadState.closeGroup at hs' ⊢
  generalize hown : s.stack = stack at hs' hgroups
  generalize hctx : u.stack = stack' at hgroups
  cases hgroups with
  | bottom => cases hs'
  | @inner _ _ frame frame' _ _ innermost flags capture around =>
    cases hs'
    refine ⟨_, rfl, flags, h.names, around.replace fun b' hbehind => hbehind.add ?_⟩
    -- the number of a group makes no difference to what it matches
    have hsame := innermost.toPattern
    cases hi : frame.capture with
    | none =>
      rw [hi, Option.isSome_none, Option.isSome_eq_false_iff, Option.isNone_iff_eq_none] at capture
      rw [capture]
      exact hsame
    | some i =>
      rw [hi, Option.isSome_some, Option.isSome_iff_exists] at capture
      obtain ⟨j, hj⟩ := capture
      rw [hj]
      exact hsame.group

/-- What one token does to both. -/
theorem step (h : Joined t b names s u) {tok : Token}
    (hfresh : ∀ n ∈ names, tok ≠ .openGroup (.capture (some n))) (hs' : s.step tok = .ok s') :
    ∃ u', u.step tok = .ok u' ∧ Joined t b names s' u' := by
  cases tok with
  | literal l =>
    rw [ReadState.step, h.flags]
    exact h.addSet hs'
  | dot =>
    rw [ReadState.step, h.flags]
    exact h.addSet hs'
  | short c negated =>
    rw [ReadState.step, h.flags]
    exact h.addSet hs'
  | property q negated =>
    rw [ReadState.step, h.flags]
    exact h.addSet hs'
  | bracket b =>
    rw [ReadState.step, h.flags]
    exact h.addSet hs'
  | lineStart =>
    cases hs'
    rw [ReadState.step, h.flags]
    exact ⟨_, rfl, h.add (.refl _)⟩
  | lineEnd =>
    cases hs'
    rw [ReadState.step, h.flags]
    exact ⟨_, rfl, h.add (.refl _)⟩
  | assertion a =>
    cases hs'
    rw [ReadState.step, h.flags]
    exact ⟨_, rfl, h.add (.refl _)⟩
  | bar =>
    cases hs'
    exact ⟨_, rfl, h.flags, h.names, h.groups.replace fun _ hbehind => hbehind.bar⟩
  | repetition least most isLazy => exact h.repeatLast hs'
  | openGroup k => exact h.openGroup (fun n hn hk => hfresh n hn (congrArg Token.openGroup hk)) hs'
  | closeGroup => exact h.closeGroup hs'
  | directive changes =>
    cases hs'
    exact ⟨_, rfl, congrArg (Flags.apply · changes) h.flags, h.names,
      h.groups.replace fun _ hbehind => hbehind.addPiece .directive⟩

/-- What several tokens do to both. -/
theorem steps (h : Joined t b names s u) {ts : List Token}
    (hfresh : ∀ n ∈ names, .openGroup (.capture (some n)) ∉ ts) (hs' : s.steps ts = .ok s') :
    ∃ u', u.steps ts = .ok u' ∧ Joined t b names s' u' := by
  induction ts generalizing s u with
  | nil =>
    cases hs'
    exact ⟨u, rfl, h⟩
  | cons tok ts ih =>
    rw [ReadState.steps_cons] at hs'
    obtain ⟨s₁, hstep, hrest⟩ := bind_eq_ok_iff.mp hs'
    obtain ⟨u₁, hu₁, h₁⟩ := h.step (fun n hn heq => hfresh n hn (heq ▸ List.mem_cons_self)) hstep
    obtain ⟨u', hu', h'⟩ := ih h₁ (fun n hn hmem => hfresh n hn (List.mem_cons_of_mem _ hmem)) hrest
    refine ⟨u', ?_, h'⟩
    rw [ReadState.steps_cons, hu₁]
    exact hu'

/-- What is left of both once all groups have been closed. -/
theorem outermost (h : Joined t b names s u) (hstack : s.stack = []) :
    u.stack = [] ∧ Behind t b s.body u.body := by
  have hgroups := h.groups
  rw [hstack] at hgroups
  generalize u.stack = stack at hgroups
  cases hgroups with
  | bottom outermost => exact ⟨rfl, outermost⟩

end Joined

/-! ## §4 Two texts with an escaped one between them -/

section Between

variable {f : Flags} {us vs : List Token} {u v c : ReadState}

/-- The tokens of an escaped text between those of two other texts. -/
def tokensAround (us : List Token) (w : List Char) (vs : List Token) : List Token :=
  us ++ w.map (fun d => .literal ⟨d, false⟩) ++ vs

theorem Tokens.around {cs ds : List Char} (hus : Tokens cs us) (hvs : Tokens ds vs)
    (hds : Quiet ds) (w : List Char) :
    Tokens (cs ++ Pattern.escapeChars w ++ ds) (tokensAround us w vs) := by
  rw [tokensAround, List.append_assoc, List.append_assoc]
  exact hus.append (quiet_escapeChars_append hds w) ((Tokens.escapeChars w).append hds hvs)

theorem steps_tokensAround {s : ReadState} (hu : s.steps us = .ok u) (w : List Char)
    (vs : List Token) : s.steps (tokensAround us w vs) = (u.addChars w).steps vs := by
  have hfirst : s.steps (us ++ w.map fun d => .literal ⟨d, false⟩) = .ok (u.addChars w) := by
    rw [ReadState.steps_append, hu]
    exact u.steps_chars w
  rw [tokensAround, ReadState.steps_append, hfirst]
  rfl

/-- Where the tokens can be taken inside of a group, the second text uses no name of a group of the
first one. -/
theorem named_notMem_of_around {frame : Frame} {w : List Char}
    (hu : ReadState.steps { flags := f } us = .ok u)
    (h : (ReadState.within { flags := f } frame).steps (tokensAround us w vs) = .ok c) :
    ∀ n ∈ u.names, .openGroup (.capture (some n)) ∉ vs := by
  intro n hn
  rw [steps_tokensAround (ReadState.steps_within hu)] at h
  refine ReadState.named_notMem_of_steps ?_ h
  rw [ReadState.names_addChars]
  exact hn

/-- Where the second text uses no name of a group of the first one, both can be read as one text with
the escaped one between them. -/
theorem exists_joined (w : List Char) (hus : ∀ tok ∈ us, tok.turnsSwitch = false)
    (hu : ReadState.steps { flags := f } us = .ok u) (hustack : u.stack = [])
    (hv : ReadState.steps { flags := f } vs = .ok v) (hvstack : v.stack = [])
    (hfresh : ∀ n ∈ u.names, .openGroup (.capture (some n)) ∉ vs) :
    ∃ c, ReadState.steps { flags := f } (tokensAround us w vs) = .ok c ∧ c.stack = [] ∧
      ∀ t, Behind t (u.addChars w).body v.body c.body := by
  have hflags : u.flags = f := ((ReadState.Under.start f).steps hus hu).flags
  have hall : ∀ t, ∃ c, (u.addChars w).steps vs = .ok c ∧
      Joined t (u.addChars w).body (u.addChars w).names v c := by
    intro t
    refine (Joined.start f ?_ ?_).steps (fun n hn => hfresh n ?_) hv
    · exact (u.flags_addChars w).trans hflags
    · exact (u.stack_addChars w).trans hustack
    · rwa [ReadState.names_addChars] at hn
  obtain ⟨c, hc, hjoined⟩ := hall []
  refine ⟨c, (steps_tokensAround hu w vs).trans hc, (hjoined.outermost hvstack).1, fun t => ?_⟩
  -- what is read does not depend on the text that it is compared on
  obtain ⟨c', hc', hjoined'⟩ := hall t
  cases hc.symm.trans hc'
  exact (hjoined'.outermost hvstack).2

/-- What a row and an escaped text behind it match. -/
theorem sameSpans_row_addChars (t : List Char) (w : List Char) :
    SameSpans t (Body.row (u.addChars w).body.pieces)
      (.concat (Body.row u.body.pieces) (concatAll (charRow u.flags w))) := by
  intro i k
  rw [ReadState.pieces_addChars, spans_row_append_iff, Body.row_reverse_map, spans_concat_iff]

end Between

end AggregateNaming.Pattern
