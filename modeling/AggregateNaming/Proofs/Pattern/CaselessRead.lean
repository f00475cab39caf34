import AggregateNaming.Proofs.Pattern.Caseless
import AggregateNaming.Proofs.Pattern.Whole

/-!
# Reading patterns without regard to case

A text that turns no switches is read under the switches that it began with. If case does not count
there, every token adds a set that is closed under changes of case, or an assertion about words of all
scripts; and so what has been read has no regard to case at any time.

## Main definitions

- `Switchless` : a text turns no switches.
- `Token.HeedsAllScripts` : what is known of a token that has been read.
- `ReadState.Caseless` : what has been read has no regard to case.

## Main statements

- `Token.heedsAllScripts_of_read` : every token that is read is like that.
- `ReadState.Caseless.step` : what one token does.
- `caseless_of_read` : what is read from a whole text.
-/

namespace AggregateNaming.Pattern

/-! ## §1 Switches -/

/-- Whether a token turns switches, for the rest of a group or for a group of its own. -/
def Token.turnsSwitch : Token → Bool
  | .directive _ => true
  | .openGroup (.plain changes) => !changes.isEmpty
  | _ => false

/-- A text is read to its end, where blanks count, without a token that turns switches. -/
inductive Switchless : List Char → Prop
  | nil : Switchless []
  | token {cs rest : List Char} {t : Token} (next : Token.read false cs = .ok (some t, rest))
      (still : t.turnsSwitch = false) (after : Switchless rest) : Switchless cs

/-- An escaped text turns no switches. -/
theorem switchless_escapeChars (w : List Char) : Switchless (escapeChars w) := by
  induction w with
  | nil => exact .nil
  | cons c w ih => exact .token (Token.read_escapeChar c false (escapeChars w)) rfl ih

/-! ## §2 Tokens -/

/-- An assertion is about words of all scripts where all scripts count, and a bracket is one of its
own. -/
def Token.HeedsAllScripts : Token → Prop
  | .assertion a => (a true).heedsAllScripts = true
  | .bracket b => ∃ negated inside, b = .nested negated inside
  | _ => True

/-- What is read after the opening of a bracket is a bracket of its own. -/
theorem exists_nested_of_readBracket {verbose : Bool} {fuel : Nat} {b : OpenBracket}
    {outer : List OpenBracket} {cs rest : List Char} {whole : Bracket}
    (h : readBracket verbose fuel b outer cs = .ok (whole, rest)) :
    ∃ negated inside, whole = .nested negated inside := by
  induction fuel generalizing b outer cs with
  | zero => cases h
  | succ fuel ih =>
    rw [readBracket] at h
    split at h
    · cases h
    · split at h
      · exact ih h
      · exact ih h
    · split at h
      · cases h
        exact ⟨_, _, rfl⟩
      · exact ih h
    · split at h
      · exact ih h
      · obtain ⟨p, -, h⟩ := bind_eq_ok_iff.mp h
        exact ih h
    · obtain ⟨p, -, h⟩ := bind_eq_ok_iff.mp h
      exact ih h

/-- Every kind of word boundary is about words of all scripts where they count. -/
theorem heedsAllScripts_of_wordBoundaryNamed? {name : List Char} {a : Bool → Assertion}
    (h : wordBoundaryNamed? name = some a) : (a true).heedsAllScripts = true := by
  unfold wordBoundaryNamed? at h
  split_ifs at h <;> cases h <;> rfl

/-- So is what an escape stands for, if it is an assertion. -/
theorem heedsAllScripts_of_wordBoundaryEscape {verbose : Bool} {cs rest : List Char}
    {a : Bool → Assertion} (h : wordBoundaryEscape verbose cs = .ok (.assertion a, rest)) :
    (a true).heedsAllScripts = true := by
  unfold wordBoundaryEscape at h
  dsimp only at h
  split at h
  · split at h
    · cases h
    · split at h
      · split at h
        · split at h
          · next hnamed =>
            cases h
            exact heedsAllScripts_of_wordBoundaryNamed? hnamed
          · cases h
        · cases h
      · cases h
        rfl
  · cases h
    rfl

theorem exists_literal_of_hexEscape {verbose : Bool} {count : Nat} {cs rest : List Char} {e : Escape}
    (h : hexEscape verbose count cs = .ok (e, rest)) : ∃ l, e = .literal l := by
  unfold hexEscape at h
  split at h
  · cases h
  · obtain ⟨p, -, h⟩ := bind_eq_ok_iff.mp h
    obtain ⟨n, -, h⟩ := bind_eq_ok_iff.mp h
    obtain ⟨c, -, h⟩ := bind_eq_ok_iff.mp h
    cases h
    exact ⟨_, rfl⟩
  · obtain ⟨p, -, h⟩ := bind_eq_ok_iff.mp h
    obtain ⟨c, -, h⟩ := bind_eq_ok_iff.mp h
    cases h
    exact ⟨_, rfl⟩

theorem exists_property_of_propertyEscape {verbose negated : Bool} {cs rest : List Char} {e : Escape}
    (h : propertyEscape verbose negated cs = .ok (e, rest)) : ∃ q, e = .property q negated := by
  unfold propertyEscape at h
  split at h
  · cases h
  · obtain ⟨p, -, h⟩ := bind_eq_ok_iff.mp h
    cases h
    exact ⟨_, rfl⟩
  · cases h
  · cases h
    exact ⟨_, rfl⟩

theorem heedsAllScripts_of_assertionEscape? {c : Char} {a : Bool → Assertion}
    (h : assertionEscape? c = some a) : (a true).heedsAllScripts = true := by
  unfold assertionEscape? at h
  split at h <;> cases h <;> rfl

theorem heedsAllScripts_of_escaped {verbose : Bool} {cs rest : List Char} {a : Bool → Assertion}
    (h : escaped verbose cs = .ok (.assertion a, rest)) : (a true).heedsAllScripts = true := by
  cases cs with
  | nil => cases h
  | cons c cs =>
    have hhex : ∀ {count}, hexEscape verbose count cs ≠ .ok (.assertion a, rest) := by
      intro count h
      obtain ⟨l, hl⟩ := exists_literal_of_hexEscape h
      cases hl
    have hproperty : ∀ {negated}, propertyEscape verbose negated cs ≠ .ok (.assertion a, rest) := by
      intro negated h
      obtain ⟨q, hq⟩ := exists_property_of_propertyEscape h
      cases hq
    rw [escaped] at h
    split_ifs at h
    · exact absurd h hhex
    · exact absurd h hhex
    · exact absurd h hhex
    · exact absurd h hproperty
    · exact absurd h hproperty
    · exact heedsAllScripts_of_wordBoundaryEscape h
    -- an escape of one character, whether or not any character may be escaped
    all_goals
      split at h
      · cases h
      · next hescape =>
        cases h
        exact heedsAllScripts_of_assertionEscape? hescape
      · cases h
      · cases h

/-- Every token that is read is about all scripts in this way. -/
theorem Token.heedsAllScripts_of_read {verbose : Bool} {cs rest : List Char} {t : Token}
    (h : Token.read verbose cs = .ok (some t, rest)) : t.HeedsAllScripts := by
  unfold Token.read at h
  split at h
  case h_2 =>
    obtain ⟨⟨t', r⟩, hread, h⟩ := bind_eq_ok_iff.mp h
    cases h
    rcases Token.readGroup_cases hread with ⟨k, rfl⟩ | ⟨changes, rfl⟩ <;> trivial
  case h_5 =>
    obtain ⟨⟨b, r⟩, hread, h⟩ := bind_eq_ok_iff.mp h
    cases h
    exact exists_nested_of_readBracket hread
  case h_9 =>
    obtain ⟨⟨t', r⟩, hread, h⟩ := bind_eq_ok_iff.mp h
    cases h
    obtain ⟨least, most, isLazy, rfl⟩ := Token.exists_repetition_of_readCounts hread
    trivial
  case h_10 =>
    obtain ⟨⟨e, r⟩, hread, h⟩ := bind_eq_ok_iff.mp h
    cases h
    cases e with
    | assertion a => exact heedsAllScripts_of_escaped hread
    | _ => trivial
  all_goals
    cases h
  all_goals trivial

/-! ## §3 What has been read -/

/-- What has been read of a group has no regard to case. -/
structure Body.Caseless (b : Body) : Prop where
  alternatives : ∀ p ∈ b.alternatives, p.Caseless
  pieces : ∀ p, .pattern p ∈ b.pieces → p.Caseless

namespace Body.Caseless

variable {b : Body}

theorem empty : ({} : Body).Caseless := ⟨nofun, nofun⟩

theorem add (h : b.Caseless) {p : Pattern} (hp : p.Caseless) : (b.add p).Caseless where
  alternatives := h.alternatives
  pieces := by
    intro q hq
    rcases List.mem_cons.mp hq with heq | hq
    · cases heq
      exact hp
    · exact h.pieces q hq

theorem bar (h : b.Caseless) : b.bar.Caseless where
  alternatives := by
    intro p hp
    rcases List.mem_cons.mp hp with rfl | hp
    · refine hereditary_caseless.concatAll_iff.mpr fun q hq => ?_
      obtain ⟨piece, hpiece, hq⟩ := List.mem_filterMap.mp hq
      rw [List.mem_reverse] at hpiece
      cases piece with
      | pattern q' =>
        cases hq
        exact h.pieces _ hpiece
      | directive => cases hq
    · exact h.alternatives p hp
  pieces := nofun

theorem toPattern (h : b.Caseless) : b.toPattern.Caseless :=
  hereditary_caseless.alternateAll_iff.mpr fun p hp =>
    h.bar.alternatives p (List.mem_reverse.mp hp)

end Body.Caseless

/-- What has been read has no regard to case, and case does not count in any group. -/
structure ReadState.Caseless (s : ReadState) : Prop where
  flags : s.flags = { caseInsensitive := true }
  body : s.body.Caseless
  stack : ∀ frame ∈ s.stack, frame.flags = { caseInsensitive := true } ∧ frame.body.Caseless

namespace ReadState.Caseless

variable {s s' : ReadState}

/-- A set that is closed under changes of case is added. -/
theorem addSet (h : s.Caseless) {x : Except PatternError CharSet} (hx : ∀ c, x = .ok c → c.Caseless)
    (hs' : (x >>= fun c => .ok (s.add (.set c))) = .ok s') : s'.Caseless := by
  obtain ⟨c, hc, hs'⟩ := bind_eq_ok_iff.mp hs'
  cases hs'
  exact ⟨h.flags, h.body.add (hx c hc), h.stack⟩

theorem addAssertion (h : s.Caseless) {a : Assertion} (ha : a.heedsAllScripts = true) :
    (s.add (.assertion a)).Caseless :=
  ⟨h.flags, h.body.add (Assertion.caseless_of_heedsAllScripts ha), h.stack⟩

/-- Where case does not count and all scripts do, a set without regard to case keeps none when it is
negated. -/
theorem caseless_negateSet {negated : Bool} {c d : CharSet} (hc : c.Caseless)
    (hd : negateSet { caseInsensitive := true } negated c = .ok d) : d.Caseless := by
  cases negated with
  | true =>
    cases hd
    exact hc.complement
  | false =>
    cases hd
    exact hc

theorem caseless_shortClass (c : ShortClass) : c.toSet.Caseless := by
  cases c with
  | digit => exact fun _ _ h => Text.contains_digits h
  | space => exact fun _ _ h => Text.contains_blanks h
  | word => exact fun _ _ h => Text.contains_wordChars h

theorem caseless_property {q : PropertyQuery} {negated : Bool} {c : CharSet}
    (hc : q.toSetIn { caseInsensitive := true } negated = .ok c) : c.Caseless := by
  unfold PropertyQuery.toSetIn at hc
  rw [if_pos rfl] at hc
  split at hc
  · exact caseless_negateSet (CharSet.caseless_folded _) hc
  · cases hc

theorem caseless_nested {negated : Bool} {inside : Bracket} {c : CharSet}
    (hc : (Bracket.nested negated inside).toSet { caseInsensitive := true } = .ok c) : c.Caseless := by
  rw [Bracket.toSet] at hc
  obtain ⟨d, -, hc⟩ := bind_eq_ok_iff.mp hc
  exact caseless_negateSet (CharSet.caseless_folded d) hc

/-- A pattern that is repeated has no more regard to case than it had. -/
theorem repeatLast (h : s.Caseless) {least : Nat} {most : Option Nat} {isLazy : Bool}
    (hs' : s.repeatLast least most isLazy = .ok s') : s'.Caseless := by
  unfold ReadState.repeatLast at hs'
  split at hs'
  next p rest hpieces =>
    cases hs'
    refine ⟨h.flags, ⟨h.body.alternatives, fun q hq => ?_⟩, h.stack⟩
    rcases List.mem_cons.mp hq with heq | hq
    · cases heq
      exact caseless_times (h.body.pieces p (hpieces ▸ List.mem_cons_self)) least most _
    · exact h.body.pieces q (hpieces ▸ List.mem_cons_of_mem _ hq)
  next => cases hs'

/-- The group around waits, with what has been read of it. -/
theorem openGroup (h : s.Caseless) {k : GroupKind} (hstill : (Token.openGroup k).turnsSwitch = false)
    (hs' : s.openGroup k = .ok s') : s'.Caseless := by
  have hstack : ∀ capture, ∀ frame ∈ ⟨s.body, s.flags, capture⟩ :: s.stack,
      frame.flags = { caseInsensitive := true } ∧ frame.body.Caseless := by
    intro capture frame hframe
    rcases List.mem_cons.mp hframe with rfl | hframe
    · exact ⟨h.flags, h.body⟩
    · exact h.stack frame hframe
  rcases k with name | changes
  · obtain ⟨-, rfl⟩ := ReadState.openGroup_capture_iff.mp hs'
    exact ⟨h.flags, .empty, hstack _⟩
  · have hchanges : changes = [] := by simpa [Token.turnsSwitch] using hstill
    subst hchanges
    cases hs'
    exact ⟨h.flags, .empty, hstack _⟩

/-- The group that is closed becomes a part of the one around. -/
theorem closeGroup (h : s.Caseless) (hs' : s.closeGroup = .ok s') : s'.Caseless := by
  unfold ReadState.closeGroup at hs'
  split at hs'
  next => cases hs'
  next frame stack hstack =>
    cases hs'
    obtain ⟨hflags, hbody⟩ := h.stack frame (hstack ▸ List.mem_cons_self)
    refine ⟨hflags, hbody.add ?_, fun frame' hframe' =>
      h.stack frame' (hstack ▸ List.mem_cons_of_mem _ hframe')⟩
    cases frame.capture with
    | none => exact h.body.toPattern
    | some i => exact h.body.toPattern

/-- What one token does. -/
theorem step (h : s.Caseless) {t : Token} (ht : t.HeedsAllScripts) (hstill : t.turnsSwitch = false)
    (hs' : s.step t = .ok s') : s'.Caseless := by
  cases t with
  | literal l =>
    refine h.addSet (fun c hc => ?_) hs'
    rw [h.flags] at hc
    cases hc
    exact CharSet.caseless_sameUpToCase l.char
  | dot =>
    refine h.addSet (fun c hc => ?_) hs'
    rw [h.flags] at hc
    cases hc
    exact CharSet.caseless_notLineFeed
  | lineStart =>
    cases hs'
    exact h.addAssertion (by rw [h.flags]; rfl)
  | lineEnd =>
    cases hs'
    exact h.addAssertion (by rw [h.flags]; rfl)
  | short c negated =>
    refine h.addSet (fun d hd => ?_) hs'
    rw [h.flags] at hd
    exact caseless_negateSet (caseless_shortClass c) hd
  | property q negated =>
    refine h.addSet (fun d hd => ?_) hs'
    rw [h.flags] at hd
    exact caseless_property hd
  | assertion a =>
    cases hs'
    exact h.addAssertion (by rw [h.flags]; exact ht)
  | bracket b =>
    obtain ⟨negated, inside, rfl⟩ := ht
    refine h.addSet (fun d hd => ?_) hs'
    rw [h.flags] at hd
    exact caseless_nested hd
  | repetition least most isLazy => exact h.repeatLast hs'
  | bar =>
    cases hs'
    exact ⟨h.flags, h.body.bar, h.stack⟩
  | openGroup k => exact h.openGroup hstill hs'
  | closeGroup => exact h.closeGroup hs'
  | directive changes => cases hstill

/-- What all tokens do. -/
theorem run (h : s.Caseless) {cs : List Char} (hcs : Switchless cs) {n : Nat}
    (hrun : ReadState.run n s cs = .ok s') : s'.Caseless := by
  -- by the fuel, with one token of the text to each turn
  induction n generalizing s cs with
  | zero => cases hrun
  | succ n ih =>
    obtain ⟨_, token, rest, hn, hread, hend⟩ := ReadState.run_eq_ok hrun
    cases hn
    rcases hend with ⟨-, rfl⟩ | ⟨t, u, rfl, hstep, hrest⟩
    · exact h
    · rw [h.flags] at hread
      change Token.read false cs = .ok (some t, rest) at hread
      cases hcs with
      | nil => cases hread
      | token hnext hstill hafter =>
        rw [hread] at hnext
        cases hnext
        exact ih (h.step (Token.heedsAllScripts_of_read hread) hstill hstep) hafter hrest

end ReadState.Caseless

/-- What is read without regard to case from a text that turns no switches has none. -/
theorem caseless_of_read {cs : List Char} {p : Pattern} (hcs : Switchless cs)
    (h : Pattern.read { caseInsensitive := true } cs = .ok p) : p.Caseless := by
  obtain ⟨u, hrun, -, rfl⟩ := read_eq_ok_iff.mp h
  have hstart : ({ flags := { caseInsensitive := true } } : ReadState).Caseless :=
    ⟨rfl, .empty, nofun⟩
  exact (hstart.run hcs hrun).body.toPattern

end AggregateNaming.Pattern
