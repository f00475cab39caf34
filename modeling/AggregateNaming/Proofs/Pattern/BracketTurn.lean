import AggregateNaming.Proofs.Fallible
import AggregateNaming.Proofs.Pattern.Literal
import Mathlib.Data.List.TakeDrop

/-!
# Reading brackets turn by turn

The reader of brackets takes one thing at a turn. Here is what each turn does where blanks count,
and that the whole of a bracket stands for a set only if everything that was read into it does.

## Main definitions

- `Bracket.Fits` : the inside of a bracket stands for a set, under the switches in force.
- `restOfRange` : what may follow the first item of a range; `rangeFrom` where blanks count.
- `Turn` : one turn of the reader.
- `Turns` : a number of turns leads from one place of the reader to another.
- `Closes`, `ClosesTo` : the outermost bracket comes to its end and stands for a set.

## Main statements

- `turn_of_readBracket` : whatever is read is read by turns.
- `fits_of_readBracket` : the parts of a bracket that stands for a set stand for sets.
- `turns_row` : a row of characters, each written so that it stands for itself.
- `asciiClass?_eq_some` : how the named classes are written.
-/

namespace AggregateNaming.Pattern

/-! ## §1 Brackets that stand for sets -/

/-- The inside of a bracket stands for a set, under the switches in force. -/
def Bracket.Fits (f : Flags) (b : Bracket) : Prop := ∃ s, b.toSet f = .ok s

/-- What has been read of an open bracket stands for a set. -/
def OpenBracket.Fits (f : Flags) (b : OpenBracket) : Prop := b.inside.Fits f

section Fits

variable {f : Flags}

theorem Bracket.fits_empty : Bracket.empty.Fits f := ⟨_, rfl⟩

theorem Bracket.fits_literal_iff {l : Literal} :
    (Bracket.literal l).Fits f ↔ f.unicode = true ∨ l.char.toNat < 0x80 := by
  refine exists_bind_eq_ok_iff.trans ?_
  rw [Literal.inBracket]
  cases f.unicode <;> by_cases h : l.char.toNat < 0x80 <;> simp [h]

theorem Bracket.fits_union_iff {a b : Bracket} :
    (Bracket.union a b).Fits f ↔ a.Fits f ∧ b.Fits f :=
  exists_bind_bind_eq_ok_iff

theorem Bracket.fits_op_iff {o : BracketOp} {a b : Bracket} :
    (Bracket.op o a b).Fits f ↔ a.Fits f ∧ b.Fits f :=
  exists_bind_bind_eq_ok_iff

theorem Bracket.fits_range_iff {a b : Literal} :
    (Bracket.range a b).Fits f ↔ (Bracket.literal a).Fits f ∧ (Bracket.literal b).Fits f :=
  exists_bind_bind_eq_ok_iff.trans
    (and_congr exists_bind_eq_ok_iff.symm exists_bind_eq_ok_iff.symm)

theorem negateSet_eq_ok_iff {negated : Bool} {s : CharSet} :
    (∃ s', negateSet f negated s = .ok s') ↔ (negated = true → f.unicode = true) := by
  unfold negateSet
  cases negated <;> cases f.unicode <;> simp

theorem Bracket.fits_ascii_iff {c : AsciiClass} {negated : Bool} :
    (Bracket.ascii c negated).Fits f ↔ (negated = true → f.unicode = true) :=
  negateSet_eq_ok_iff

theorem Bracket.fits_nested_iff {negated : Bool} {b : Bracket} :
    (Bracket.nested negated b).Fits f ↔ b.Fits f ∧ (negated = true → f.unicode = true) := by
  change (∃ s, (b.toSet f >>= fun t => negateSet f negated (foldSet f t)) = .ok s) ↔ _
  simp only [bind_eq_ok_iff]
  constructor
  · rintro ⟨s, t, ht, hs⟩
    exact ⟨⟨t, ht⟩, negateSet_eq_ok_iff.mp ⟨s, hs⟩⟩
  · rintro ⟨⟨t, ht⟩, hneg⟩
    obtain ⟨s, hs⟩ := negateSet_eq_ok_iff (s := foldSet f t).mpr hneg
    exact ⟨s, t, ht, hs⟩

/-- No property without a table stands for a set. -/
theorem Bracket.not_fits_property {q : PropertyQuery} {negated : Bool} (h : q.table? = none) :
    ¬(Bracket.property q negated).Fits f := by
  rintro ⟨s, hs⟩
  change q.toSetIn f negated = .ok s at hs
  rw [PropertyQuery.toSetIn, h] at hs
  split at hs <;> cases hs

theorem OpenBracket.fits_add_iff {b : OpenBracket} {item : Bracket} :
    (b.add item).Fits f ↔ b.Fits f ∧ item.Fits f := by
  obtain ⟨negated, left, items⟩ := b
  cases left with
  | none => exact Bracket.fits_union_iff
  | some left =>
    show (Bracket.op _ _ (.union items item)).Fits f ↔ (Bracket.op _ _ items).Fits f ∧ _
    rw [Bracket.fits_op_iff, Bracket.fits_op_iff, Bracket.fits_union_iff, and_assoc]

theorem OpenBracket.fits_operate_iff {b : OpenBracket} {o : BracketOp} :
    (b.operate o).Fits f ↔ b.Fits f := by
  show (Bracket.op o b.inside .empty).Fits f ↔ _
  rw [Bracket.fits_op_iff, and_iff_left Bracket.fits_empty]
  rfl

@[simp] theorem OpenBracket.negated_add (b : OpenBracket) (item : Bracket) :
    (b.add item).negated = b.negated := rfl

end Fits

/-! ## §2 Items and ranges -/

/-- The range between two items. Only characters have one, if they are in order. -/
def Bracket.upTo : Bracket → Bracket → Except PatternError Bracket
  | .literal a, .literal b => if a.char ≤ b.char then .ok (.range a b) else .error .badRange
  | _, _ => .error .badRange

theorem Bracket.upTo_eq_ok_iff {first last r : Bracket} :
    first.upTo last = .ok r ↔
      ∃ a b, first = .literal a ∧ last = .literal b ∧ a.char ≤ b.char ∧ r = .range a b := by
  constructor
  · intro h
    unfold Bracket.upTo at h
    split at h
    next a b =>
      split at h
      next hle =>
        cases h
        exact ⟨a, b, rfl, rfl, hle, rfl⟩
      · cases h
    · cases h
  · rintro ⟨a, b, rfl, rfl, hle, rfl⟩
    rw [Bracket.upTo, if_pos hle]

/-- The range that ends with the next item. -/
def endOfRange (v : Bool) (first : Bracket) (cs : List Char) :
    Except PatternError (Bracket × List Char) :=
  bracketItem v cs >>= fun p => first.upTo p.1 >>= fun r => .ok (r, p.2)

/-- The character that decides whether a hyphen makes a range. -/
def decisive? (v : Bool) (cs : List Char) : Option Char :=
  if v then peekPast cs else cs.head?

/-- What may follow the first item of a range, what does not count skipped: a hyphen and the last one,
if neither the closing bracket nor another hyphen comes next. -/
def restOfRange (v : Bool) (first : Bracket) :
    List Char → Except PatternError (Bracket × List Char)
  | [] => .error .unclosedBracket
  | '-' :: rest =>
    if decisive? v rest == some ']' || decisive? v rest == some '-' then
      .ok (first, '-' :: rest)
    else endOfRange v first (skip v rest)
  | rest => .ok (first, rest)

theorem restOfRange_hyphen (v : Bool) (first : Bracket) (cs : List Char) :
    restOfRange v first ('-' :: cs) =
      if decisive? v cs == some ']' || decisive? v cs == some '-' then
        .ok (first, '-' :: cs)
      else endOfRange v first (skip v cs) := rfl

theorem restOfRange_plain {v : Bool} {first : Bracket} {c : Char} (hc : c ≠ '-') (cs : List Char) :
    restOfRange v first (c :: cs) = .ok (first, c :: cs) := by
  rw [restOfRange]
  · exact nofun
  · exact fun _ h => hc (List.cons.inj h).1

theorem bracketRange_eq_restOfRange {v : Bool} (cs : List Char) :
    bracketRange v cs =
      bracketItem v cs >>= fun p => restOfRange v p.1 (skip v p.2) := by
  unfold bracketRange
  refine congrArg (bracketItem v cs >>= ·) (funext fun p => ?_)
  obtain ⟨first, rest⟩ := p
  dsimp only
  generalize skip v rest = l
  split
  next => rfl
  next l =>
    rw [restOfRange_hyphen]
    refine ite_congr rfl (fun _ => rfl) fun _ => ?_
    unfold endOfRange
    split
    next hnil =>
      rw [hnil]
      rfl
    next =>
      refine congrArg (bracketItem v (skip v l) >>= ·) (funext fun q => ?_)
      obtain ⟨last, rest⟩ := q
      dsimp only
      split
      next =>
        simp only [Bracket.upTo]
        split <;> rfl
      next hne =>
        rw [Bracket.upTo]
        · rfl
        · exact fun a b ha hb => hne a b ha hb
  next hnil hhyphen =>
    rcases l with _ | ⟨c, l⟩
    · exact absurd rfl hnil
    · exact (restOfRange_plain (fun hc => hhyphen l (by rw [hc])) l).symm

/-- The same where blanks count, so that none are skipped. -/
def rangeFrom (first : Bracket) : List Char → Except PatternError (Bracket × List Char)
  | [] => .error .unclosedBracket
  | '-' :: rest =>
    if rest.head? == some ']' || rest.head? == some '-' then .ok (first, '-' :: rest)
    else do
      let (last, rest) ← bracketItem false rest
      return (← first.upTo last, rest)
  | rest => .ok (first, rest)

theorem bracketRange_eq (cs : List Char) :
    bracketRange false cs = bracketItem false cs >>= fun p => rangeFrom p.1 p.2 := by
  rw [bracketRange_eq_restOfRange]
  refine congrArg (bracketItem false cs >>= ·) (funext fun ⟨first, rest⟩ => ?_)
  rcases rest with _ | ⟨c, rest⟩
  · rfl
  by_cases hc : c = '-'
  · subst hc
    rfl
  · refine (restOfRange_plain hc rest).trans ?_
    rw [rangeFrom]
    · exact nofun
    · exact fun _ heq => hc (List.cons.inj heq).1

/-- An escaped character is an item of its own. -/
theorem bracketItem_escapeChar (c : Char) (cs : List Char) :
    bracketItem false (escapeChar c ++ cs) = .ok (.literal ⟨c, false⟩, cs) := by
  unfold escapeChar
  split
  next hmeta =>
    show bracketItem false ('\\' :: c :: cs) = _
    rw [bracketItem, escaped_of_isMeta hmeta]
  next hplain =>
    have hback : c ≠ '\\' := by
      rintro rfl
      exact hplain rfl
    show bracketItem false (c :: cs) = _
    unfold bracketItem
    split <;> simp_all

/-! ## §3 Turns -/

/-- One turn of the reader of brackets, unless it is the last: from the innermost bracket, those
around it and the characters left before it, what does not count skipped, to those after it. -/
inductive Turn (verbose : Bool) : OpenBracket → List OpenBracket → List Char →
    OpenBracket → List OpenBracket → List Char → Prop where
  /-- A named class is one item. -/
  | namedClass {b outer cs item rest} : asciiClass? cs = some (item, rest) →
      Turn verbose b outer ('[' :: cs) (b.add item) outer rest
  /-- A bracket in a bracket is opened. -/
  | openNested {b outer cs inner rest} : asciiClass? cs = none →
      openBracket verbose cs = (inner, rest) →
      Turn verbose b outer ('[' :: cs) inner (b :: outer) rest
  /-- A bracket in a bracket is closed. -/
  | closeNested {b b' outer cs} :
      Turn verbose b (b' :: outer) (']' :: cs) (b'.add (.nested b.negated b.inside)) outer cs
  /-- Two equal characters stand for an operation. -/
  | operation {b outer c o cs} : bracketOp? c = some o →
      Turn verbose b outer (c :: c :: cs) (b.operate o) outer cs
  /-- A character, class, escape or range is one item. -/
  | item {b outer c cs it rest} : c ≠ '[' → c ≠ ']' →
      (∀ cs', cs = c :: cs' → bracketOp? c = none) →
      bracketRange verbose (c :: cs) = .ok (it, rest) →
      Turn verbose b outer (c :: cs) (b.add it) outer rest

section Turns

variable {verbose : Bool} {b b' : OpenBracket} {outer outer' : List OpenBracket}
variable {cs cs' : List Char} {n m : Nat}

/-- The turn of a character, class, escape or range. -/
theorem readBracket_item {c : Char} (hskip : skip verbose cs = c :: cs') (hopen : c ≠ '[')
    (hclose : c ≠ ']') (hop : ∀ rest, cs' = c :: rest → bracketOp? c = none) :
    readBracket verbose (n + 1) b outer cs =
      bracketRange verbose (c :: cs') >>= fun p => readBracket verbose n (b.add p.1) outer p.2 := by
  rw [readBracket, hskip]
  rcases cs' with _ | ⟨d, cs'⟩
  · split
    next heq => cases heq
    next heq => exact absurd (List.cons.inj heq).1 hopen
    next heq => exact absurd (List.cons.inj heq).1 hclose
    next heq => cases (List.cons.inj heq).2
    next heq =>
      cases heq
      rfl
  · by_cases hd : c = d
    · subst hd
      simp only [beq_self_eq_true, if_true, hop cs' rfl]
    · simp only [beq_eq_false_iff_ne.mpr hd, Bool.false_eq_true, if_false]

/-- No operation is written with the characters that open and close brackets. -/
theorem ne_of_bracketOp? {c : Char} {o : BracketOp} (h : bracketOp? c = some o) :
    c ≠ '[' ∧ c ≠ ']' := by
  constructor
  · rintro rfl
    cases h
  · rintro rfl
    cases h

/-- What the reader does in one turn. -/
theorem Turn.readBracket_eq (h : Turn verbose b outer (skip verbose cs) b' outer' cs') (n : Nat) :
    readBracket verbose (n + 1) b outer cs = readBracket verbose n b' outer' cs' := by
  generalize hskip : skip verbose cs = l at h
  cases h with
  | namedClass hclass =>
    rw [readBracket, hskip]
    simp only [hclass]
  | openNested hclass hopen =>
    rw [readBracket, hskip]
    simp only [hclass, hopen]
  | closeNested =>
    rw [readBracket, hskip]
    rfl
  | operation ho =>
    obtain ⟨hopen, hclose⟩ := ne_of_bracketOp? ho
    rw [readBracket, hskip]
    simp only [beq_self_eq_true, if_true, ho]
  | item hopen hclose hop hrange =>
    rw [readBracket_item hskip hopen hclose hop, hrange]
    rfl

/-- What the reader has done when it has come to the end of a bracket. -/
theorem turn_of_readBracket {whole : Bracket} {rest : List Char}
    (h : readBracket verbose n b outer cs = .ok (whole, rest)) :
    (skip verbose cs = ']' :: rest ∧ outer = [] ∧ whole = .nested b.negated b.inside) ∨
      ∃ m b' outer' cs', n = m + 1 ∧ Turn verbose b outer (skip verbose cs) b' outer' cs' ∧
        readBracket verbose m b' outer' cs' = .ok (whole, rest) := by
  cases n with
  | zero => cases h
  | succ n =>
    -- to name the turn is enough: what the reader does then is known
    have next : ∀ {b' outer' cs'}, Turn verbose b outer (skip verbose cs) b' outer' cs' →
        ∃ m b' outer' cs', n + 1 = m + 1 ∧ Turn verbose b outer (skip verbose cs) b' outer' cs' ∧
          readBracket verbose m b' outer' cs' = .ok (whole, rest) := fun hturn =>
      ⟨n, _, _, _, rfl, hturn, (hturn.readBracket_eq n).symm.trans h⟩
    cases hskip : skip verbose cs with
    | nil =>
      rw [readBracket, hskip] at h
      cases h
    | cons c l =>
      rw [hskip] at next
      by_cases hopen : c = '['
      · subst hopen
        cases hclass : asciiClass? l with
        | some p => exact Or.inr (next (.namedClass hclass))
        | none => exact Or.inr (next (.openNested hclass rfl))
      by_cases hclose : c = ']'
      · subst hclose
        cases outer with
        | nil =>
          rw [readBracket, hskip] at h
          cases h
          exact Or.inl ⟨rfl, rfl, rfl⟩
        | cons b' outer => exact Or.inr (next .closeNested)
      by_cases hop : ∃ o cs', l = c :: cs' ∧ bracketOp? c = some o
      · obtain ⟨o, cs', rfl, ho⟩ := hop
        exact Or.inr (next (.operation ho))
      · have hnone : ∀ cs', l = c :: cs' → bracketOp? c = none := by
          intro cs' hcs
          cases ho : bracketOp? c with
          | none => rfl
          | some o => exact absurd ⟨o, cs', hcs, ho⟩ hop
        have hitem := h
        rw [readBracket_item hskip hopen hclose hnone] at hitem
        obtain ⟨⟨it, cs'⟩, hrange, -⟩ := bind_eq_ok_iff.mp hitem
        exact Or.inr (next (.item hopen hclose hnone hrange))

/-- More fuel does not change what has been read. -/
theorem readBracket_mono {r : Bracket × List Char}
    (h : readBracket verbose n b outer cs = .ok r) (hle : n ≤ m) :
    readBracket verbose m b outer cs = .ok r := by
  -- by the fuel that was enough: either one has some left for the next turn
  induction n generalizing b outer cs m with
  | zero => cases h
  | succ n ih =>
    obtain ⟨m, rfl⟩ : ∃ k, m = k + 1 := ⟨m - 1, by omega⟩
    rcases turn_of_readBracket h with
      ⟨hskip, rfl, -⟩ | ⟨n', b', outer', cs', hn, hturn, hrest⟩
    · rw [← h, readBracket, readBracket, hskip]
      rfl
    · cases hn
      rw [hturn.readBracket_eq]
      exact ih hrest (by omega)

end Turns

/-! ## §4 What a bracket is made of -/

/-- What has been read before a turn stands for sets if what has been read after it does. -/
theorem Turn.fits {f : Flags} {verbose : Bool} {b b' : OpenBracket}
    {outer outer' : List OpenBracket} {cs cs' : List Char}
    (h : Turn verbose b outer cs b' outer' cs') (hb : b'.Fits f)
    (houter : ∀ o ∈ outer', o.Fits f) : b.Fits f ∧ ∀ o ∈ outer, o.Fits f := by
  cases h with
  | namedClass => exact ⟨(OpenBracket.fits_add_iff.mp hb).1, houter⟩
  | openNested => exact ⟨houter _ (by simp), fun o ho => houter o (by simp [ho])⟩
  | closeNested =>
    obtain ⟨hb', hnested⟩ := OpenBracket.fits_add_iff.mp hb
    refine ⟨(Bracket.fits_nested_iff.mp hnested).1, fun o ho => ?_⟩
    rcases List.mem_cons.mp ho with rfl | ho
    · exact hb'
    · exact houter o ho
  | operation => exact ⟨OpenBracket.fits_operate_iff.mp hb, houter⟩
  | item => exact ⟨(OpenBracket.fits_add_iff.mp hb).1, houter⟩

/-- A bracket stands for a set only if everything that has been read into it does. -/
theorem fits_of_readBracket {f : Flags} {verbose : Bool} {n : Nat} {b : OpenBracket}
    {outer : List OpenBracket} {cs : List Char} {whole : Bracket} {rest : List Char}
    (h : readBracket verbose n b outer cs = .ok (whole, rest)) (hwhole : whole.Fits f) :
    b.Fits f ∧ ∀ o ∈ outer, o.Fits f := by
  induction n generalizing b outer cs with
  | zero => cases h
  | succ n ih =>
    rcases turn_of_readBracket h with ⟨-, rfl, rfl⟩ | ⟨n', b', outer', cs', hn, hturn, hrest⟩
    · exact ⟨(Bracket.fits_nested_iff.mp hwhole).1, nofun⟩
    · -- no turn drops anything that was read before it
      cases hn
      obtain ⟨hb, houter⟩ := ih hrest
      exact hturn.fits hb houter

/-! ## §5 Rows of turns -/

/-- A number of turns leads from one place of the reader to another. Every turn uses up at least one
character. -/
def Turns (b : OpenBracket) (outer : List OpenBracket) (cs : List Char) (b' : OpenBracket)
    (outer' : List OpenBracket) (cs' : List Char) : Prop :=
  ∃ k, k + cs'.length ≤ cs.length ∧
    ∀ n, readBracket false (n + k) b outer cs = readBracket false n b' outer' cs'

/-- The reader comes to the end of the outermost bracket, and it stands for a set. -/
def Closes (f : Flags) (b : OpenBracket) (outer : List OpenBracket) (cs : List Char) : Prop :=
  ∃ n whole rest, readBracket false n b outer cs = .ok (whole, rest) ∧ whole.Fits f

/-- The reader comes to the end of the outermost bracket with some characters left, in as many turns
as there were characters, and the bracket stands for a set. -/
def ClosesTo (f : Flags) (b : OpenBracket) (outer : List OpenBracket) (cs rest : List Char) :
    Prop :=
  ∃ n whole, n + rest.length ≤ cs.length ∧
    readBracket false n b outer cs = .ok (whole, rest) ∧ whole.Fits f

section Turns

variable {f : Flags} {b b' b'' : OpenBracket} {outer outer' outer'' : List OpenBracket}
variable {cs cs' cs'' rest : List Char}

theorem Turns.refl : Turns b outer cs b outer cs := ⟨0, by simp, fun _ => rfl⟩

theorem Turns.trans (h : Turns b outer cs b' outer' cs')
    (h' : Turns b' outer' cs' b'' outer'' cs'') :
    Turns b outer cs b'' outer'' cs'' := by
  obtain ⟨k, hk, hread⟩ := h
  obtain ⟨k', hk', hread'⟩ := h'
  refine ⟨k' + k, by omega, fun n => ?_⟩
  rw [← Nat.add_assoc, hread, hread']

theorem Turn.turns (h : Turn false b outer cs b' outer' cs') (hlt : cs'.length < cs.length) :
    Turns b outer cs b' outer' cs' :=
  ⟨1, by omega, h.readBracket_eq⟩

/-- What comes to its end does so after some turns. -/
theorem Turns.closes (h : Turns b outer cs b' outer' cs') (hcloses : Closes f b outer cs) :
    Closes f b' outer' cs' := by
  obtain ⟨k, -, hread⟩ := h
  obtain ⟨n, whole, rest, hwhole, hfits⟩ := hcloses
  exact ⟨n, whole, rest, (hread n).symm.trans (readBracket_mono hwhole (Nat.le_add_right n k)),
    hfits⟩

/-- What comes to its end after some turns comes to its end. -/
theorem Turns.closesTo (h : Turns b outer cs b' outer' cs')
    (hcloses : ClosesTo f b' outer' cs' rest) :
    ClosesTo f b outer cs rest := by
  obtain ⟨k, hk, hread⟩ := h
  obtain ⟨n, whole, hn, hwhole, hfits⟩ := hcloses
  exact ⟨n + k, whole, by omega, (hread n).trans hwhole, hfits⟩

theorem Closes.fits (h : Closes f b outer cs) : b.Fits f ∧ ∀ o ∈ outer, o.Fits f := by
  obtain ⟨n, whole, rest, hread, hwhole⟩ := h
  exact fits_of_readBracket hread hwhole

end Turns

/-! ## §6 Characters that stand for themselves -/

/-- A first character, class or escape of a range, and what is left after it, at a place where
nothing else comes next. -/
structure Begins (cs : List Char) (first : Bracket) (rest : List Char) : Prop where
  head : ∃ c cs', cs = c :: cs' ∧ c ≠ '[' ∧ c ≠ ']' ∧ ∀ cs'', cs' = c :: cs'' → bracketOp? c = none
  range : bracketRange false cs = rangeFrom first rest
  length : rest.length < cs.length

/-- The turn of what begins a range. -/
theorem Begins.turns {cs rest rest' : List Char} {first it : Bracket} (h : Begins cs first rest)
    (hrange : rangeFrom first rest = .ok (it, rest')) (hle : rest'.length ≤ rest.length)
    (b : OpenBracket) (outer : List OpenBracket) :
    Turns b outer cs (b.add it) outer rest' := by
  obtain ⟨⟨c, cs', rfl, hopen, hclose, hop⟩, hread, hlt⟩ := h
  exact (Turn.item hopen hclose hop (hread.trans hrange)).turns (Nat.lt_of_le_of_lt hle hlt)

/-- Where a bracket comes to its end, there is an item that stands for a set, at a place where
nothing else comes next. -/
theorem Closes.item {f : Flags} {b : OpenBracket} {outer : List OpenBracket} {c : Char}
    {cs : List Char} (h : Closes f b outer (c :: cs)) (hopen : c ≠ '[') (hclose : c ≠ ']')
    (hop : ∀ cs', cs = c :: cs' → bracketOp? c = none) :
    ∃ it rest, bracketRange false (c :: cs) = .ok (it, rest) ∧ it.Fits f := by
  obtain ⟨n, whole, rest, hwhole, hfits⟩ := h
  cases n with
  | zero => cases hwhole
  | succ n =>
    rw [readBracket_item rfl hopen hclose hop] at hwhole
    obtain ⟨⟨it, rest'⟩, hrange, hwhole⟩ := bind_eq_ok_iff.mp hwhole
    exact ⟨it, rest', hrange,
      (OpenBracket.fits_add_iff.mp (fits_of_readBracket hwhole hfits).1).2⟩

/-- Where a bracket comes to its end, what begins a range is one. -/
theorem Begins.closes {cs rest : List Char} {first : Bracket} (h : Begins cs first rest) {f : Flags}
    {b : OpenBracket} {outer : List OpenBracket} (hcloses : Closes f b outer cs) :
    ∃ it rest', rangeFrom first rest = .ok (it, rest') ∧ it.Fits f := by
  obtain ⟨⟨c, cs', rfl, hopen, hclose, hop⟩, hread, -⟩ := h
  obtain ⟨it, rest', hrange, hit⟩ := hcloses.item hopen hclose hop
  exact ⟨it, rest', hread.symm.trans hrange, hit⟩

/-- Where no hyphen follows, there is no range. -/
theorem rangeFrom_alone {first : Bracket} {cs : List Char} (hne : cs ≠ [])
    (hhead : ∀ cs', cs ≠ '-' :: cs') : rangeFrom first cs = .ok (first, cs) := by
  rw [rangeFrom]
  · exact hne
  · exact hhead

/-- The first character, class or escape of a range stands for a set if the range does. -/
theorem fits_of_rangeFrom {first it : Bracket} {cs rest : List Char} {f : Flags}
    (h : rangeFrom first cs = .ok (it, rest)) (hit : it.Fits f) : first.Fits f := by
  unfold rangeFrom at h
  split at h
  · cases h
  · split at h
    · cases h
      exact hit
    · obtain ⟨⟨last, rest'⟩, -, h⟩ := bind_eq_ok_iff.mp h
      obtain ⟨r, hr, h⟩ := bind_eq_ok_iff.mp h
      cases h
      obtain ⟨a, c, rfl, -, -, rfl⟩ := Bracket.upTo_eq_ok_iff.mp hr
      exact (Bracket.fits_range_iff.mp hit).1
  · cases h
    exact hit

/-- A character without a meaning of its own is the first of a range, and so is a caret. -/
theorem begins_char {c : Char} (hc : isMeta c = false ∨ c = '^') (cs : List Char) :
    Begins (c :: cs) (.literal ⟨c, false⟩) cs := by
  have hne : ∀ d, isMeta d = true → d ≠ '^' → c ≠ d := by
    rintro d hd hcaret rfl
    rcases hc with hc | hc
    · rw [hd] at hc
      cases hc
    · exact hcaret hc
  refine ⟨⟨c, cs, rfl, hne _ rfl (by decide), hne _ rfl (by decide), fun _ _ => ?_⟩, ?_, by simp⟩
  · unfold bracketOp?
    split
    next => exact absurd rfl (hne _ rfl (by decide))
    next => exact absurd rfl (hne _ rfl (by decide))
    next => exact absurd rfl (hne _ rfl (by decide))
    next => rfl
  · rw [bracketRange_eq, bracketItem]
    · rfl
    · exact hne _ rfl (by decide)

/-- An escaped character is the first of a range. -/
theorem begins_escapeChar (c : Char) (cs : List Char) :
    Begins (escapeChar c ++ cs) (.literal ⟨c, false⟩) cs := by
  cases hc : isMeta c with
  | false =>
    have hplain : escapeChar c = [c] := by simp [escapeChar, hc]
    rw [hplain]
    exact begins_char (Or.inl hc) cs
  | true =>
    have hback : escapeChar c = ['\\', c] := by simp [escapeChar, hc]
    refine ⟨⟨'\\', c :: cs, by simp [hback], by decide, by decide, fun _ _ => rfl⟩, ?_, ?_⟩
    · rw [bracketRange_eq, bracketItem_escapeChar]
      rfl
    · simp only [hback, List.cons_append, List.nil_append, List.length_cons]
      omega

/-- No escaped character begins with a hyphen. -/
theorem escapeChar_append_ne (c : Char) (cs cs' : List Char) : escapeChar c ++ cs ≠ '-' :: cs' := by
  intro heq
  unfold escapeChar at heq
  split at heq
  · cases (List.cons.inj heq).1
  next hplain =>
    obtain ⟨rfl, -⟩ := List.cons.inj heq
    exact hplain rfl

/-- Adds characters. -/
def OpenBracket.addChars (b : OpenBracket) (w : List Char) : OpenBracket :=
  w.foldl (fun b c => b.add (.literal ⟨c, false⟩)) b

@[simp] theorem OpenBracket.addChars_cons (b : OpenBracket) (c : Char) (w : List Char) :
    b.addChars (c :: w) = (b.add (.literal ⟨c, false⟩)).addChars w := rfl

@[simp] theorem OpenBracket.negated_addChars (b : OpenBracket) (w : List Char) :
    (b.addChars w).negated = b.negated := by
  induction w generalizing b with
  | nil => rfl
  | cons c w ih => rw [addChars_cons, ih, negated_add]

/-- What characters are added to stands for a set if all characters do. -/
theorem OpenBracket.fits_addChars {f : Flags} {b : OpenBracket} (hf : f.unicode = true)
    (hb : b.Fits f) (w : List Char) : (b.addChars w).Fits f := by
  induction w generalizing b with
  | nil => exact hb
  | cons c w ih =>
    exact ih (OpenBracket.fits_add_iff.mpr ⟨hb, Bracket.fits_literal_iff.mpr (Or.inl hf)⟩)

/-- Every character that has been added to what stands for a set can stand in it. -/
theorem OpenBracket.fits_of_fits_addChars {f : Flags} {b : OpenBracket} {w : List Char}
    (h : (b.addChars w).Fits f) : b.Fits f ∧ ∀ c ∈ w, (Bracket.literal ⟨c, false⟩).Fits f := by
  induction w generalizing b with
  | nil => exact ⟨h, nofun⟩
  | cons c w ih =>
    obtain ⟨hadd, hw⟩ := ih h
    obtain ⟨hb, hc⟩ := OpenBracket.fits_add_iff.mp hadd
    exact ⟨hb, fun d hd => (List.mem_cons.mp hd).elim (fun heq => heq ▸ hc) (hw d)⟩

/-- The turns of a row of characters, each written so that it stands for itself, where something
other than a hyphen follows. -/
theorem turns_row (write : Char → List Char) (w rest : List Char)
    (hwrite : ∀ c ∈ w, ∀ cs, Begins (write c ++ cs) (.literal ⟨c, false⟩) cs ∧
      ∀ cs', write c ++ cs ≠ '-' :: cs')
    (hne : rest ≠ []) (hhead : ∀ cs', rest ≠ '-' :: cs') (b : OpenBracket)
    (outer : List OpenBracket) :
    Turns b outer (w.flatMap write ++ rest) (b.addChars w) outer rest := by
  induction w generalizing b with
  | nil => exact Turns.refl
  | cons c w ih =>
    have hrest := ih (fun d hd => hwrite d (List.mem_cons_of_mem c hd))
      (b.add (.literal ⟨c, false⟩))
    have hsplit : (c :: w).flatMap write ++ rest = write c ++ (w.flatMap write ++ rest) := by simp
    rw [hsplit]
    -- no character is the first of a range, as none of those that follow is written with a hyphen
    refine ((hwrite c (by simp) _).1.turns (rangeFrom_alone ?_ ?_) (Nat.le_refl _) b outer).trans
      hrest
    · simp [hne]
    · cases w with
      | nil => exact hhead
      | cons d w =>
        intro cs' heq
        refine (hwrite d (by simp) (w.flatMap write ++ rest)).2 cs' ?_
        simpa using heq

/-! ## §7 Named classes -/

/-- Whether a character may stand in a named class after the first colon. -/
def isClassChar (c : Char) : Bool := c.isLower || c == ':' || c == '^'

/-- The names of classes are of small letters. -/
theorem AsciiClass.isLower_of_ofName? {name : List Char} {c : AsciiClass}
    (h : AsciiClass.ofName? name = some c) : ∀ d ∈ name, d.isLower = true := by
  have hname : ∀ s : String, String.ofList name = s → name = s.toList := by
    rintro s rfl
    rw [String.toList_ofList]
  unfold AsciiClass.ofName? at h
  split at h
  -- all cases but the last are names
  case h_15 => cases h
  all_goals
    rename_i heq
    rw [hname _ heq]
    exact List.all_eq_true.mp rfl

/-- A named class after its colon and caret. -/
private def className? (negated : Bool) (cs : List Char) : Option (Bracket × List Char) :=
  match cs.span (· != ':') with
  | (name, ':' :: ']' :: rest) => (AsciiClass.ofName? name).map fun c => (.ascii c negated, rest)
  | _ => none

/-- The caret before the name of a class. -/
private def caret : List Char → Bool × List Char
  | '^' :: cs => (true, cs)
  | cs => (false, cs)

private theorem asciiClass?_colon (cs : List Char) :
    asciiClass? (':' :: cs) = className? (caret cs).1 (caret cs).2 := rfl

private theorem caret_of_ne {cs : List Char} (h : ∀ cs', cs ≠ '^' :: cs') :
    caret cs = (false, cs) := by
  rw [caret]
  exact h

/-- What follows the name of a class does not change what the class is. -/
private theorem className?_eq_some {negated : Bool} {cs rest : List Char} {item : Bracket}
    (h : className? negated cs = some (item, rest)) :
    ∃ name, cs = name ++ ':' :: ']' :: rest ∧ (∀ d ∈ name, d.isLower = true) ∧
      (∃ c, item = .ascii c negated) ∧
      ∀ rest', className? negated (name ++ ':' :: ']' :: rest') = some (item, rest') := by
  unfold className? at h
  split at h
  next name rest' hspan =>
    obtain ⟨c, hc, heq⟩ := Option.map_eq_some_iff.mp h
    cases heq
    have hlower := AsciiClass.isLower_of_ofName? hc
    have hall : ∀ d ∈ name, (d != ':') = true := by
      intro d hd
      have hd := hlower d hd
      simp only [bne_iff_ne, ne_eq]
      rintro rfl
      cases hd
    rw [List.span_eq_takeWhile_dropWhile] at hspan
    obtain ⟨htake, hdrop⟩ := Prod.mk.inj hspan
    refine ⟨name, ?_, hlower, ⟨c, rfl⟩, fun rest'' => ?_⟩
    · rw [← List.takeWhile_append_dropWhile (p := (· != ':')) (l := cs), htake, hdrop]
    · unfold className?
      rw [List.span_eq_takeWhile_dropWhile, List.takeWhile_append_of_pos hall,
        List.dropWhile_append_of_pos hall]
      simp [hc]
  · cases h

/-- A named class ends with the first closing bracket, whatever follows. -/
theorem asciiClass?_eq_some {cs rest : List Char} {item : Bracket}
    (h : asciiClass? cs = some (item, rest)) :
    ∃ k, cs = (':' :: k) ++ ']' :: rest ∧ (∀ c ∈ k, isClassChar c = true) ∧
      (∃ c negated, item = .ascii c negated) ∧
      ∀ rest', asciiClass? ((':' :: k) ++ ']' :: rest') = some (item, rest') := by
  rcases cs with _ | ⟨c, cs⟩
  · cases h
  by_cases hcolon : c = ':'
  · subst hcolon
    by_cases hcaret : ∃ cs', cs = '^' :: cs'
    · obtain ⟨cs, rfl⟩ := hcaret
      have hname : className? true cs = some (item, rest) := h
      obtain ⟨name, rfl, hlower, ⟨c, hc⟩, hread⟩ := className?_eq_some hname
      refine ⟨'^' :: (name ++ [':']), by simp, ?_, ⟨c, true, hc⟩, fun rest' => ?_⟩
      · intro d hd
        simp only [List.mem_cons, List.mem_append, List.not_mem_nil, or_false] at hd
        rcases hd with rfl | hd | rfl
        · rfl
        · simp [isClassChar, hlower d hd]
        · rfl
      · have hsplit : (':' :: '^' :: (name ++ [':'])) ++ ']' :: rest' =
            ':' :: '^' :: (name ++ ':' :: ']' :: rest') := by simp
        rw [hsplit]
        exact hread rest'
    · have hplain : ∀ cs', cs ≠ '^' :: cs' := fun cs' heq => hcaret ⟨cs', heq⟩
      rw [asciiClass?_colon, caret_of_ne hplain] at h
      obtain ⟨name, rfl, hlower, ⟨c, hc⟩, hread⟩ := className?_eq_some h
      refine ⟨name ++ [':'], by simp, ?_, ⟨c, false, hc⟩, fun rest' => ?_⟩
      · intro d hd
        simp only [List.mem_append, List.mem_singleton] at hd
        rcases hd with hd | rfl
        · simp [isClassChar, hlower d hd]
        · rfl
      · have hsplit : (':' :: (name ++ [':'])) ++ ']' :: rest' =
            ':' :: (name ++ ':' :: ']' :: rest') := by simp
        rw [hsplit, asciiClass?_colon, caret_of_ne, hread]
        intro cs' heq
        cases name with
        | nil => cases heq
        | cons d name => exact hplain _ (congrArg (· :: _) (List.cons.inj heq).1)
  · unfold asciiClass? at h
    split at h
    next heq => exact absurd (List.cons.inj heq).1 hcolon
    · cases h

end AggregateNaming.Pattern
