import AggregateNaming.Proofs.Pattern.Joining
import AggregateNaming.Proofs.RoundTrip

/-!
# Names around a base name

The names that are derived from a base name are given by one pattern: the text before the base name,
the base name as a literal, and the text after it, read as one. As long as neither text has a bar
outside of its groups, such a name has three parts: one for the text before, the base name, and one
for the text after. A bar binds less than that. The base name belongs to the last alternative of the
text before it and to the first one of the text after it, and the other alternatives stand alone.

## Main definitions

- `DerivedName.PatternsAround` : the texts around the base name are patterns by themselves.
- `DerivedName.BuiltAround` : a name is made of three parts, with the base name in the middle.

## Main statements

- `DerivedName.compile_around` : the pattern for a base name.
- `recognizes_iff_around` : the names that are recognized.
- `bars_stand_alone` : a name without the base name.
-/

namespace AggregateNaming

open Pattern

/-! ## §1 The texts around the base name -/

/-- The alternatives of a pattern without assertions have none. -/
theorem Pattern.isContextFree_of_mem_alternatives {f : Flags} {cs : List Char} {p d : Pattern}
    {ps : List Pattern} (hread : Pattern.read f cs = .ok p) (hp : p.isContextFree = true)
    (hps : readAlternatives f cs = .ok ps) (hd : d ∈ ps) : d.isContextFree = true := by
  rw [read_eq_alternateAll, hps] at hread
  cases hread
  exact hereditary_isContextFree.alternateAll_iff.mp hp d hd

namespace DerivedName

variable {o : DerivedName} {p q : Pattern}

/-- The alternatives of the text before the base name. -/
def alternativesBefore (o : DerivedName) : Except PatternError (List Pattern) :=
  readAlternatives { caseInsensitive := o.casing.isInsensitive } (o.before.getD "").toList

/-- The alternatives of the text after the base name. -/
def alternativesAfter (o : DerivedName) : Except PatternError (List Pattern) :=
  readAlternatives { caseInsensitive := o.casing.isInsensitive } (o.after.getD "").toList

/-- The texts around the base name are patterns by themselves, which turn no switches and have no
assertions. -/
structure PatternsAround (o : DerivedName) (p q : Pattern) : Prop where
  before : Pattern.read { caseInsensitive := o.casing.isInsensitive }
    (o.before.getD "").toList = .ok p
  after : Pattern.read { caseInsensitive := o.casing.isInsensitive }
    (o.after.getD "").toList = .ok q
  beforeSwitchless : Switchless (o.before.getD "").toList
  afterSwitchless : Switchless (o.after.getD "").toList
  beforeContextFree : p.isContextFree = true
  afterContextFree : q.isContextFree = true

/-- A name is made of a part for each of two patterns, and of the base name between them, as the
policy wants it written. -/
def BuiltAround (o : DerivedName) (base : String) (p q : Pattern) (name : String) : Prop :=
  ∃ u v w, name.toList = u ++ v ++ w ∧ p.MatchesWhole u ∧
    o.casing.Meets (o.casing.foldChars base.toList) v ∧ q.MatchesWhole w

/-- The texts around the base name, with the base name between them. -/
theorem textAround_eq (o : DerivedName) (base : String) :
    o.before.getD "" ++ o.casing.literal base ++ o.after.getD "" =
      .ofList ((o.before.getD "").toList ++ escapeChars (o.casing.foldChars base.toList) ++
        (o.after.getD "").toList) := by
  rw [String.ofList_append, String.ofList_append, String.ofList_toList, String.ofList_toList]
  rfl

/-- What is matched where a literal stands between two patterns. -/
theorem matchesWhole_between_iff {base : String} {b a : Pattern} (hb : b.isContextFree = true)
    (ha : a.isContextFree = true) {name : String} :
    (Pattern.concat (.concat b (concatAll (charRow { caseInsensitive := o.casing.isInsensitive }
      (o.casing.foldChars base.toList)))) a).MatchesWhole name.toList ↔
      o.BuiltAround base b a name := by
  have hliteral : (concatAll (charRow { caseInsensitive := o.casing.isInsensitive }
      (o.casing.foldChars base.toList))).isContextFree = true :=
    hereditary_isContextFree.concatAll_iff.mpr fun _ => isContextFree_of_mem_charRow
  have hfront : (Pattern.concat b (concatAll (charRow { caseInsensitive := o.casing.isInsensitive }
      (o.casing.foldChars base.toList)))).isContextFree = true := by
    rw [isContextFree, hb, hliteral]
    rfl
  rw [matchesWhole_concat_iff hfront ha]
  simp only [matchesWhole_concat_iff hb hliteral, matchesWhole_charRow_iff]
  constructor
  · rintro ⟨_, w, hname, ⟨u, v, rfl, hu, hv⟩, hw⟩
    exact ⟨u, v, w, hname, hu, hv, hw⟩
  · rintro ⟨u, v, w, hname, hu, hv, hw⟩
    exact ⟨u ++ v, w, hname, ⟨u, v, rfl, hu, hv⟩, hw⟩

/-! ## §2 The pattern for a base name -/

/-- Texts that make a pattern with the probe between them make one with every base name. It matches
what one of the alternatives before or after matches, or what is made of three parts. -/
theorem compile_around (hvalid : o.Valid) (haround : o.PatternsAround p q) (base : String) :
    ∃ bs b a as pat, o.alternativesBefore = .ok (bs ++ [b]) ∧ o.alternativesAfter = .ok (a :: as) ∧
      NamePattern.compile o.casing
        (o.before.getD "" ++ o.casing.literal base ++ o.after.getD "") = .ok pat ∧
      ∀ name, pat.accepts name = true ↔
        (∃ d ∈ bs ++ as, d.MatchesWhole name.toList) ∨ o.BuiltAround base b a name := by
  obtain ⟨us, hus⟩ := haround.beforeSwitchless.exists_tokens
  obtain ⟨vs, hvs⟩ := haround.afterSwitchless.exists_tokens
  obtain ⟨u, hu, hustack, hbefore⟩ := exists_steps_of_read rfl hus haround.before
  obtain ⟨v, hv, hvstack, hafter⟩ := exists_steps_of_read rfl hvs haround.after
  have htokens : ∀ w, Tokens ((o.before.getD "").toList ++ escapeChars w ++
      (o.after.getD "").toList) (tokensAround us w vs) := hus.around hvs (quiet_of_steps hvs hv)
  -- the probe has shown that no name of a group is used for a second time
  have hfresh : ∀ n ∈ u.names, .openGroup (.capture (some n)) ∉ vs := by
    obtain ⟨pat, hpat⟩ := hvalid.around
    rw [textAround_eq] at hpat
    obtain ⟨c, hc⟩ := NamePattern.exists_steps_of_compile (htokens _) hpat
    exact named_notMem_of_around hu hc
  obtain ⟨c, hc, hcstack, hbehind⟩ := exists_joined (o.casing.foldChars base.toList) hus.still hu
    hustack hv hvstack hfresh
  obtain ⟨pat, hpat, hpattern⟩ := NamePattern.compile_of_steps (htokens _) hc hcstack
  obtain ⟨a, as, has⟩ := List.exists_cons_of_ne_nil
    (l := v.body.bar.alternatives.reverse) (by simp [Body.bar])
  have hbs : u.body.bar.alternatives.reverse =
      u.body.alternatives.reverse ++ [Body.row u.body.pieces] := List.reverse_cons
  rw [hbs] at hbefore
  rw [has] at hafter
  refine ⟨_, _, a, as, pat, hbefore, hafter, ?_, fun name => ?_⟩
  · rw [textAround_eq]
    exact hpat
  have hb := isContextFree_of_mem_alternatives haround.before haround.beforeContextFree hbefore
    (List.mem_append_right _ (List.mem_singleton_self _))
  have ha := isContextFree_of_mem_alternatives haround.after haround.afterContextFree hafter
    List.mem_cons_self
  have hflags : u.flags = { caseInsensitive := o.casing.isInsensitive } :=
    ((ReadState.Under.start _).steps hus.still hu).flags
  -- the literal continues the last alternative of the text before it
  have hseam : Spans name.toList (.concat (Body.row (u.addChars (o.casing.foldChars
      base.toList)).body.pieces) a) 0 name.toList.length ↔
      o.BuiltAround base (Body.row u.body.pieces) a name := by
    rw [← matchesWhole_between_iff hb ha, ← hflags]
    exact (sameSpans_row_addChars name.toList _).concat (.refl a) 0 name.toList.length
  have hothers : (∃ d ∈ u.body.alternatives.reverse ++ as, d.MatchesWhole name.toList) ↔
      (∃ d ∈ u.body.alternatives, d.MatchesWhole name.toList) ∨
        ∃ d ∈ as, d.MatchesWhole name.toList := by
    simp only [List.mem_append, List.mem_reverse, or_and_right, exists_or]
  have hmatches := (hbehind name.toList).spans_toPattern_iff has (i := 0) (k := name.toList.length)
  rw [ReadState.alternatives_addChars, hseam] at hmatches
  rw [NamePattern.accepts, hpattern, accepts_marked_iff, hothers]
  exact hmatches.trans (or_assoc.symm.trans or_right_comm)

end DerivedName

/-! ## §3 The names that are recognized -/

/-- Where validation is passed and the texts around the base name are patterns by themselves, without
switches and assertions, every name with a base name has a recognizer. It recognizes the names that
are made of a part for the last alternative before, the base name, and a part for the first
alternative after; and whatever one of the other alternatives matches as a whole. Where there is no
other alternative, these are the names made of a part for the text before, the base name, and a part
for the text after. -/
theorem recognizes_iff_around {o : DerivedName} {p q : Pattern} (recorder : Recorder)
    (hvalid : (o.check.run recorder).1 = true) (haround : o.PatternsAround p q)
    {basis base : String} (hbase : o.base? basis = some base) :
    ∃ bs b a as r, o.alternativesBefore = .ok (bs ++ [b]) ∧ o.alternativesAfter = .ok (a :: as) ∧
      o.recognizer basis = .ok r ∧
      (∀ name, r.recognizes name = true ↔
        (∃ d ∈ bs ++ as, d.MatchesWhole name.toList) ∨ o.BuiltAround base b a name) ∧
      (bs = [] → as = [] →
        ∀ name, r.recognizes name = true ↔ o.BuiltAround base p q name) := by
  obtain ⟨bs, b, a, as, pat, hbefore, hafter, hpat, haccepts⟩ :=
    DerivedName.compile_around ((o.check_decides recorder).mp hvalid) haround base
  have hrecognizer : o.recognizer basis = .ok (.single o.id pat) := by
    rw [DerivedName.recognizer_of_base? hbase, DerivedName.recognizerWith_none, hpat]
  have hrecognizes : ∀ name, (Recognizer.single o.id pat).recognizes name = true ↔
      (∃ d ∈ bs ++ as, d.MatchesWhole name.toList) ∨ o.BuiltAround base b a name :=
    fun name => Recognizer.recognizes_single_iff.trans (haccepts name)
  refine ⟨bs, b, a, as, _, hbefore, hafter, hrecognizer, hrecognizes, ?_⟩
  rintro rfl rfl name
  -- the one alternative is the whole text
  have hp : b = p := by
    have hread := (read_eq_alternateAll _ _).symm.trans haround.before
    change o.alternativesBefore.map alternateAll = .ok p at hread
    rw [hbefore] at hread
    exact Except.ok.inj hread
  have hq : a = q := by
    have hread := (read_eq_alternateAll _ _).symm.trans haround.after
    change o.alternativesAfter.map alternateAll = .ok q at hread
    rw [hafter] at hread
    exact Except.ok.inj hread
  rw [hrecognizes name, hp, hq]
  simp

/-- Fact tables with a number, and a name that stands alone before them. -/
def numberedTable : DerivedName where
  casing := .exact
  basename := some "a_(.*)"
  before := some "d_|f_"
  after := some "\\d"

/-- The fact table of a base name is recognized, and so is the name that stands alone. -/
theorem numberedTable_recognizes :
    (numberedTable.check.run {}).1 = true ∧ numberedTable.base? "a_x" = some "x" ∧
      ∃ p q r, numberedTable.PatternsAround p q ∧ numberedTable.recognizer "a_x" = .ok r ∧
        r.recognizes "f_x7" = true ∧ r.recognizes "d_" = true := by
  have hvalid : (numberedTable.check.run {}).1 = true := by decide +kernel
  have hbase : numberedTable.base? "a_x" = some "x" := by decide +kernel
  obtain ⟨p, q, haround⟩ : ∃ p q, numberedTable.PatternsAround p q := ⟨_, _, rfl, rfl,
    .token rfl rfl (.token rfl rfl (.token rfl rfl (.token rfl rfl (.token rfl rfl .nil)))),
    .token rfl rfl .nil, rfl, rfl⟩
  obtain ⟨bs, b, a, as, r, hbefore, hafter, hr, hrecognizes, -⟩ :=
    recognizes_iff_around {} hvalid haround hbase
  -- the bar parts the text before in two, and there is one alternative after
  have hletters : numberedTable.alternativesBefore =
      .ok ([.concat (.set (.single 'd')) (.set (.single '_'))] ++
        [.concat (.set (.single 'f')) (.set (.single '_'))]) := rfl
  have hdigit : numberedTable.alternativesAfter = .ok [.set (.table Text.digits)] := rfl
  obtain ⟨rfl, hb⟩ := List.append_inj' (Except.ok.inj (hbefore.symm.trans hletters)) rfl
  cases hb
  cases Except.ok.inj (hafter.symm.trans hdigit)
  refine ⟨hvalid, hbase, p, q, r, haround, hr, (hrecognizes _).mpr (.inr ?_),
    (hrecognizes _).mpr (.inl ?_)⟩
  · refine ⟨['f', '_'], ['x'], ['7'], rfl, ?_, rfl, .set rfl (by decide +kernel)⟩
    exact .concat (.set rfl rfl) (.set rfl rfl)
  · exact ⟨_, List.mem_singleton_self _, .concat (.set rfl rfl) (.set rfl rfl)⟩

/-- A bar before the base name. -/
def barBefore : DerivedName where
  casing := .exact
  before := some "a|b"

/-- What a bar before the base name parts off is recognized without the base name, and it is not
recognized with it. -/
theorem bars_stand_alone : (barBefore.check.run {}).1 = true ∧
    barBefore.base? "x" = some "x" ∧ ∃ p q r, barBefore.PatternsAround p q ∧
      barBefore.recognizer "x" = .ok r ∧
      r.recognizes "a" = true ∧ ¬barBefore.BuiltAround "x" p q "a" ∧
      r.recognizes "ax" = false ∧ barBefore.BuiltAround "x" p q "ax" := by
  have haround : barBefore.PatternsAround
      (.alternate (.set (.single 'a')) (.set (.single 'b'))) .empty :=
    ⟨rfl, rfl, .token rfl rfl (.token rfl rfl (.token rfl rfl .nil)), .nil, rfl, rfl⟩
  refine ⟨by decide +kernel, rfl, _, _, _, haround, rfl, by decide +kernel, ?_, by decide +kernel,
    ?_⟩
  · rintro ⟨u, v, w, hname, -, hv, -⟩
    -- the base name is in no name without its letter
    have hx : 'x' ∈ "a".toList := by
      rw [hname, show v = ['x'] from hv]
      simp
    exact absurd hx (by decide)
  · exact ⟨['a'], ['x'], [], rfl, .left (.set rfl rfl), rfl, .empty (Nat.le_refl 0)⟩

end AggregateNaming
