import AggregateNaming.Document.Read
import AggregateNaming.Proofs.Fallible
import AggregateNaming.Proofs.Registration
import Mathlib.Data.List.Forall2

/-!
# What documents describe

A rule set says neither more nor less than the document that it is compiled from, and a document that
describes no rule set is refused for the first of its faults. What a document describes is said here
field by field, and its faults are listed in the order in which they are come across; nothing in either
looks at how documents are compiled.

## Main definitions

- `Casing.IsNamedBy` : a text names a policy.
- `Kind.Describes`, `RuleEntry.Describes`, `Document.Describes` : what entries and documents describe.
- `Document.faults` : everything that is wrong with a document.
- `Settles` : a computation fails with the first of a list of faults, or else its result fits.

## Main statements

- `Document.compile_settles` : compiling a document.
- `Document.faults_eq_nil_iff` : when there is nothing wrong with a document.
- `Document.Describes.unique` : a document describes one rule set at most.
- `Document.compiles_to_described` : all of it together, from the text of a document on.
-/

namespace AggregateNaming

/-! ## §1 What is described -/

/-- A text names a policy when it is the name of the policy, up to blanks around it and the case of
ASCII letters. -/
def Casing.IsNamedBy (c : Casing) (token : String) : Prop :=
  (Text.trimChars token.toList).map Char.toLower = c.token.toList

instance (c : Casing) (token : String) : Decidable (c.IsNamedBy token) :=
  inferInstanceAs (Decidable (_ = _))

/-- A policy is given by name, or none is given. -/
def Casing.Given (token : Option String) (given : Option Casing) : Prop :=
  Option.Rel (fun t c => Casing.IsNamedBy c t) token given

/-- What is said of one name describes an object. Case does not count unless told otherwise. -/
structure FixedNameEntry.Describes (e : FixedNameEntry) (o : FixedName) : Prop where
  id : o.id = e.id
  enabled : o.enabled = e.enabled
  casing : ∃ given, Casing.Given e.casing given ∧ o.casing = given.getD .ignore
  name : o.name = e.name.getD "fact_count"

/-- What is said of derived names describes an object. Case does not count unless told otherwise. -/
structure DerivedNameEntry.Describes (e : DerivedNameEntry) (o : DerivedName) : Prop where
  id : o.id = e.id
  enabled : o.enabled = e.enabled
  casing : ∃ given, Casing.Given e.casing given ∧ o.casing = given.getD .ignore
  basename : o.basename = e.basename
  before : o.before = e.before
  after : o.after = e.after

/-- What is said of a template describes one. A template without a policy of its own stays without. -/
structure TemplateEntry.Describes (e : TemplateEntry) (t : Template) : Prop where
  id : t.id = e.id
  enabled : t.enabled = e.enabled
  casing : Casing.Given e.casing t.casing
  text : t.text = e.text
  space : t.space = e.space
  dot : t.dot = e.dot

/-- What is said of names by templates describes an object, with its templates in the same order. -/
structure TemplateMapEntry.Describes (e : TemplateMapEntry) (o : TemplateMap) : Prop where
  id : o.id = e.id
  enabled : o.enabled = e.enabled
  casing : Casing.Given e.casing o.casing
  templates : List.Forall₂ TemplateEntry.Describes e.templates o.templates

/-- What is said of an object of a kind describes one. -/
def Kind.Describes : (k : Kind) → k.Entry → k.Object → Prop
  | factCount => FixedNameEntry.Describes
  | foreignKey => DerivedNameEntry.Describes
  | table => DerivedNameEntry.Describes
  | level => TemplateMapEntry.Describes
  | measure => TemplateMapEntry.Describes
  | ignore => TemplateMapEntry.Describes

/-- What is said of a slot describes one that has not been bound. -/
structure SlotEntry.Describes {k : Kind} (e : SlotEntry k) (s : Slot k) : Prop where
  inlined : Option.Rel k.Describes e.inlined s.inlined
  reference : s.reference = e.reference
  unbound : s.bound = none

/-- What is said of a rule describes one. -/
structure RuleEntry.Describes (e : RuleEntry) (r : Rule) : Prop where
  tag : r.tag = e.tag
  isDefault : r.isDefault = e.isDefault
  enabled : r.enabled = e.enabled
  countColumn : r.countColumn = e.countColumn
  slots : ∀ k, (e.slots k).Describes (r.slots k)

/-- A document describes a rule set. A pool has its objects in an order of its own, but one for each
entry and no others; the rules come in the order of the document. -/
structure Document.Describes (d : Document) (s : RuleSet) : Prop where
  tag : s.tag = d.tag.getD "default"
  pools : ∀ k, ∃ objects, List.Forall₂ k.Describes (d.pools k) objects ∧
    (s.pools k).objects.Perm objects
  rules : List.Forall₂ RuleEntry.Describes d.rules s.rules

/-! ## §2 What may be wrong -/

/-- The id of an entry. -/
def Kind.entryId : (k : Kind) → k.Entry → String
  | factCount, e => FixedNameEntry.id e
  | foreignKey, e => DerivedNameEntry.id e
  | table, e => DerivedNameEntry.id e
  | level, e => TemplateMapEntry.id e
  | measure, e => TemplateMapEntry.id e
  | ignore, e => TemplateMapEntry.id e

/-- The names of policies given for templates, that of all of them first. -/
def TemplateMapEntry.tokens (e : TemplateMapEntry) : List String :=
  e.casing.toList ++ e.templates.flatMap fun t => t.casing.toList

/-- The names of policies given in an entry. -/
def Kind.tokens : (k : Kind) → k.Entry → List String
  | factCount, e => (FixedNameEntry.casing e).toList
  | foreignKey, e => (DerivedNameEntry.casing e).toList
  | table, e => (DerivedNameEntry.casing e).toList
  | level, e => TemplateMapEntry.tokens e
  | measure, e => TemplateMapEntry.tokens e
  | ignore, e => TemplateMapEntry.tokens e

/-- The names of policies given in a rule: those of the objects in its slots, enabled or not. -/
def RuleEntry.tokens (e : RuleEntry) : List String :=
  Kind.slotOrder.flatMap fun k => (e.slots k).inlined.toList.flatMap k.tokens

/-- The names of policies given in a document. -/
def Document.tokens (d : Document) : List String :=
  (Kind.all.flatMap fun k => (d.pools k).flatMap k.tokens) ++ d.rules.flatMap RuleEntry.tokens

/-- A name of a policy that there is none of is a fault. -/
def tokenFaults (token : String) : List DocumentError :=
  if ∃ c ∈ Casing.all, c.IsNamedBy token then [] else [.unknownCasing ⟨token⟩]

/-- A pooled object without an id is at fault, and so is one with the id of an earlier one. -/
def idFaults (k : Kind) (earlier : List String) (id : String) : List DocumentError :=
  if Text.isBlankText id then [.blankId k]
  else if id ∈ earlier then [.duplicateId k id]
  else []

/-- The faults of the entries of a pool, after `earlier` ones: entry by entry, what is wrong with it
first and what is wrong with its id then. -/
def poolFaults (k : Kind) : (earlier : List k.Entry) → List k.Entry → List DocumentError
  | _, [] => []
  | earlier, e :: es =>
    ((k.tokens e).flatMap tokenFaults ++ idFaults k (earlier.map k.entryId) (k.entryId e))
      ++ poolFaults k (earlier ++ [e]) es

/-- The faults of a document, in the order in which they are come across: pool after pool, and then
rule after rule. -/
def Document.faults (d : Document) : List DocumentError :=
  (Kind.all.flatMap fun k => poolFaults k [] (d.pools k))
    ++ d.rules.flatMap fun e => e.tokens.flatMap tokenFaults

/-! ## §3 The first fault counts -/

/-- A computation fails with the first of a list of faults; without faults, its result fits. -/
def Settles (x : Except ε α) (faults : List ε) (fits : α → Prop) : Prop :=
  match x with
  | .ok a => faults = [] ∧ fits a
  | .error e => faults.head? = some e

namespace Settles

variable {α β σ ε : Type} {x : Except ε α} {faults more : List ε} {fits : α → Prop}

theorem ok {a : α} (h : fits a) : Settles (.ok a : Except ε α) [] fits := ⟨rfl, h⟩

theorem error {e : ε} : Settles (.error e : Except ε α) (e :: more) fits := rfl

theorem mono {fits' : α → Prop} (h : Settles x faults fits) (himp : ∀ a, fits a → fits' a) :
    Settles x faults fits' := by
  cases x with
  | error e => exact h
  | ok a => exact ⟨h.1, himp a h.2⟩

/-- The faults of one computation come before those of the next. -/
theorem bind {f : α → Except ε β} {fits' : β → Prop} (hx : Settles x faults fits)
    (hf : ∀ a, fits a → Settles (f a) more fits') : Settles (x >>= f) (faults ++ more) fits' := by
  cases x with
  | error e =>
    -- the first fault is there already
    change (faults ++ more).head? = some e
    rw [List.head?_append, show faults.head? = some e from hx]
    rfl
  | ok a =>
    obtain ⟨rfl, ha⟩ := hx
    exact hf a ha

/-- What is made of the result of a computation has the faults of the computation. -/
theorem map {f : α → β} {fits' : β → Prop} (hx : Settles x faults fits)
    (hf : ∀ a, fits a → fits' (f a)) : Settles (do return f (← x)) faults fits' := by
  rw [← List.append_nil faults]
  exact hx.bind fun a ha => .ok (hf a ha)

/-- A list of computations has the faults of all of them. -/
theorem mapM {f : α → Except ε β} {faults : α → List ε} {R : α → β → Prop}
    (h : ∀ a, Settles (f a) (faults a) (R a)) (xs : List α) :
    Settles (xs.mapM f) (xs.flatMap faults) (List.Forall₂ R xs) := by
  induction xs with
  | nil => exact .ok .nil
  | cons a xs ih =>
    rw [List.mapM_cons, List.flatMap_cons]
    exact (h a).bind fun b hb => ih.map fun bs hbs => .cons hb hbs

/-- A computation that is repeated: what each turn finds at fault may depend on the earlier ones. -/
theorem foldlM {step : σ → α → Except ε σ} {xs : List α} {s : σ} (Inv : List α → σ → Prop)
    (faults : List α → List α → List ε) (own : List α → α → List ε)
    (hnil : ∀ done, faults done [] = [])
    (hcons : ∀ done a rest, faults done (a :: rest) = own done a ++ faults (done ++ [a]) rest)
    (hstep : ∀ done a s, done ++ [a] <+: xs → Inv done s →
      Settles (step s a) (own done a) (Inv (done ++ [a])))
    (hs : Inv [] s) : Settles (xs.foldlM step s) (faults [] xs) (Inv xs) := by
  -- by what is left, with what is done before it
  suffices hall : ∀ rest done s, done ++ rest = xs → Inv done s →
      Settles (rest.foldlM step s) (faults done rest) (Inv xs) from hall xs [] s rfl hs
  intro rest
  induction rest with
  | nil =>
    rintro done s rfl hs
    rw [hnil]
    exact .ok (by rwa [List.append_nil])
  | cons a rest ih =>
    intro done s hxs hs
    have hprefix : done ++ [a] ++ rest = xs := by rw [← hxs, List.append_assoc]; rfl
    rw [hcons, List.foldlM_cons]
    exact (hstep done a s ⟨rest, hprefix⟩ hs).bind fun s' hs' => ih (done ++ [a]) s' hprefix hs'

/-- A computation for every kind has the faults of all of them, in the order of the slots. -/
theorem forEach {β : Kind → Type} {compute : (k : Kind) → Except ε (β k)} {faults : Kind → List ε}
    {fits : (k : Kind) → β k → Prop} (h : ∀ k, Settles (compute k) (faults k) (fits k)) :
    Settles (Kind.forEach compute) (Kind.slotOrder.flatMap faults) fun f => ∀ k, fits k (f k) := by
  simp only [Kind.slotOrder, List.flatMap_cons, List.flatMap_nil, List.append_nil]
  refine (h .ignore).bind fun ofIgnore hignore => (h .factCount).bind fun ofFactCount hfactCount =>
    (h .foreignKey).bind fun ofForeignKey hforeignKey => (h .table).bind fun ofTable htable =>
    (h .level).bind fun ofLevel hlevel => (h .measure).map fun ofMeasure hmeasure k => ?_
  cases k <;> assumption

theorem eq_error_iff (h : Settles x faults fits) {e : ε} : x = .error e ↔ faults.head? = some e := by
  cases x with
  | error e' =>
    rw [show faults.head? = some e' from h, Except.error.injEq, Option.some.injEq]
  | ok a =>
    rw [h.1]
    exact iff_of_false nofun nofun

theorem exists_ok_iff (h : Settles x faults fits) : (∃ a, x = .ok a) ↔ faults = [] := by
  cases x with
  | error e =>
    refine iff_of_false nofun fun hnil => ?_
    rw [hnil] at h
    cases h
  | ok a => exact iff_of_true ⟨a, rfl⟩ h.1

theorem fits_of_ok (h : Settles x faults fits) {a : α} (ha : x = .ok a) : fits a := by
  subst ha
  exact h.2

end Settles

/-! ## §4 Entries -/

/-- The test for the name of a policy. -/
theorem Casing.sameAsciiLetters_iff {c : Casing} {token : String} :
    sameAsciiLetters (Text.trimChars token.toList) c.token.toList = true ↔ c.IsNamedBy token := by
  have hsmall : c.token.toList.map Char.toLower = c.token.toList := by cases c <;> rfl
  rw [sameAsciiLetters, beq_iff_eq, hsmall]
  rfl

/-- Reading the name of a policy. -/
theorem Casing.parse?_settles (token : String) :
    match Casing.parse? token with
    | .ok c => c.IsNamedBy token
    | .error u => u = ⟨token⟩ ∧ ∀ c ∈ Casing.all, ¬c.IsNamedBy token := by
  unfold parse?
  cases hfind : all.find? fun c => sameAsciiLetters (Text.trimChars token.toList) c.token.toList with
  | some c =>
    have hsame := List.find?_some (p := fun c => sameAsciiLetters _ (Casing.token c).toList) hfind
    exact sameAsciiLetters_iff.mp hsame
  | none =>
    refine ⟨rfl, fun c hc hnamed => ?_⟩
    exact List.find?_eq_none.mp hfind c hc (sameAsciiLetters_iff.mpr hnamed)

theorem compileCasing_settles (token : Option String) :
    Settles (compileCasing token) (token.toList.flatMap tokenFaults) (Casing.Given token) := by
  cases token with
  | none => exact .ok .none
  | some token =>
    have hparse := Casing.parse?_settles token
    rw [Option.toList_some, List.flatMap_singleton, tokenFaults, compileCasing]
    cases hread : Casing.parse? token with
    | ok c =>
      rw [hread] at hparse
      have hall : c ∈ Casing.all := by cases c <;> decide
      rw [if_pos ⟨c, hall, hparse⟩]
      exact .ok (.some hparse)
    | error u =>
      rw [hread] at hparse
      obtain ⟨rfl, hnone⟩ := hparse
      rw [if_neg fun ⟨c, hc, hnamed⟩ => hnone c hc hnamed]
      exact .error

theorem FixedNameEntry.compile_settles (e : FixedNameEntry) :
    Settles e.compile (e.casing.toList.flatMap tokenFaults) e.Describes :=
  (compileCasing_settles e.casing).map fun given hgiven => ⟨rfl, rfl, ⟨given, hgiven, rfl⟩, rfl⟩

theorem DerivedNameEntry.compile_settles (e : DerivedNameEntry) :
    Settles e.compile (e.casing.toList.flatMap tokenFaults) e.Describes :=
  (compileCasing_settles e.casing).map fun given hgiven =>
    ⟨rfl, rfl, ⟨given, hgiven, rfl⟩, rfl, rfl, rfl⟩

theorem TemplateEntry.compile_settles (e : TemplateEntry) :
    Settles e.compile (e.casing.toList.flatMap tokenFaults) e.Describes :=
  (compileCasing_settles e.casing).map fun _ hgiven => ⟨rfl, rfl, hgiven, rfl, rfl, rfl⟩

theorem TemplateMapEntry.compile_settles (e : TemplateMapEntry) :
    Settles e.compile (e.tokens.flatMap tokenFaults) e.Describes := by
  rw [tokens, List.flatMap_append, List.flatMap_assoc]
  exact (compileCasing_settles e.casing).bind fun given hgiven =>
    (Settles.mapM TemplateEntry.compile_settles e.templates).map fun templates htemplates =>
      ⟨rfl, rfl, hgiven, htemplates⟩

/-- What an entry describes is made of it, unless it names a policy that there is none of. -/
theorem Kind.compile_settles (k : Kind) (e : k.Entry) :
    Settles (k.compile e) ((k.tokens e).flatMap tokenFaults) (k.Describes e) := by
  cases k with
  | factCount => exact FixedNameEntry.compile_settles e
  | foreignKey => exact DerivedNameEntry.compile_settles e
  | table => exact DerivedNameEntry.compile_settles e
  | level => exact TemplateMapEntry.compile_settles e
  | measure => exact TemplateMapEntry.compile_settles e
  | ignore => exact TemplateMapEntry.compile_settles e

/-- An object has the id of the entry that describes it. -/
theorem Kind.Describes.idOf_eq {k : Kind} {e : k.Entry} {o : k.Object} (h : k.Describes e o) :
    k.idOf o = k.entryId e := by
  cases k with
  | factCount => exact FixedNameEntry.Describes.id h
  | foreignKey => exact DerivedNameEntry.Describes.id h
  | table => exact DerivedNameEntry.Describes.id h
  | level => exact TemplateMapEntry.Describes.id h
  | measure => exact TemplateMapEntry.Describes.id h
  | ignore => exact TemplateMapEntry.Describes.id h

theorem SlotEntry.compile_settles {k : Kind} (e : SlotEntry k) :
    Settles e.compile ((e.inlined.toList.flatMap k.tokens).flatMap tokenFaults) e.Describes := by
  obtain ⟨inlined, reference⟩ := e
  cases inlined with
  | none => exact .ok ⟨.none, rfl, rfl⟩
  | some o =>
    rw [Option.toList_some, List.flatMap_singleton]
    exact (k.compile_settles o).map fun o' ho => ⟨.some ho, rfl, rfl⟩

theorem RuleEntry.compile_settles (e : RuleEntry) :
    Settles e.compile (e.tokens.flatMap tokenFaults) e.Describes := by
  rw [tokens, List.flatMap_assoc]
  exact (Settles.forEach fun k => (e.slots k).compile_settles).map fun slots hslots =>
    ⟨rfl, rfl, rfl, rfl, hslots⟩

/-! ## §5 Pools -/

/-- A rule set with the objects that some entries of a kind describe, and with nothing else new. -/
structure PoolHolds (k : Kind) (old : RuleSet) (entries : List k.Entry) (s : RuleSet) : Prop where
  objects : ∃ objects, List.Forall₂ k.Describes entries objects ∧ (s.pools k).objects.Perm objects
  others : ∀ k', k' ≠ k → s.pools k' = old.pools k'
  tag : s.tag = old.tag

/-- The ids of objects are those of the entries that describe them. -/
theorem Kind.map_idOf_of_describes {k : Kind} {entries : List k.Entry} {objects : List k.Object}
    (h : List.Forall₂ k.Describes entries objects) : objects.map k.idOf = entries.map k.entryId := by
  induction h with
  | nil => rfl
  | cons ho _ ih => rw [List.map_cons, List.map_cons, ho.idOf_eq, ih]

namespace PoolHolds

variable {k : Kind} {old s : RuleSet} {entries : List k.Entry}

/-- An id is free as long as no entry has it. -/
theorem find?_eq_none_iff (h : PoolHolds k old entries s) (id : String) :
    (s.pools k).find? id = none ↔ id ∉ entries.map k.entryId := by
  obtain ⟨objects, hdescribes, hperm⟩ := h.objects
  rw [← Kind.map_idOf_of_describes hdescribes, ← (hperm.map k.idOf).mem_iff, Pool.find?,
    List.find?_eq_none]
  simp

/-- An entry more, with the object that it describes. -/
theorem insert (h : PoolHolds k old entries s) {e : k.Entry} {o : k.Object} (ho : k.Describes e o)
    (named : Text.isBlankText (k.idOf o) = false) (isNew : (s.pools k).find? (k.idOf o) = none) :
    PoolHolds k old (entries ++ [e]) (s.withPool k ((s.pools k).insert o named isNew)) where
  objects := by
    obtain ⟨objects, hdescribes, hperm⟩ := h.objects
    have hpool : (s.withPool k ((s.pools k).insert o named isNew)).pools k =
        (s.pools k).insert o named isNew := by
      simp [RuleSet.withPool]
    refine ⟨objects ++ [o], List.rel_append hdescribes (.cons ho .nil), ?_⟩
    rw [hpool]
    exact ((Pool.perm_insertSorted o _).trans (hperm.cons o)).trans
      (List.perm_append_singleton o objects).symm
  others k' hk' := by
    rw [← h.others k' hk']
    simp [RuleSet.withPool, Ne.symm hk']
  tag := h.tag

end PoolHolds

/-- An object is added to the pool of its kind, unless something is wrong with its id. -/
theorem RuleSet.add_settles {k : Kind} {s : RuleSet} {o : k.Object} {earlier : List String}
    (hfree : (s.pools k).find? (k.idOf o) = none ↔ k.idOf o ∉ earlier) :
    Settles (match s.add k o with
        | .ok s' => .ok s'
        | .error .blankId => .error (.blankId k)
        | .error (.takenId id) => .error (.duplicateId k id))
      (idFaults k earlier (k.idOf o))
      fun s' => ∃ named isNew, s' = s.withPool k ((s.pools k).insert o named isNew) := by
  unfold RuleSet.add Pool.add idFaults
  by_cases hblank : Text.isBlankText (k.idOf o) = true
  · rw [dif_pos hblank, if_pos hblank]
    exact .error
  rw [dif_neg hblank, if_neg hblank]
  by_cases hnew : (s.pools k).find? (k.idOf o) = none
  · rw [dif_pos hnew, if_neg (hfree.mp hnew)]
    exact .ok ⟨by simpa using hblank, hnew, rfl⟩
  · rw [dif_neg hnew, if_pos (not_not.mp fun hmem => hnew (hfree.mpr hmem))]
    exact .error

namespace Document

/-- The object of one more entry is added, unless something is wrong with it or with its id. -/
theorem addEntry_settles {k : Kind} {old s : RuleSet} {entries : List k.Entry}
    (hs : PoolHolds k old entries s) (e : k.Entry) :
    Settles (addEntry k s e)
      ((k.tokens e).flatMap tokenFaults ++ idFaults k (entries.map k.entryId) (k.entryId e))
      (PoolHolds k old (entries ++ [e])) := by
  refine (k.compile_settles e).bind fun o ho => ?_
  rw [← ho.idOf_eq]
  refine (RuleSet.add_settles (hs.find?_eq_none_iff _)).mono ?_
  rintro _ ⟨named, isNew, rfl⟩
  exact hs.insert ho named isNew

/-- The objects of a pool are added, entry by entry. -/
theorem addPool_settles {pools : (k : Kind) → List k.Entry} {old : RuleSet} {k : Kind}
    (hempty : (old.pools k).objects = []) :
    Settles (addPool pools old k) (poolFaults k [] (pools k)) (PoolHolds k old (pools k)) := by
  have hstart : PoolHolds k old [] old :=
    ⟨⟨[], .nil, by rw [hempty]⟩, fun _ _ => rfl, rfl⟩
  exact Settles.foldlM (PoolHolds k old) (poolFaults k) _ (fun done => rfl) (fun done e es => rfl)
    (fun done e s _ hs => addEntry_settles hs e) hstart

/-- The pools of some kinds hold what is described, and those of the others hold nothing. -/
structure PoolsHold (d : Document) (kinds : List Kind) (s : RuleSet) : Prop where
  tag : s.tag = d.tag.getD "default"
  held : ∀ k ∈ kinds, ∃ objects, List.Forall₂ k.Describes (d.pools k) objects ∧
    (s.pools k).objects.Perm objects
  empty : ∀ k, k ∉ kinds → (s.pools k).objects = []

/-- The pools are filled kind by kind, each of them once. -/
theorem addPools_settles (d : Document) :
    Settles (Kind.all.foldlM (addPool d.pools) { tag := d.tag.getD defaultTag })
      (Kind.all.flatMap fun k => poolFaults k [] (d.pools k)) (d.PoolsHold Kind.all) := by
  refine Settles.foldlM d.PoolsHold
    (fun _ kinds => kinds.flatMap fun k => poolFaults k [] (d.pools k))
    (fun _ k => poolFaults k [] (d.pools k)) (fun _ => rfl) (fun _ _ _ => List.flatMap_cons)
    (fun done k s hprefix hs => ?_) ⟨rfl, nofun, fun _ _ => rfl⟩
  have hnew : k ∉ done := by
    have hdistinct : (done ++ [k]).Nodup := hprefix.sublist.nodup (by decide)
    exact fun hmem => (List.nodup_append.mp hdistinct).2.2 k hmem k (by simp) rfl
  refine (addPool_settles (hs.empty k hnew)).mono fun s' hs' => ⟨hs'.tag.trans hs.tag, ?_, ?_⟩
  · intro k' hk'
    rcases List.mem_append.mp hk' with hk' | hk'
    · rw [hs'.others k' fun heq => hnew (heq ▸ hk')]
      exact hs.held k' hk'
    · rw [List.mem_singleton.mp hk']
      exact hs'.objects
  · intro k' hk'
    rw [List.mem_append, List.mem_singleton, not_or] at hk'
    rw [hs'.others k' hk'.2]
    exact hs.empty k' hk'.1

end Document

/-! ## §6 Nothing else is described -/

/-- No text names two policies. -/
theorem Casing.IsNamedBy.unique {c c' : Casing} {token : String} (h : c.IsNamedBy token)
    (h' : c'.IsNamedBy token) : c = c' := by
  have htokens : c.token.toList = c'.token.toList := h.symm.trans h'
  revert htokens
  cases c <;> cases c' <;> decide

/-- The policy that is read from a text is the one that the text names. -/
theorem Casing.parse?_eq_ok_iff {c : Casing} {token : String} :
    Casing.parse? token = .ok c ↔ c.IsNamedBy token := by
  have hparse := Casing.parse?_settles token
  cases hread : Casing.parse? token with
  | ok c' =>
    rw [hread] at hparse
    exact ⟨fun h => Except.ok.inj h ▸ hparse, fun hnamed => congrArg _ (hparse.unique hnamed)⟩
  | error u =>
    rw [hread] at hparse
    exact iff_of_false nofun (hparse.2 c (by cases c <;> decide))

/-- Where everything has one partner at most, so has everything that may be absent. -/
theorem rightUnique_optionRel {α β : Type} {R : α → β → Prop} (h : Relator.RightUnique R) :
    Relator.RightUnique (Option.Rel R) := by
  intro x y y' hy hy'
  cases hy with
  | none =>
    cases hy'
    rfl
  | some hb =>
    cases hy' with
    | some hb' => rw [h hb hb']

/-- What holds of all that the members of a list bring with them, because each has a partner, holds of
all that the list brings with it. -/
theorem forall_mem_flatMap_of_forall₂ {α β γ : Type} {R : α → β → Prop} {f : α → List γ}
    {P : γ → Prop} (hR : ∀ a b, R a b → ∀ c ∈ f a, P c) {as : List α} {bs : List β}
    (h : List.Forall₂ R as bs) : ∀ c ∈ as.flatMap f, P c := by
  have hall : ∀ a ∈ as, ∀ c ∈ f a, P c :=
    ((List.forall₂_and_left _ _).mp (h.imp fun a b hab => ⟨hR a b hab, hab⟩)).1
  intro c hc
  obtain ⟨a, ha, hc⟩ := List.mem_flatMap.mp hc
  exact hall a ha c hc

theorem Casing.Given.unique {token : Option String} {given given' : Option Casing}
    (h : Casing.Given token given) (h' : Casing.Given token given') : given = given' := by
  have hnamed : Relator.RightUnique fun t c => Casing.IsNamedBy c t := fun _ _ _ hc hc' => hc.unique hc'
  exact rightUnique_optionRel hnamed h h'

/-- A policy that is given has a name. -/
theorem Casing.Given.named {token : Option String} {given : Option Casing}
    (h : Casing.Given token given) : ∀ t ∈ token.toList, ∃ c : Casing, c.IsNamedBy t := by
  cases h with
  | none => exact nofun
  | some hc => exact fun t ht => ⟨_, List.mem_singleton.mp ht ▸ hc⟩

theorem FixedNameEntry.Describes.unique {e : FixedNameEntry} {o o' : FixedName} (h : e.Describes o)
    (h' : e.Describes o') : o = o' := by
  obtain ⟨id, enabled, ⟨given, hgiven, casing⟩, name⟩ := h
  obtain ⟨id', enabled', ⟨given', hgiven', casing'⟩, name'⟩ := h'
  rw [hgiven.unique hgiven'] at casing
  cases o
  cases o'
  simp_all

theorem DerivedNameEntry.Describes.unique {e : DerivedNameEntry} {o o' : DerivedName}
    (h : e.Describes o) (h' : e.Describes o') : o = o' := by
  obtain ⟨id, enabled, ⟨given, hgiven, casing⟩, basename, before, after⟩ := h
  obtain ⟨id', enabled', ⟨given', hgiven', casing'⟩, basename', before', after'⟩ := h'
  rw [hgiven.unique hgiven'] at casing
  cases o
  cases o'
  simp_all

theorem TemplateEntry.Describes.unique {e : TemplateEntry} {t t' : Template} (h : e.Describes t)
    (h' : e.Describes t') : t = t' := by
  obtain ⟨id, enabled, casing, text, space, dot⟩ := h
  obtain ⟨id', enabled', casing', text', space', dot'⟩ := h'
  have hcasing := casing.unique casing'
  cases t
  cases t'
  simp_all

theorem TemplateMapEntry.Describes.unique {e : TemplateMapEntry} {o o' : TemplateMap}
    (h : e.Describes o) (h' : e.Describes o') : o = o' := by
  obtain ⟨id, enabled, casing, templates⟩ := h
  obtain ⟨id', enabled', casing', templates'⟩ := h'
  have hcasing := casing.unique casing'
  have htemplate : Relator.RightUnique TemplateEntry.Describes := fun _ _ _ =>
    TemplateEntry.Describes.unique
  have htemplates := htemplate.forall₂ templates templates'
  cases o
  cases o'
  simp_all

namespace Kind.Describes

variable {k : Kind} {e : k.Entry} {o o' : k.Object}

/-- No entry describes two objects. -/
theorem unique (h : k.Describes e o) (h' : k.Describes e o') : o = o' := by
  cases k with
  | factCount => exact FixedNameEntry.Describes.unique h h'
  | foreignKey => exact DerivedNameEntry.Describes.unique h h'
  | table => exact DerivedNameEntry.Describes.unique h h'
  | level => exact TemplateMapEntry.Describes.unique h h'
  | measure => exact TemplateMapEntry.Describes.unique h h'
  | ignore => exact TemplateMapEntry.Describes.unique h h'

theorem named_of_templates {e : TemplateMapEntry} {o : TemplateMap} (h : e.Describes o) :
    ∀ t ∈ e.tokens, ∃ c : Casing, c.IsNamedBy t := by
  rw [TemplateMapEntry.tokens, List.forall_mem_append]
  exact ⟨h.casing.named,
    forall_mem_flatMap_of_forall₂ (fun _ _ ht => ht.casing.named) h.templates⟩

/-- An entry that describes an object names policies that there are. -/
theorem named (h : k.Describes e o) : ∀ t ∈ k.tokens e, ∃ c : Casing, c.IsNamedBy t := by
  have hfixed : ∀ {e : FixedNameEntry} {o : FixedName}, e.Describes o →
      ∀ t ∈ e.casing.toList, ∃ c : Casing, c.IsNamedBy t := fun h => h.casing.choose_spec.1.named
  have hderived : ∀ {e : DerivedNameEntry} {o : DerivedName}, e.Describes o →
      ∀ t ∈ e.casing.toList, ∃ c : Casing, c.IsNamedBy t := fun h => h.casing.choose_spec.1.named
  cases k with
  | factCount => exact hfixed h
  | foreignKey => exact hderived h
  | table => exact hderived h
  | level => exact named_of_templates h
  | measure => exact named_of_templates h
  | ignore => exact named_of_templates h

end Kind.Describes

theorem SlotEntry.Describes.unique {k : Kind} {e : SlotEntry k} {s s' : Slot k} (h : e.Describes s)
    (h' : e.Describes s') : s = s' := by
  obtain ⟨inlined, reference, unbound⟩ := h
  obtain ⟨inlined', reference', unbound'⟩ := h'
  have hobject : Relator.RightUnique k.Describes := fun _ _ _ => Kind.Describes.unique
  have hinlined := rightUnique_optionRel hobject inlined inlined'
  cases s
  cases s'
  simp_all

theorem RuleEntry.Describes.unique {e : RuleEntry} {r r' : Rule} (h : e.Describes r)
    (h' : e.Describes r') : r = r' := by
  have hslots : r.slots = r'.slots := funext fun k => (h.slots k).unique (h'.slots k)
  obtain ⟨tag, isDefault, enabled, countColumn, -⟩ := h
  obtain ⟨tag', isDefault', enabled', countColumn', -⟩ := h'
  cases r
  cases r'
  simp_all

/-- A rule that is described names policies that there are. -/
theorem RuleEntry.Describes.named {e : RuleEntry} {r : Rule} (h : e.Describes r) :
    ∀ t ∈ e.tokens, ∃ c : Casing, c.IsNamedBy t := by
  intro t ht
  obtain ⟨k, -, ht⟩ := List.mem_flatMap.mp ht
  obtain ⟨entry, hentry, ht⟩ := List.mem_flatMap.mp ht
  obtain ⟨o, ho⟩ : ∃ o, k.Describes entry o := by
    have hslot := (h.slots k).inlined
    rw [Option.mem_toList.mp hentry] at hslot
    generalize (r.slots k).inlined = inlined at hslot
    cases hslot with
    | some ho => exact ⟨_, ho⟩
  exact ho.named t ht

/-- No document describes two rule sets, as the order of pools is that of the ids. -/
theorem Document.Describes.unique {d : Document} {s s' : RuleSet} (h : d.Describes s)
    (h' : d.Describes s') : s = s' := by
  have hpools : s.pools = s'.pools := by
    funext k
    have hobject : Relator.RightUnique k.Describes := fun _ _ _ => Kind.Describes.unique
    obtain ⟨objects, hobjects, hperm⟩ := h.pools k
    obtain ⟨objects', hobjects', hperm'⟩ := h'.pools k
    rw [hobject.forall₂ hobjects hobjects'] at hperm
    exact Pool.eq_of_mem_iff fun o => hperm.mem_iff.trans hperm'.mem_iff.symm
  have hrule : Relator.RightUnique RuleEntry.Describes := fun _ _ _ => RuleEntry.Describes.unique
  have hrules := hrule.forall₂ h.rules h'.rules
  have htag := h.tag.trans h'.tag.symm
  cases s
  cases s'
  simp_all

namespace Document

/-! ## §7 Documents -/

/-- A document is compiled into what it describes, or refused for the first of its faults. -/
theorem compile_settles (d : Document) : Settles d.compile d.faults d.Describes :=
  d.addPools_settles.bind fun _ hpools =>
    (Settles.mapM RuleEntry.compile_settles d.rules).map fun _ hrules =>
      ⟨hpools.tag, fun k => hpools.held k k.mem_all, hrules⟩

/-- There is nothing wrong with names that are names of policies. -/
theorem flatMap_tokenFaults_eq_nil_iff {tokens : List String} :
    tokens.flatMap tokenFaults = [] ↔ ∀ token ∈ tokens, ∃ c : Casing, c.IsNamedBy token := by
  rw [List.flatMap_eq_nil_iff]
  refine forall₂_congr fun token _ => ?_
  have hall : (∃ c ∈ Casing.all, c.IsNamedBy token) ↔ ∃ c : Casing, c.IsNamedBy token :=
    exists_congr fun c => and_iff_right (by cases c <;> decide)
  rw [tokenFaults, ite_eq_left_iff, ← hall]
  simp

/-- There is nothing wrong with the entries of a pool if their policies have names, and if their ids
are neither blank nor taken, be it by earlier entries or among themselves. -/
theorem poolFaults_eq_nil_iff {k : Kind} {earlier entries : List k.Entry} :
    poolFaults k earlier entries = [] ↔
      (∀ token ∈ entries.flatMap k.tokens, ∃ c : Casing, c.IsNamedBy token) ∧
      (∀ e ∈ entries, Text.isBlankText (k.entryId e) = false) ∧
      (∀ e ∈ entries, k.entryId e ∉ earlier.map k.entryId) ∧
      (entries.map k.entryId).Nodup := by
  induction entries generalizing earlier with
  | nil => simp [poolFaults]
  | cons e entries ih =>
    have hid : idFaults k (earlier.map k.entryId) (k.entryId e) = [] ↔
        Text.isBlankText (k.entryId e) = false ∧ k.entryId e ∉ earlier.map k.entryId := by
      unfold idFaults
      split_ifs with hblank htaken
      · simp [hblank]
      · simp [htaken]
      · simpa [hblank] using htaken
    rw [poolFaults, List.append_eq_nil_iff, List.append_eq_nil_iff, hid, ih,
      flatMap_tokenFaults_eq_nil_iff]
    simp only [List.flatMap_cons, List.map_cons, List.map_append, List.map_nil, List.mem_append,
      List.mem_cons, List.not_mem_nil, or_false, not_or, List.nodup_cons, List.mem_map,
      or_imp, forall_and, forall_eq, not_exists, not_and]
    constructor
    · rintro ⟨⟨htoken, hid, hfree⟩, htokens, hids, ⟨hfrees, hothers⟩, hdistinct⟩
      exact ⟨⟨htoken, htokens⟩, ⟨hid, hids⟩, ⟨hfree, hfrees⟩, hothers, hdistinct⟩
    · rintro ⟨⟨htoken, htokens⟩, ⟨hid, hids⟩, ⟨hfree, hfrees⟩, hothers, hdistinct⟩
      exact ⟨⟨htoken, hid, hfree⟩, htokens, hids, ⟨hfrees, hothers⟩, hdistinct⟩

/-- There is nothing wrong with a document if all its policies have names, and if in every pool the ids
are neither blank nor given twice. -/
theorem faults_eq_nil_iff (d : Document) :
    d.faults = [] ↔
      (∀ token ∈ d.tokens, ∃ c : Casing, c.IsNamedBy token) ∧
      ∀ k, (∀ e ∈ d.pools k, Text.isBlankText (k.entryId e) = false) ∧
        ((d.pools k).map k.entryId).Nodup := by
  have hpools : (Kind.all.flatMap fun k => poolFaults k [] (d.pools k)) = [] ↔
      (∀ token ∈ Kind.all.flatMap fun k => (d.pools k).flatMap k.tokens,
        ∃ c : Casing, c.IsNamedBy token) ∧
      ∀ k, (∀ e ∈ d.pools k, Text.isBlankText (k.entryId e) = false) ∧
        ((d.pools k).map k.entryId).Nodup := by
    simp only [List.flatMap_eq_nil_iff, poolFaults_eq_nil_iff, List.map_nil, List.not_mem_nil,
      not_false_eq_true, implies_true, true_and]
    constructor
    · intro h
      refine ⟨fun token htoken => ?_, fun k => (h k k.mem_all).2⟩
      obtain ⟨k, hk, htoken⟩ := List.mem_flatMap.mp htoken
      exact (h k hk).1 token htoken
    · exact fun h k hk =>
        ⟨fun token htoken => h.1 token (List.mem_flatMap.mpr ⟨k, hk, htoken⟩), h.2 k⟩
  have hrules : (d.rules.flatMap fun e => e.tokens.flatMap tokenFaults) = [] ↔
      ∀ token ∈ d.rules.flatMap RuleEntry.tokens, ∃ c : Casing, c.IsNamedBy token := by
    rw [← List.flatMap_assoc, flatMap_tokenFaults_eq_nil_iff]
  rw [faults, List.append_eq_nil_iff, hpools, hrules, tokens, List.forall_mem_append]
  exact and_right_comm

/-- There is nothing wrong with a document that describes a rule set. -/
theorem Describes.faults_eq_nil {d : Document} {s : RuleSet} (h : d.Describes s) : d.faults = [] := by
  rw [faults_eq_nil_iff]
  refine ⟨?_, fun k => ?_⟩
  · rw [tokens, List.forall_mem_append]
    refine ⟨fun t ht => ?_, forall_mem_flatMap_of_forall₂ (fun _ _ hr => hr.named) h.rules⟩
    obtain ⟨k, -, ht⟩ := List.mem_flatMap.mp ht
    obtain ⟨objects, hobjects, -⟩ := h.pools k
    exact forall_mem_flatMap_of_forall₂ (fun _ _ ho => ho.named) hobjects t ht
  · obtain ⟨objects, hobjects, hperm⟩ := h.pools k
    have hids : ((s.pools k).objects.map k.idOf).Perm ((d.pools k).map k.entryId) :=
      Kind.map_idOf_of_describes hobjects ▸ hperm.map k.idOf
    refine ⟨fun e he => ?_, hids.nodup_iff.mp (s.pools k).nodup_map_idOf⟩
    obtain ⟨o, ho, hid⟩ := List.mem_map.mp (hids.mem_iff.mpr (List.mem_map_of_mem he))
    rw [← hid]
    exact (s.pools k).named o ho

/-- The one rule set that a document describes is what it is compiled into. -/
theorem compile_eq_ok_iff {d : Document} {s : RuleSet} : d.compile = .ok s ↔ d.Describes s := by
  refine ⟨fun hs => d.compile_settles.fits_of_ok hs, fun h => ?_⟩
  obtain ⟨s', hs'⟩ := d.compile_settles.exists_ok_iff.mpr h.faults_eq_nil
  rw [hs', (d.compile_settles.fits_of_ok hs').unique h]

/-- A document is compiled if and only if all its policies have names and no pool has a blank id or one
twice. It is compiled into the rule set that it describes, and refused for the first of its faults
otherwise; the rule set of its text is the same, and so are the refusals. -/
theorem compiles_to_described (d : Document) :
    ((∃ s, d.compile = .ok s) ↔
      (∀ token ∈ d.tokens, ∃ c : Casing, c.IsNamedBy token) ∧
      ∀ k, (∀ e ∈ d.pools k, Text.isBlankText (k.entryId e) = false) ∧
        ((d.pools k).map k.entryId).Nodup) ∧
    (∀ s, d.compile = .ok s ↔ d.Describes s) ∧
    (∀ e, d.compile = .error e ↔ d.faults.head? = some e) ∧
    ∀ path text, Document.ofText? text = some d →
      (∀ s, RuleSet.ofText path text = .ok s ↔ d.compile = .ok s) ∧
      ∀ e, RuleSet.ofText path text = .error e ↔
        ∃ fault, d.faults.head? = some fault ∧ e = .document fault := by
  refine ⟨d.compile_settles.exists_ok_iff.trans d.faults_eq_nil_iff,
    fun s => compile_eq_ok_iff, fun e => d.compile_settles.eq_error_iff,
    fun path text hread => ?_⟩
  have htext : RuleSet.ofText path text = d.compile.mapError .document := by
    rw [RuleSet.ofText, hread]
  rw [htext]
  cases hcompile : d.compile with
  | ok s =>
    refine ⟨fun s' => by simp [Except.mapError], fun e => iff_of_false nofun ?_⟩
    rintro ⟨fault, hfault, rfl⟩
    rw [d.compile_settles.eq_error_iff.mpr hfault] at hcompile
    cases hcompile
  | error fault =>
    have hfirst := d.compile_settles.eq_error_iff.mp hcompile
    refine ⟨fun s' => iff_of_false nofun nofun, fun e => ?_⟩
    rw [hfirst]
    simp [Except.mapError, eq_comm]

/-- Names of levels by templates, twice under one id. -/
def twins : Document where
  pools
    | .level => [{ id := "a" }, { id := "a", casing := some "loud" }]
    | .factCount | .foreignKey | .table | .measure | .ignore => []

/-- A document that has a policy without a name and an id twice is refused for the former. Without its
second entry, it describes what it is compiled into. -/
theorem twins_refused :
    RuleSet.ofText none "{level_maps: [{id: a}, {id: a, char_case: loud}]}" =
      .error (.document (.unknownCasing ⟨"loud"⟩)) ∧
    ∃ s, ({ pools := fun k => (twins.pools k).take 1 } : Document).compile = .ok s ∧
      ({ pools := fun k => (twins.pools k).take 1 } : Document).Describes s := by
  have hread : Document.ofText? "{level_maps: [{id: a}, {id: a, char_case: loud}]}" = some twins := by
    decide +kernel
  refine ⟨(((compiles_to_described twins).2.2.2 none _ hread).2 _).mpr ⟨_, by decide, rfl⟩, _, rfl, ?_⟩
  exact ((compiles_to_described _).2.1 _).mp rfl

end Document

end AggregateNaming
