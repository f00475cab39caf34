import AggregateNaming.Document
import AggregateNaming.Proofs.Fallible
import AggregateNaming.Proofs.History

/-!
# Loaded rule sets

A rule set that a document describes has a history: the objects of its entries are registered one
after the other, and then its rules are added. What holds in every state of every run holds of it.

## Main statements

- `Document.compile_reachable` : loading a document is a run.
-/

namespace AggregateNaming

/-! ## §1 Reachable rule sets -/

namespace RuleSet

/-- What one more command makes of a reachable rule set is reachable. -/
theorem Reachable.step {s : RuleSet} (h : s.Reachable) (c : Command) : (s.step c).Reachable := by
  obtain ⟨tag, cs, rfl⟩ := h
  exact ⟨tag, cs ++ [c], (run_concat tag cs c).symm⟩

/-- A reachable rule set with an object more is reachable. -/
theorem Reachable.add {s s' : RuleSet} (h : s.Reachable) {k : Kind} {o : k.Object}
    (hadd : s.add k o = .ok s') : s'.Reachable := by
  have hreg : s.register k o = .ok s' := by rw [register, hadd]
  have hstep := h.step (.register k o)
  rwa [step_register_ok hreg] at hstep

/-- A reachable rule set with more rules is reachable, as long as none of their slots is bound. -/
theorem Reachable.addRules {s : RuleSet} (h : s.Reachable) (rules : List Rule)
    (hfree : ∀ r ∈ rules, ∀ k, (r.slots k).bound = none) :
    ({ s with rules := s.rules ++ rules } : RuleSet).Reachable := by
  induction rules generalizing s with
  | nil => simpa using h
  | cons r rules ih =>
    have hpush := h.step (.pushRule r (hfree r (by simp)))
    simpa [pushRule] using ih hpush fun r' hr' => hfree r' (by simp [hr'])

end RuleSet

/-! ## §2 Documents -/

/-- A computation for every kind succeeds only if it does so for each of them. -/
theorem Kind.forEach_eq_ok {ε : Type} {β : Kind → Type} {compute : (k : Kind) → Except ε (β k)}
    {f : (k : Kind) → β k} (h : Kind.forEach compute = .ok f) (k : Kind) :
    compute k = .ok (f k) := by
  unfold Kind.forEach at h
  simp only [bind_eq_ok_iff] at h
  obtain ⟨ofIgnore, hignore, ofFactCount, hfactCount, ofForeignKey, hforeignKey, ofTable, htable,
    ofLevel, hlevel, ofMeasure, hmeasure, hf⟩ := h
  cases hf
  cases k <;> assumption

/-- No slot that an entry describes is bound. -/
theorem SlotEntry.bound_compile {k : Kind} {e : SlotEntry k} {s : Slot k}
    (h : e.compile = .ok s) : s.bound = none := by
  unfold SlotEntry.compile at h
  split at h
  · cases h
    rfl
  · obtain ⟨o, ho, h⟩ := bind_eq_ok_iff.mp h
    cases h
    rfl

/-- No slot of a rule that an entry describes is bound. -/
theorem RuleEntry.bound_compile {e : RuleEntry} {r : Rule} (h : e.compile = .ok r) (k : Kind) :
    (r.slots k).bound = none := by
  obtain ⟨slots, hslots, h⟩ := bind_eq_ok_iff.mp h
  cases h
  exact SlotEntry.bound_compile (Kind.forEach_eq_ok hslots k)

/-- An object is in a reachable rule set by a registration. -/
theorem Document.addEntry_reachable {k : Kind} {s s' : RuleSet} {e : k.Entry} (hs : s.Reachable)
    (h : Document.addEntry k s e = .ok s') : s'.Reachable := by
  obtain ⟨o, -, h⟩ := bind_eq_ok_iff.mp h
  split at h
  next hadd =>
    cases h
    exact hs.add hadd
  · cases h
  · cases h

/-- The objects of a document are added to its pools without touching the rules. -/
theorem Document.rules_addEntry {k : Kind} {s s' : RuleSet} {e : k.Entry}
    (h : Document.addEntry k s e = .ok s') : s'.rules = s.rules := by
  obtain ⟨o, -, h⟩ := bind_eq_ok_iff.mp h
  split at h
  next hadd =>
    cases h
    exact RuleSet.rules_register (by rw [RuleSet.register, hadd])
  · cases h
  · cases h

/-- The rule set that a document describes has a history. -/
theorem Document.compile_reachable {d : Document} {s : RuleSet} (h : d.compile = .ok s) :
    s.Reachable := by
  obtain ⟨pooled, hpooled, h⟩ := bind_eq_ok_iff.mp h
  obtain ⟨rules, hrules, h⟩ := bind_eq_ok_iff.mp h
  cases h
  -- after the pools: reachable, and still without a rule
  have hpools : pooled.Reachable ∧ pooled.rules = [] := by
    refine foldlM_eq_ok_induction (P := fun s : RuleSet => s.Reachable ∧ s.rules = []) ?_
      ⟨⟨_, [], rfl⟩, rfl⟩ hpooled
    intro s k s' hs hpool
    refine foldlM_eq_ok_induction (P := fun s : RuleSet => s.Reachable ∧ s.rules = []) ?_ hs hpool
    intro s e s' hs hentry
    exact ⟨addEntry_reachable hs.1 hentry, (rules_addEntry hentry).trans hs.2⟩
  have hfree : ∀ r ∈ rules, ∀ k, (r.slots k).bound = none := by
    intro r hr
    obtain ⟨e, -, he⟩ := exists_of_mem_of_mapM_eq_ok hrules r hr
    exact RuleEntry.bound_compile he
  have hall := hpools.1.addRules rules hfree
  rwa [hpools.2, List.nil_append] at hall

end AggregateNaming
