import AggregateNaming.Recorder

/-!
# Verdicts of checks

A check walks through its subject, reports to a recorder on the way and ends with a verdict. Here is
what the verdict of a composed check is, given the verdicts of its parts. No verdict depends on what
the recorder held before.

## Main definitions

- `Check.Decides` : the verdict of a check is a given proposition, for every recorder.

## Main statements

- `Check.Decides.inside`, `Check.Decides.after` : neither the place of a check nor what is done
  before it changes its verdict.
- `Check.Decides.bind`, `Check.Decides.and`, `Check.Decides.every` : checks that are all run,
  whatever each of them says, are in order when all of them are.
-/

namespace AggregateNaming.Check

/-! ## §1 Single checks -/

/-- The verdict of a check is `P`, whatever the recorder holds when it begins. -/
def Decides (c : Check Bool) (P : Prop) : Prop :=
  ∀ r : Recorder, (c.run r).1 = true ↔ P

namespace Decides

variable {α : Type} {c d : Check Bool} {P Q : Prop}

/-- The verdict may be said in another way. -/
theorem of_iff (hc : Decides c P) (h : P ↔ Q) : Decides c Q :=
  fun r => (hc r).trans h

/-- A verdict without a walk. -/
theorem pure (b : Bool) : Decides (Pure.pure b) (b = true) :=
  fun _ => Iff.rfl

/-- What is done before a check does not change its verdict. -/
theorem after (body : Check α) (hc : Decides c P) : Decides (body >>= fun _ => c) P :=
  fun r => hc (body.run r).2

/-- What is done before a check in some cases does not change its verdict either. -/
theorem afterWhen (b : Bool) (body : Check α) (hc : Decides c P) :
    Decides (if b = true then body >>= fun _ => c else c) P := by
  split
  · exact after body hc
  · exact hc

/-- A report followed by a refusal is a refusal. -/
theorem refuse (body : Check α) (h : ¬P) : Decides (body >>= fun _ => Pure.pure false) P :=
  after body fun _ => iff_of_false Bool.false_ne_true h

/-- A check without a walk that is in order. -/
theorem accept (h : P) : Decides (Pure.pure true) P :=
  fun _ => iff_of_true rfl h

/-- The part in which a check runs does not change its verdict. -/
theorem inside (name : String) (hc : Decides c P) : Decides (Check.inside name c) P :=
  fun r => hc (r.push name)

/-! ## §2 Composed checks -/

/-- What follows a check may use its verdict. -/
theorem bind {next : Bool → Check Bool} (hc : Decides c P)
    (hnext : ∀ b : Bool, (b = true ↔ P) → Decides (next b) Q) : Decides (c >>= next) Q :=
  fun r => hnext _ (hc r) _

/-- Two checks one after the other. The second is run whatever the first says. -/
theorem and (hc : Decides c P) (hd : Decides d Q) :
    Decides (do let a ← c; let b ← d; return a && b) (P ∧ Q) := by
  refine hc.bind fun a ha => hd.bind fun b hb => (Decides.pure (a && b)).of_iff ?_
  rw [Bool.and_eq_true, ha, hb]

/-- A check on every member of a list. -/
theorem every {check : α → Check Bool} {R : α → Prop} :
    ∀ {l : List α}, (∀ a ∈ l, Decides (check a) (R a)) →
      Decides (Check.every check l) (∀ a ∈ l, R a)
  | [], _ => accept (by simp)
  | a :: l, h => by
      have hhead : Decides (check a) (R a) := h a (by simp)
      have htail : Decides (Check.every check l) (∀ b ∈ l, R b) :=
        every fun b hb => h b (List.mem_cons_of_mem _ hb)
      exact (hhead.and htail).of_iff (by simp)

end Decides

end AggregateNaming.Check
