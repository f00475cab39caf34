import AggregateNaming.Object

/-!
# Pools

The pooled objects of a kind. Every object has an id that is not blank and that no other object of
the pool has, and the objects lie in ascending order of their ids.

- `Pool.find?` : the object under an id.
- `Pool.add` : a pool with one more object, unless its id is blank or taken.
-/

namespace AggregateNaming

/-- The objects of a kind, in ascending order of their ids. -/
structure Pool (k : Kind) where
  objects : List k.Object := []
  sorted : objects.Pairwise (k.idOf · < k.idOf ·) := by simp
  named : ∀ o ∈ objects, Text.isBlankText (k.idOf o) = false := by simp

namespace Pool

/-- The pool without objects. -/
def empty : Pool k := {}

/-- The object under an id. -/
def find? (p : Pool k) (id : String) : Option k.Object :=
  p.objects.find? (k.idOf · == id)

/-- A list of objects with one more, before the first one with a greater id. -/
def insertSorted (k : Kind) (o : k.Object) : List k.Object → List k.Object
  | [] => [o]
  | p :: ps => if k.idOf o < k.idOf p then o :: p :: ps else p :: insertSorted k o ps

/-- What is in a list after an insertion. -/
theorem mem_insertSorted {k : Kind} {o x : k.Object} {l : List k.Object} :
    x ∈ insertSorted k o l ↔ x = o ∨ x ∈ l := by
  induction l with
  | nil => simp [insertSorted]
  | cons p ps ih =>
    rw [insertSorted]
    split
    · simp
    · simp only [List.mem_cons, ih]
      exact or_left_comm

/-- An insertion keeps the order, if the id is new. -/
theorem sorted_insertSorted {k : Kind} {o : k.Object} {l : List k.Object}
    (sorted : l.Pairwise (k.idOf · < k.idOf ·)) (isNew : ∀ x ∈ l, k.idOf x ≠ k.idOf o) :
    (insertSorted k o l).Pairwise (k.idOf · < k.idOf ·) := by
  induction l with
  | nil => simp [insertSorted]
  | cons p ps ih =>
    rw [List.pairwise_cons] at sorted
    rw [insertSorted]
    split
    · rename_i lt
      refine List.pairwise_cons.2 ⟨fun x mem => ?_, List.pairwise_cons.2 sorted⟩
      rcases List.mem_cons.1 mem with rfl | mem
      · exact lt
      · exact String.lt_trans lt (sorted.1 x mem)
    · rename_i notLt
      refine List.pairwise_cons.2 ⟨fun x mem => ?_, ih sorted.2 fun x mem => isNew x (by simp [mem])⟩
      rcases mem_insertSorted.1 mem with rfl | mem
      · have ne := isNew p (by simp)
        exact Decidable.byContradiction fun h =>
          ne (String.le_antisymm (String.not_lt.1 notLt) (String.not_lt.1 h))
      · exact sorted.1 x mem

/-- A pool with one more object, whose id is neither blank nor taken. -/
def insert (p : Pool k) (o : k.Object) (named : Text.isBlankText (k.idOf o) = false)
    (isNew : p.find? (k.idOf o) = none) : Pool k where
  objects := insertSorted k o p.objects
  sorted := sorted_insertSorted p.sorted (by simpa [find?] using isNew)
  named := by
    intro x mem
    rcases mem_insertSorted.1 mem with rfl | mem
    · exact named
    · exact p.named x mem

/-- Why an object cannot be added to a pool. -/
inductive Refusal where
  | blankId
  | takenId (id : String)
  deriving Repr, DecidableEq

/-- Adds an object, if its id is neither blank nor taken. -/
def add (p : Pool k) (o : k.Object) : Except Refusal (Pool k) :=
  if named : Text.isBlankText (k.idOf o) = true then .error .blankId
  else if isNew : p.find? (k.idOf o) = none then .ok (p.insert o (by simpa using named) isNew)
  else .error (.takenId (k.idOf o))

/-- How many objects a pool has. -/
def size (p : Pool k) : Nat := p.objects.length

/-- Every object must be in order. -/
def check (p : Pool k) : Check Bool :=
  Check.every (fun o => Check.inside s!"{k.label}[{k.idOf o}]" (k.check o)) p.objects

end Pool

end AggregateNaming
