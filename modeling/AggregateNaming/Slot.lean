import AggregateNaming.Object

/-!
# Slots

The place of a rule for an object of a kind. A rule declares the object in the slot itself or refers
to a pooled one; validation binds the slot to the object that the declaration selects.

- `Slot.selection` : which side of the declaration counts.
- `Slot.target?` : the object that the declaration selects.
- `Slot.resolve` : the slot, bound to that object unless it has been bound before.
- `Slot.check` : what validation has to say about the declaration.
-/

namespace AggregateNaming

/-- A reference to a pooled object. -/
structure Reference where
  id : String
  enabled : Bool := true
  deriving Repr, DecidableEq

/-- The place of a rule for an object of a kind. -/
structure Slot (k : Kind) where
  /-- The object declared in the slot itself. -/
  inlined : Option k.Object := none
  /-- The reference declared. -/
  reference : Option Reference := none
  /-- The object that the slot has been bound to. -/
  bound : Option k.Object := none

/-- Which side of a declaration counts. Only an enabled side does. -/
inductive Selection (k : Kind) where
  | inlined (o : k.Object)
  | reference (r : Reference)
  | both
  | neither

/-- The name of a selection. -/
def Selection.name : Selection k → String
  | .inlined _ => "inline"
  | .reference _ => "reference"
  | .both => "both"
  | .neither => "neither"

namespace Slot

/-- The object declared in the slot itself, if it is enabled. -/
def usableInlined (s : Slot k) : Option k.Object := s.inlined.filter k.isEnabled

/-- The reference declared, if it is enabled. -/
def usableReference (s : Slot k) : Option Reference := s.reference.filter (·.enabled)

/-- Which side of the declaration counts. -/
def selection (s : Slot k) : Selection k :=
  match s.usableInlined, s.usableReference with
  | some _, some _ => .both
  | none, none => .neither
  | some o, none => .inlined o
  | none, some r => .reference r

/-- The object that the declaration selects, given the pooled objects by id. -/
def target? (lookup : String → Option k.Object) (s : Slot k) : Option k.Object :=
  match s.selection with
  | .inlined o => some o
  | .reference r => if Text.isBlankText r.id then none else lookup r.id
  | .both => none
  | .neither => none

/-- The slot, bound to the object that the declaration selects. What it was bound to before stays. -/
def resolve (lookup : String → Option k.Object) (s : Slot k) : Slot k :=
  { s with bound := s.bound.or (s.target? lookup) }

/-- A reference must have an id, and there must be an object under it. -/
def checkReference (k : Kind) (lookup : String → Option k.Object) (r : Reference) : Check Bool :=
  if Text.isBlankText r.id then do
    Check.error "refid is empty"
    return false
  else
    match lookup r.id with
    | some o => do
      if !k.isEnabled o then
        Check.warn s!"referenced {k.label} '{r.id}' is disabled"
      return true
    | none => do
      Check.error s!"{k.label} '{r.id}' not found"
      return false

/-- Exactly one side of the declaration must count, or, where an object is not mandatory, at most
one; and that side must be in order. -/
def check (lookup : String → Option k.Object) (s : Slot k) : Check Bool :=
  Check.inside k.label <|
    match s.selection with
    | .both => do
      Check.error "both base and baseref are ok"
      return false
    | .neither => do
      if k.isMandatory then
        Check.error "neither base nor baseref is ok"
        return false
      else return true
    | .inlined o => k.check o
    | .reference r => checkReference k lookup r

end Slot

end AggregateNaming
