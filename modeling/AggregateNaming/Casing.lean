import AggregateNaming.Text.Blank
import AggregateNaming.Text.CaseMapping

/-!
# Casing policies

How the case of letters counts when a name is compared: not at all, exactly as written, or after
the expected name has been put into upper or lower case.

- `Casing.parse?` : reads a policy from its name, blanks around it and ASCII case apart.
- `Casing.fold` : what a policy does to the expected name before it is compared.
-/

namespace AggregateNaming

/-- How the case of letters counts when a name is compared. -/
inductive Casing where
  /-- Case does not count. -/
  | ignore
  /-- The name must be written exactly as expected. -/
  | exact
  /-- The expected name is put into upper case, and must then be met exactly. -/
  | upper
  /-- The expected name is put into lower case, and must then be met exactly. -/
  | lower
  deriving Repr, DecidableEq

namespace Casing

/-- All policies, in the order in which messages list them. -/
def all : List Casing := [ignore, exact, upper, lower]

/-- The name of a policy. -/
def token : Casing → String
  | ignore => "ignore"
  | exact => "exact"
  | upper => "upper"
  | lower => "lower"

/-- A text that names no policy. -/
structure Unknown where
  /-- The text as it was given. -/
  token : String
  deriving Repr, DecidableEq

/-- The words for a text that names no policy. -/
def Unknown.message (u : Unknown) : String :=
  s!"unknown char case '{u.token}': expected one of "
    ++ ", ".intercalate (all.map Casing.token)

/-- Two texts that differ at most in the case of ASCII letters. -/
def sameAsciiLetters (a b : List Char) : Bool :=
  a.map Char.toLower == b.map Char.toLower

/-- Reads a policy from its name. Blanks around the name do not count, nor does the case of ASCII
letters. -/
def parse? (s : String) : Except Unknown Casing :=
  match all.find? fun c => sameAsciiLetters (Text.trimChars s.toList) c.token.toList with
  | some c => .ok c
  | none => .error ⟨s⟩

/-- Whether names are compared without regard to case. -/
def isInsensitive : Casing → Bool
  | ignore => true
  | _ => false

/-- The expected name as the policy wants it written. -/
def foldChars : Casing → List Char → List Char
  | upper, cs => Text.toUpper cs
  | lower, cs => Text.toLower cs
  | _, cs => cs

/-- The expected name as the policy wants it written. -/
def fold (c : Casing) (s : String) : String := .ofList (c.foldChars s.toList)

/-! ## Reading back what is written -/

/-- Every policy is read back from its name. -/
theorem parse?_token (c : Casing) : parse? c.token = .ok c := by
  cases c <;> rfl

end Casing

end AggregateNaming
