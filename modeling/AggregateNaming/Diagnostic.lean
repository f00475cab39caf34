/-!
# Diagnostics

What validation has to say about a rule set: a severity, the place in the rule set and a message.

- `Level` : the severities, in ascending order.
- `Diagnostic.line` : the one-line form of a diagnostic.
-/

namespace AggregateNaming

/-- How severe a diagnostic is, in ascending order. -/
inductive Level where
  | info
  | warn
  | error
  deriving Repr, DecidableEq

namespace Level

/-- The name of a severity. -/
def name : Level → String
  | info => "info"
  | warn => "warn"
  | error => "error"

/-- The place of a severity in the ascending order. -/
def rank : Level → Nat
  | info => 0
  | warn => 1
  | error => 2

/-- All severities, in ascending order. -/
def all : List Level := [info, warn, error]

/-- One severity is at most as severe as another. -/
def le (a b : Level) : Bool := a.rank ≤ b.rank

end Level

/-- One report of validation. -/
structure Diagnostic where
  level : Level
  /-- The place in the rule set, outermost part first. -/
  context : String
  message : String
  deriving Repr, DecidableEq

namespace Diagnostic

/-- Whether a diagnostic makes the rule set invalid. -/
def isError (d : Diagnostic) : Bool := d.level == .error

/-- A diagnostic on one line; the place is left out when it is empty. -/
def line (d : Diagnostic) : String :=
  if d.context.isEmpty then s!"[{d.level.name}] {d.message}"
  else s!"[{d.level.name}] {d.context}: {d.message}"

end Diagnostic

end AggregateNaming
