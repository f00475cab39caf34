import AggregateNaming.Pool
import AggregateNaming.Rule

/-!
# Rule sets

A tagged set of rules with a pool of objects for every kind, to which the rules can refer.

- `RuleSet.register` : adds an object to the pool of its kind.
- `RuleSet.select` : the rule under a tag, or the one where no tag is given.
- `RuleSet.check` : what validation has to say about a rule set.
- `RuleSet.validate` : validation as a whole, which also binds the slots of the rules.
-/

namespace AggregateNaming

/-- Rules and the pooled objects that they can refer to. -/
structure RuleSet where
  tag : String
  pools : (k : Kind) → Pool k := fun _ => .empty
  rules : List Rule := []

namespace RuleSet

/-! ## §1 Objects and rules -/

/-- The pooled object of a kind under an id. -/
def lookup (s : RuleSet) (k : Kind) (id : String) : Option k.Object := (s.pools k).find? id

/-- The rule set with another pool of one kind. -/
def withPool (s : RuleSet) (k : Kind) (p : Pool k) : RuleSet :=
  { s with pools := fun k' => if h : k = k' then h ▸ p else s.pools k' }

/-- Adds an object to the pool of its kind, unless its id is blank or taken. -/
def add (s : RuleSet) (k : Kind) (o : k.Object) : Except Pool.Refusal RuleSet :=
  (s.pools k).add o |>.map (s.withPool k)

/-- Adds an object to the pool of its kind. Its id must be neither blank nor taken. -/
def register (s : RuleSet) (k : Kind) (o : k.Object) : Except RuleError RuleSet :=
  match s.add k o with
  | .ok s' => .ok s'
  | .error .blankId => .error (.document (.blankId k))
  | .error (.takenId id) => .error (.duplicateId k id)

/-- Adds a rule after those that are there. -/
def pushRule (s : RuleSet) (r : Rule) : RuleSet := { s with rules := s.rules ++ [r] }

/-- The enabled rule under a tag, or the one where no tag is given, with its position. -/
def select (s : RuleSet) : (tag : Option String) → Except RuleError (Rule × Nat)
  | some tag =>
    match s.rules.zipIdx.find? fun r => r.1.enabled && r.1.tag == tag with
    | some r => .ok r
    | none => .error (.unknownRule tag)
  | none =>
    match s.rules.zipIdx.filter (·.1.isUsableDefault) with
    | [] => .error .noDefaultRule
    | [r] => .ok r
    | rs => .error (.ambiguousDefaultRule rs.length)

/-- The enabled rule under a tag, or the one where no tag is given. -/
def rule (s : RuleSet) (tag : Option String) : Except RuleError Rule := (·.1) <$> s.select tag

/-! ## §2 Validation -/

/-- Tags must not be blank, and no two rules may have the same one. `seen` holds the tags of earlier
rules. -/
def checkTags : (seen : List String) → List Rule → Check Bool
  | _, [] => return true
  | seen, r :: rest => do
    if Text.isBlankText r.tag then
      Check.error "AggRule has an empty tag"
      let _ ← checkTags seen rest
      return false
    else if seen.contains r.tag then
      Check.error s!"duplicate AggRule tag '{r.tag}'"
      let _ ← checkTags seen rest
      return false
    else checkTags (r.tag :: seen) rest

/-- Exactly one rule must be the one where no tag is given. -/
def checkDefault (rules : List Rule) : Check Bool :=
  match rules.filter (·.isUsableDefault) with
  | [] => do
    Check.error "no AggRule is flagged default"
    return false
  | [_] => return true
  | rs => do
    Check.error (s!"{rs.length} AggRules are flagged default: "
      ++ ", ".intercalate (rs.map (·.tag)))
    return false

/-- A rule must be in order, unless it is not enabled. -/
def checkRule (s : RuleSet) (r : Rule) : Check Bool := do
  if r.enabled then Check.inside s!"AggRule[{r.tag}]" (r.check s.lookup)
  else
    Check.info s!"AggRule '{r.tag}' is disabled and was not validated"
    return true

/-- Pools, tags, the choice where no tag is given, and rules must be in order. -/
def check (s : RuleSet) : Check Bool :=
  Check.inside s!"AggRules[{s.tag}]" do
    let poolsOk ← Check.every (fun k => (s.pools k).check) Kind.all
    let tagsOk ← checkTags [] s.rules
    let defaultOk ← checkDefault s.rules
    let rulesOk ← Check.every s.checkRule s.rules
    return poolsOk && tagsOk && defaultOk && rulesOk

/-- The rule set with the slots of its enabled rules bound. -/
def resolve (s : RuleSet) : RuleSet := { s with rules := s.rules.map (·.resolve s.lookup) }

/-- Validates a rule set: whether it is in order, and the rule set with the slots of its enabled rules
bound, which happens in either case. -/
def validate (s : RuleSet) : Check (Bool × RuleSet) := do
  let ok ← s.check
  return (ok, s.resolve)

/-- The rule set with its slots bound, if validation finds no error; all errors otherwise. -/
def validated (s : RuleSet) : Except RuleError RuleSet :=
  let ((ok, bound), recorder) := s.validate.run {}
  if ok then .ok bound else .error (.invalid recorder.errors)

end RuleSet

end AggregateNaming
