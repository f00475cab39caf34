import AggregateNaming.Template
import AggregateNaming.Recorder

/-!
# Rule objects

The objects that say how names of a kind are formed, and the recognizers that they make.

- `FixedName` : one name.
- `DerivedName` : names built around the base name of another name.
- `TemplateMap` : names built by templates.
- `Kind.Object` : the objects of a kind.
- `Kind.check` : what validation has to say about an object, and whether it finds no error.
-/

namespace AggregateNaming

/-! ## §1 One name -/

/-- A column with a name of its own. -/
structure FixedName where
  id : String := ""
  enabled : Bool := true
  casing : Casing := .ignore
  name : String := "fact_count"
  deriving Repr, DecidableEq

namespace FixedName

/-- The recognizer of a name under the policy of an object. -/
def recognizerFor (o : FixedName) (name : String) : Except RuleError Recognizer :=
  match NamePattern.compile o.casing (o.casing.literal name) with
  | .ok p => .ok (.single o.id p)
  | .error cause => .error (.pattern cause)

/-- The recognizer of the name of an object. -/
def recognizer (o : FixedName) : Except RuleError Recognizer := o.recognizerFor o.name

/-- The name must not be blank. -/
def check (o : FixedName) : Check Bool := do
  if Text.isBlankText o.name then
    Check.error "fact count name is empty"
    return false
  else return true

end FixedName

/-! ## §2 Derived names -/

/-- The recognizer of the names built around the base name of a name. A name without a base name has
none. -/
def Recognizer.derived (id name : String) (basename : Option Basename) (before after : String)
    (casing : Casing) : Except RuleError Recognizer :=
  match derive? name basename with
  | none => .ok .never
  | some base =>
    match NamePattern.compile casing (before ++ casing.literal base ++ after) with
    | .ok p => .ok (.single id p)
    | .error cause => .error (.pattern cause)

/-- Names built around the base name of another name. -/
structure DerivedName where
  id : String := ""
  enabled : Bool := true
  casing : Casing := .ignore
  /-- The pattern that takes the base name out of a name. -/
  basename : Option String := none
  /-- The pattern text before the base name. -/
  before : Option String := none
  /-- The pattern text after the base name. -/
  after : Option String := none
  deriving Repr, DecidableEq

namespace DerivedName

/-- The recognizer of the names built around the base name of `name`, once the pattern for base names
has been read. -/
def recognizerWith (o : DerivedName) (name : String) (basename : Option Basename) :
    Except RuleError Recognizer :=
  Recognizer.derived o.id name basename (o.before.getD "") (o.after.getD "") o.casing

/-- The recognizer of the names built around the base name of `name`. -/
def recognizer (o : DerivedName) (name : String) : Except RuleError Recognizer :=
  match o.basename with
  | none => o.recognizerWith name none
  | some text => do o.recognizerWith name (some (← Basename.compile text))

/-- The base name that the texts around it are tried with. -/
def probe : String := "x"

/-- The pattern for base names must be one. -/
def checkBasename (o : DerivedName) : Check Bool :=
  match o.basename with
  | none => return true
  | some text =>
    match Basename.compile text with
    | .ok _ => return true
    | .error cause => do
      Check.error cause.message
      return false

/-- The texts around the base name must make a pattern with it. -/
def checkAround (o : DerivedName) : Check Bool :=
  match o.recognizerWith probe none with
  | .ok _ => return true
  | .error cause => do
    Check.error s!"pretemplate/posttemplate do not compile: {cause.message}"
    return false

/-- The pattern for base names and the texts around the base name must be in order. -/
def check (o : DerivedName) : Check Bool := do
  let basenameOk ← o.checkBasename
  let aroundOk ← o.checkAround
  return basenameOk && aroundOk

end DerivedName

/-! ## §3 Names by templates -/

/-- Names built by templates, in order of preference. -/
structure TemplateMap where
  id : String := ""
  enabled : Bool := true
  /-- The casing policy for templates without one of their own. -/
  casing : Option Casing := none
  templates : List Template := []
  deriving Repr, DecidableEq

namespace TemplateMap

/-- The casing policy in force for templates without one of their own. -/
def casingInForce (o : TemplateMap) : Casing := o.casing.getD .ignore

/-- The recognizer of the names that the enabled templates build from the values of placeholders. -/
def recognizer (o : TemplateMap) (values : List (String × String)) :
    Except RuleError Recognizer := do
  return ⟨← (o.templates.filter (·.enabled)).mapM (·.compile o.casingInForce values)⟩

/-- The value that placeholders are tried with. -/
def probe : String := "x"

/-- The words for a placeholder that templates of a kind may not have. -/
def illegalNameMessage (k : Kind) (name : String) : String :=
  match k.placeholders with
  | [] => s!"illegal template name '{name}': {k.label} templates take no names"
  | legal => s!"illegal template name '{name}': legal names are " ++ ", ".intercalate legal

/-- The placeholders of a list of parts that templates of a kind may not have, in order. -/
def illegalNames (k : Kind) (parts : List TemplatePart) : List String :=
  (parts.filterMap TemplatePart.name?).filter (!k.placeholders.contains ·)

/-- A template must be readable, use no other placeholders than its kind has, and make a pattern when
they are filled. -/
def checkTemplate (k : Kind) (inherited : Casing) (t : Template) : Check Bool :=
  match Template.parse t.text with
  | .error cause => do
    Check.error (RuleError.template cause).message
    return false
  | .ok parts =>
    match illegalNames k parts with
    | [] =>
      match t.compile inherited (k.placeholders.map (·, probe)) with
      | .error cause => do
        Check.error s!"template does not compile: {cause.message}"
        return false
      | .ok _ => do
        if t.text.isEmpty then
          Check.warn "template is empty; it only matches an empty name"
        return true
    | illegal => do
      illegal.forM fun name => Check.error (illegalNameMessage k name)
      return false

/-- Looks at one template after another, all of them, those that are not enabled too. An id that has
been `seen` in an earlier one is worth a warning. -/
def checkTemplates (k : Kind) (inherited : Casing) : (seen : List String) → List Template → Check Bool
  | _, [] => return true
  | seen, t :: ts => do
    if seen.contains t.id then
      Check.warn s!"duplicate template id '{t.id}'"
    let ok ← Check.inside s!"Regex[{t.id}]" (checkTemplate k inherited t)
    let restOk ← checkTemplates k inherited (t.id :: seen) ts
    return ok && restOk

/-- Every template must be in order. To have none is worth a warning, unless the kind is the one that
leaves names alone. -/
def check (k : Kind) (o : TemplateMap) : Check Bool := do
  if o.templates.isEmpty && k.isMandatory then
    Check.warn "no templates; this map matches nothing"
  checkTemplates k o.casingInForce [] o.templates

end TemplateMap

/-! ## §4 Objects by kind -/

namespace Kind

/-- The objects of a kind. -/
abbrev Object : Kind → Type
  | factCount => FixedName
  | foreignKey => DerivedName
  | table => DerivedName
  | level => TemplateMap
  | measure => TemplateMap
  | ignore => TemplateMap

/-- The id of an object. -/
def idOf : (k : Kind) → k.Object → String
  | factCount, o => FixedName.id o
  | foreignKey, o => DerivedName.id o
  | table, o => DerivedName.id o
  | level, o => TemplateMap.id o
  | measure, o => TemplateMap.id o
  | ignore, o => TemplateMap.id o

/-- Whether an object is enabled. -/
def isEnabled : (k : Kind) → k.Object → Bool
  | factCount, o => FixedName.enabled o
  | foreignKey, o => DerivedName.enabled o
  | table, o => DerivedName.enabled o
  | level, o => TemplateMap.enabled o
  | measure, o => TemplateMap.enabled o
  | ignore, o => TemplateMap.enabled o

/-- What validation has to say about an object, and whether it finds no error. -/
def check : (k : Kind) → k.Object → Check Bool
  | factCount, o => FixedName.check o
  | foreignKey, o => DerivedName.check o
  | table, o => DerivedName.check o
  | level, o => TemplateMap.check level o
  | measure, o => TemplateMap.check measure o
  | ignore, o => TemplateMap.check ignore o

/-- Equality of objects can be decided. -/
instance : (k : Kind) → DecidableEq k.Object
  | factCount => inferInstanceAs (DecidableEq FixedName)
  | foreignKey => inferInstanceAs (DecidableEq DerivedName)
  | table => inferInstanceAs (DecidableEq DerivedName)
  | level => inferInstanceAs (DecidableEq TemplateMap)
  | measure => inferInstanceAs (DecidableEq TemplateMap)
  | ignore => inferInstanceAs (DecidableEq TemplateMap)

end Kind

end AggregateNaming
