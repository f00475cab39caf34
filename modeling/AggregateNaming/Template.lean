import AggregateNaming.Recognizer

/-!
# Templates

Texts with placeholders that are filled with the names of levels and measures. What stands around
the placeholders is pattern text of the author; what fills them stands for itself.

- `Template.parse` : the parts of a template.
- `Template.print` : the text of a list of parts.
- `Template.render` : a template with its placeholders filled.
- `Template.compile` : the pattern of a template with its placeholders filled.
-/

namespace AggregateNaming

/-! ## §1 Parts -/

/-- A part of a template. -/
inductive TemplatePart where
  /-- Pattern text of the author. -/
  | literal (text : String)
  | placeholder (name : String)
  deriving Repr, DecidableEq

namespace TemplatePart

/-- A part as it is written. -/
def print : TemplatePart → List Char
  | literal text => text.toList
  | placeholder name => ['$', '{'] ++ name.toList ++ ['}']

/-- The name of a placeholder. -/
def name? : TemplatePart → Option String
  | literal _ => none
  | placeholder name => some name

/-- The literal of a list of characters, if there are any. -/
def literal? (cs : List Char) : List TemplatePart :=
  if cs.isEmpty then [] else [literal (.ofList cs)]

/-- The characters of the names of placeholders. -/
def isNameChar (c : Char) : Bool := c.isAlphanum || c == '_'

/-- The placeholder with a name, in the template with a text. -/
def ofName (text : String) (name : List Char) : Except TemplateError TemplatePart :=
  if name.isEmpty then .error (.emptyName text)
  else if name.all isNameChar then .ok (placeholder (.ofList name))
  else .error (.badName (.ofList name) text)

end TemplatePart

/-- Where the reading of a template is, with the characters there so far, last first. -/
inductive TemplatePlace where
  | inLiteral (taken : List Char)
  | inPlaceholder (taken : List Char)
  deriving Repr, DecidableEq

namespace Template

/-- Reads parts from a place in the template with a text. -/
def parseFrom (text : String) :
    TemplatePlace → List Char → Except TemplateError (List TemplatePart)
  | .inLiteral taken, [] => .ok (TemplatePart.literal? taken.reverse)
  | .inLiteral taken, '$' :: '{' :: rest => do
    return TemplatePart.literal? taken.reverse ++ (← parseFrom text (.inPlaceholder []) rest)
  | .inLiteral taken, c :: rest => parseFrom text (.inLiteral (c :: taken)) rest
  | .inPlaceholder _, [] => .error (.unclosed text)
  | .inPlaceholder taken, '}' :: rest => do
    let part ← TemplatePart.ofName text taken.reverse
    return part :: (← parseFrom text (.inLiteral []) rest)
  | .inPlaceholder taken, c :: rest => parseFrom text (.inPlaceholder (c :: taken)) rest

/-- The parts of a template. -/
def parse (text : String) : Except TemplateError (List TemplatePart) :=
  parseFrom text (.inLiteral []) text.toList

/-- The text of a list of parts. -/
def print (parts : List TemplatePart) : String := .ofList (parts.flatMap TemplatePart.print)

end Template

/-! ## §2 Filling -/

/-- A template of a rule object. -/
structure Template where
  id : String
  enabled : Bool := true
  /-- The casing policy of the template, where it has one of its own. -/
  casing : Option Casing := none
  text : String
  /-- What stands for a space of a value. -/
  space : Option String := none
  /-- What stands for a dot of a value. -/
  dot : Option String := none
  deriving Repr, DecidableEq

namespace Template

/-- What stands for a space or a dot where nothing is given. -/
def defaultMarker : String := "_"

/-- The casing policy in force. -/
def casingIn (t : Template) (inherited : Casing) : Casing := t.casing.getD inherited

/-- What stands for a space. -/
def spaceMarker (t : Template) : String := t.space.getD defaultMarker

/-- What stands for a dot. -/
def dotMarker (t : Template) : String := t.dot.getD defaultMarker

/-- A text with another in place of every occurrence of a character. -/
def replaceChar (c : Char) (marker : List Char) (cs : List Char) : List Char :=
  cs.flatMap fun d => if d == c then marker else [d]

/-- A value with its spaces replaced first, and then all dots, those of the marker for spaces
included. -/
def mark (t : Template) (value : String) : String :=
  .ofList (replaceChar '.' t.dotMarker.toList (replaceChar ' ' t.spaceMarker.toList value.toList))

/-- The text that a part stands for. -/
def renderPart (t : Template) (inherited : Casing) (values : List (String × String)) :
    TemplatePart → Except TemplateError String
  | .literal text => .ok text
  | .placeholder name =>
    match values.lookup name with
    | some value => .ok ((t.casingIn inherited).literal (t.mark value))
    | none => .error (.noValue name t.id)

/-- A template with its placeholders filled; where a name has several values, the first counts. -/
def render (t : Template) (inherited : Casing) (values : List (String × String)) :
    Except RuleError String :=
  match (do (← parse t.text).mapM (t.renderPart inherited values) :
      Except TemplateError (List String)) with
  | .ok texts => .ok (String.join texts)
  | .error cause => .error (.template cause)

/-- The pattern of a template with its placeholders filled. -/
def compile (t : Template) (inherited : Casing) (values : List (String × String)) :
    Except RuleError NamedPattern := do
  let text ← t.render inherited values
  match NamePattern.compile (t.casingIn inherited) text with
  | .ok p => return ⟨t.id, p⟩
  | .error cause => .error (.pattern cause)

end Template

end AggregateNaming
