import Stencil.Composition.Behavior
import Stencil.Pattern.Match
import Stencil.Pattern.Parse

/-!
Composition rules. A rule makes templates eligible whose names it fits, in contexts that meet all its
demands.
-/

namespace Stencil.Composition

/-- A pattern for the names of templates, and its text. -/
structure NamePattern where
  text : String
  pattern : Pattern

/-- A rule: demands on the names of templates and on contexts, and how much it counts. -/
structure Rule where
  name : String
  /-- A pattern that the names of eligible templates have to contain. -/
  pattern : Option NamePattern := none
  requirements : List Requirement := []
  behaviors : List Behavior := []
  expression : String := ""
  priority : Int := 0
  description : Option String := none
  isEnabled : Bool := true

/-- Whether a rule fits the name of a template. -/
def Rule.fits (rule : Rule) (template : String) : Bool :=
  rule.pattern.all fun p => p.pattern.isFoundIn template

open Schema

/-- Reads a pattern for names. -/
def NamePattern.read (v : Value) : Reading NamePattern :=
  (Schema.text v).andThen fun s =>
    match Pattern.compile s with
    | .ok pattern => pure ⟨s, pattern⟩
    | .error refusal => .refuse (.invalid ("invalid regular expression: " ++ refusal.message s))

/-- Reads a rule. -/
def Rule.read (fields : Fields) : Reading Rule :=
  Rule.mk
    <$> required fields "name" text
    <*> withDefault fields "template_pattern" (nullable NamePattern.read) none
    <*> withDefault fields "conditions" (listOf Requirement.read) []
    <*> withDefault fields "behavior_patterns" (listOf Behavior.read) []
    <*> withDefault fields "expression" text ""
    <*> withDefault fields "priority" integer 0
    <*> withDefault fields "description" (nullable text) none
    <*> withDefault fields "enabled" truth true

/-- The text that a rule's fields give as its name, if they do. -/
def nameIn (fields : Fields) : Option String :=
  match fields.get? (.str "name") with
  | some (.str s) => some s
  | _ => none

/-- The rule that fields describe. -/
def Rule.ofFields (fields : Fields) : Except Failure Rule :=
  match Rule.read fields with
  | .accepted rule => .ok rule
  | .rejected findings =>
    let errors := findings.map (·.message)
    .error (.invalidRule ("Invalid composition rule: " ++ "; ".intercalate errors) (nameIn fields)
      errors)

/-- A rule as data. -/
def Rule.toValue (rule : Rule) : Value :=
  .ofBindings [
    ("name", .str rule.name),
    ("template_pattern", orNull (fun p => .str p.text) rule.pattern),
    ("conditions", .list (rule.requirements.map (·.toValue))),
    ("behavior_patterns", .list (rule.behaviors.map (·.toValue))),
    ("expression", .str rule.expression),
    ("priority", .int rule.priority),
    ("description", orNull .str rule.description),
    ("enabled", .bool rule.isEnabled)]

end Stencil.Composition
