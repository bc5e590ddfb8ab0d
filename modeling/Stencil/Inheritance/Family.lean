import Stencil.Inheritance.Resolve
import Stencil.Value.Data

/-!
Families: base templates by name, and for each of them the children made from it.
-/

namespace Stencil

/-- Registered bases, and the children that were made from them, oldest first. -/
structure Family where
  bases : Assoc String Base := []
  children : Assoc String (List ChildRecord) := []

/-- The verdict on a base. -/
structure Verdict where
  errors : List String := []
  warnings : List String := []
  deriving DecidableEq, Repr

/-- Whether nothing is wrong. -/
def Verdict.isValid (v : Verdict) : Bool :=
  v.errors.isEmpty

namespace Family

/-- The children made from a base. -/
def childrenOf (family : Family) (base : String) : List ChildRecord :=
  (family.children.get? base).getD []

/-- A family with a base under its name. The children made from an earlier base of that name stay. -/
def insert (family : Family) (base : Base) : Family :=
  { bases := family.bases.set base.name base
    children := family.children.set base.name (family.childrenOf base.name) }

/-- Registers a base. -/
def register (family : Family) (base : Base) : Run Family := do
  Run.report .debug "base_template_registered" [("base", .str base.name)]
  return family.insert base

/-- The base of a name. -/
def base (family : Family) (name : String) : Except Failure Base :=
  match family.bases.get? name with
  | some base => .ok base
  | none => .error (.baseNotFound name)

/-- A family that remembers one more child of a base. -/
def remember (family : Family) (base : String) (child : ChildRecord) : Family :=
  { family with children := family.children.set base (family.childrenOf base ++ [child]) }

/-- Makes a child of a registered base. It is remembered only if that succeeds. -/
def create (family : Family) (baseName : String) (child : Child) : Run (Template × Family) := do
  let base ← Run.ofExcept (family.base baseName)
  let template ← Inheritance.resolve base child
  return (template, family.remember baseName child.record)

/-- The names of the bases in order of first registration. -/
def names (family : Family) : List String :=
  family.bases.keys

/-- What is to be said about names that a base lists but does not have. -/
def absent (kind : String) (listed declared : List String) : List String :=
  (listed.filter fun name => !declared.contains name).map fun name =>
    s!"{kind} block '{name}' not found in base template"

/-- The verdict on the text of a base. -/
def judgeSource (base : Base) (name : String) : Verdict :=
  match Markup.findRegionsOf .block base.source with
  | .error e =>
    { errors := [s!"Base template '{name}' cannot be parsed: " ++ e.fault.message] }
  | .ok regions =>
    let declared := regions.map (·.name)
    { warnings := absent "Required" base.required declared
        ++ absent "Optional" base.optional declared }

/-- Judges a base: it has to be registered and well formed, and to be no child of itself. -/
def validate (family : Family) (name : String) : Verdict :=
  match family.bases.get? name with
  | none => { errors := [s!"Base template '{name}' not found"] }
  | some base =>
    let verdict := judgeSource base name
    if (family.childrenOf name).any (·.name == name) then
      { verdict with
        errors := verdict.errors ++ [s!"Circular dependency detected in template '{name}'"] }
    else verdict

/-- A base and the names of its children as data. -/
def describe (family : Family) (name : String) (base : Base) : Value :=
  .ofBindings [
    ("source", .str base.source),
    ("description", .str base.description),
    ("default_bindings", .ofBindings base.bindings),
    ("required_blocks", .ofStrings base.required),
    ("optional_blocks", .ofStrings base.optional),
    ("children", .ofStrings ((family.childrenOf name).map (·.name)))]

/-- All bases with their children as data. -/
def toValue (family : Family) : Value :=
  .ofBindings (family.bases.map fun (name, base) => (name, family.describe name base))

/-- All bases with their children as indented JSON. -/
def toJson (family : Family) : Except Failure String :=
  family.toValue.indented 0

end Family

end Stencil
