import Stencil.Condition.Evaluate
import Stencil.Schema.Scalar
import Stencil.Text.Part
import Stencil.Value.Kind

/-!
Requirements: what a rule demands of single fields of the context.
-/

namespace Stencil

namespace Value

/-- Follows names through nested maps. Where a name leads nowhere, the value is missing. -/
def nested (v : Value) : List String → Value
  | [] => v
  | name :: rest =>
    match v with
    | .map entries => nested ((Assoc.get? entries (.str name)).getD .null) rest
    | _ => .null

/-- The value of a dotted path in a map. -/
def field (v : Value) (path : String) : Value :=
  v.nested (pathSegments path)

/-- The double that a value stands for, if it is a number or spells one. -/
def measure? (v : Value) : Except Failure (Option Float) :=
  match v.toNumber? with
  | none => .ok none
  | some n =>
    match n.toFloat with
    | .ok x => .ok (some x)
    | .error fault => .error (.arithmetic fault)

/-- Whether a value holds another: a list an item, a map a key, and the text of anything else the
text of the other value. Items are compared as values, so that no list holds a float that is no
number. -/
def holds (container v : Value) (dump : Value → Except Failure String := compact) :
    Except Failure Bool :=
  match container with
  | .null => .ok false
  | .list items => .ok (items.any (· == v))
  | .map entries => if v.isKey then .ok (Assoc.has entries v) else .error .unhashable
  | _ => do
    let part ← v.toText dump
    let whole ← container.toText dump
    return Text.isPart part.toList whole.toList

end Value

namespace Composition

/-- How a field is compared with an expected value. -/
inductive Relation where
  | equal
  | different
  | greater
  | less
  | greaterOrEqual
  | lessOrEqual
  | holding
  | present
  | among
  deriving DecidableEq, Repr

/-- A demand on one field of the context. -/
structure Requirement where
  /-- The dotted path of the field. -/
  field : String
  relation : Relation
  expected : Value

/-- The words for relations. -/
def Relation.words : List (String × Relation) :=
  [ ("equals", .equal), ("not_equals", .different), ("greater_than", .greater),
    ("less_than", .less), ("greater_or_equal", .greaterOrEqual), ("less_or_equal", .lessOrEqual),
    ("contains", .holding), ("exists", .present), ("in", .among) ]

/-- The signs that some words may be written as. -/
def Relation.signs : List (String × String) :=
  [ ("==", "equals"), ("!=", "not_equals"), (">", "greater_than"), ("<", "less_than"),
    (">=", "greater_or_equal"), ("<=", "less_or_equal") ]

/-- The word for a relation. -/
def Relation.word : Relation → String
  | .equal => "equals"
  | .different => "not_equals"
  | .greater => "greater_than"
  | .less => "less_than"
  | .greaterOrEqual => "greater_or_equal"
  | .lessOrEqual => "less_or_equal"
  | .holding => "contains"
  | .present => "exists"
  | .among => "in"

/-- Whether a comparison of two values as doubles holds. It does not where either is no number. -/
def ordered (comparison : Comparison) (a b : Value) : Except Failure Bool := do
  let x ← a.measure?
  let y ← b.measure?
  match x, y with
  | some x, some y =>
    match (Number.Numeric.float x).compare? (.float y) with
    | some order => return comparison.holds order
    | none => return false
  | _, _ => return false

/-- Whether a value strictly equals an item of a list. -/
def isAmong (v : Value) : Value → Bool
  | .list items => items.any v.strictlyEqual
  | _ => false

/-- Whether a relation holds between the value of a field and an expected value. -/
def Relation.holds (relation : Relation) (v expected : Value)
    (dump : Value → Except Failure String := Value.compact) : Except Failure Bool :=
  match relation with
  | .equal => .ok (v.strictlyEqual expected)
  | .different => .ok (!v.strictlyEqual expected)
  | .greater => ordered .gt v expected
  | .less => ordered .lt v expected
  | .greaterOrEqual => ordered .ge v expected
  | .lessOrEqual => ordered .le v expected
  | .holding => v.holds expected dump
  | .present => .ok (v.kind != .null)
  | .among => .ok (isAmong v expected)

/-- Whether a requirement is met in a context. -/
def Requirement.holds (r : Requirement) (context : Bindings)
    (dump : Value → Except Failure String := Value.compact) : Except Failure Bool :=
  r.relation.holds ((Value.ofBindings context).field r.field) r.expected dump

open Schema

/-- Reads a relation, in words or as a sign. -/
def Relation.read (v : Value) : Reading Relation :=
  match v with
  | .str s => choice Relation.words (.str ((Relation.signs.lookup s).getD s))
  | _ => choice Relation.words v

/-- Reads a requirement. -/
def Requirement.read : Value → Reading Requirement :=
  record "ContextCondition" fun fields =>
    Requirement.mk
      <$> required fields "field" text
      <*> required fields "operator" Relation.read
      <*> withDefault fields "value" pure .null

/-- A requirement as data. -/
def Requirement.toValue (r : Requirement) : Value :=
  .ofBindings [
    ("field", .str r.field), ("operator", .str r.relation.word), ("value", r.expected)]

end Composition

end Stencil
