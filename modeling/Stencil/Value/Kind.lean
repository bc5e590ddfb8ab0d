import Stencil.Value.Equality

/-!
The kinds of values, and equality within a kind.
-/

namespace Stencil.Value

/-- Kinds of values. Integers and floats are of one kind, decimals of another, and truth values are no
numbers. -/
inductive Kind where
  | null
  | truth
  | number
  | decimal
  | text
  | list
  | map
  | other
  deriving DecidableEq, Repr

/-- The kind of a value. -/
def kind : Value → Kind
  | .null => .null
  | .bool _ => .truth
  | .int _ | .float _ => .number
  | .decimal _ => .decimal
  | .str _ => .text
  | .list _ => .list
  | .map _ => .map
  | .temporal _ | .thing _ => .other

/-- Equality of values of the same kind. What lists and maps hold is compared across kinds. -/
def strictlyEqual (a b : Value) : Bool :=
  a.kind == b.kind && a == b

end Stencil.Value
