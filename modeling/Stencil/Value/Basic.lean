import Stencil.Assoc
import Stencil.Number.Decimal
import Stencil.Value.Temporal

/-!
The values that templates, rules and settings work with: what a data file can hold, decimals, and
opaque members of values.
-/

namespace Stencil

/-- Things that can be reached by a path but are no data. -/
inductive Opaque where
  /-- An operation that belongs to a value. -/
  | method
  /-- The kind of a value, under the name of the kind. -/
  | kindOf (name : String)
  /-- Anything else, under the name of its kind or another one by which a host knows it. -/
  | foreign (name : String)
  deriving DecidableEq, Repr

/-- A value. Maps keep the order of their entries and may have any scalar as a key. -/
inductive Value where
  | null
  | bool (b : Bool)
  | int (n : Int)
  | float (x : Float)
  | str (s : String)
  | list (items : List Value)
  | map (entries : List (Value × Value))
  | decimal (d : Number.Decimal)
  | temporal (t : Temporal)
  | thing (o : Opaque)
  deriving Inhabited

/-- Named values, as templates and contexts see them. -/
abbrev Bindings := Assoc String Value

namespace Value

/-- A map with text keys. -/
def ofBindings (bindings : Bindings) : Value :=
  .map (bindings.map fun entry => (.str entry.1, entry.2))

/-- A list of texts. -/
def ofStrings (names : List String) : Value :=
  .list (names.map .str)

/-- Whether a value is a map. -/
def isMap : Value → Bool
  | .map _ => true
  | _ => false

end Value

end Stencil
