import Stencil.Number.Numeral
import Stencil.Number.Numeric
import Stencil.Value.Basic

/-!
Values as numbers. Texts that spell a number count as numbers; truth values do not.
-/

namespace Stencil.Value

open Stencil.Number

/-- A number as a value. -/
def ofNumeric : Numeric → Value
  | .int n => .int n
  | .float x => .float x

/-- The number that a text spells. A text never spells not-a-number. -/
def spelledNumber? (s : String) : Option Numeric :=
  match readInt? s.toList with
  | some n => some (.int n)
  | none =>
    match readFloat? s.toList with
    | some x => if Dyadic.isNaN x then none else some (.float x)
    | none => none

/-- The number that a value stands for. -/
def toNumber? : Value → Option Numeric
  | .int n => some (.int n)
  | .float x => some (.float x)
  | .str s => spelledNumber? s
  | _ => none

end Stencil.Value
