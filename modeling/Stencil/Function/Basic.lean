import Stencil.Failure
import Stencil.Value.Basic

/-!
Functions that templates can call, and registries of them.
-/

namespace Stencil

/-- A computation that may call functions: it may fail, and functions may count their calls. The count
survives a failure. -/
abbrev Call (α : Type) := ExceptT Failure (StateM Nat) α

/-- A function over values. -/
abbrev Function := List Value → Call Value

/-- A function whose result depends on its arguments alone. -/
def Function.ofPure (f : List Value → Except Failure Value) : Function :=
  fun arguments => liftExcept (f arguments)
where
  liftExcept : Except Failure Value → Call Value
    | .ok v => pure v
    | .error e => throw e

/-- Functions by name, in order of registration. -/
abbrev Functions := Assoc String Function

end Stencil
