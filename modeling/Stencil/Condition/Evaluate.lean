import Stencil.Condition.Basic
import Stencil.Function.Basic
import Stencil.Scope
import Stencil.Value.Text
import Stencil.Value.Truth

/-!
The value of a condition in a scope.
-/

namespace Stencil

/-- Whether an order satisfies a comparison. -/
def Comparison.holds : Comparison → Ordering → Bool
  | .eq, o => o == .eq
  | .ne, o => o != .eq
  | .ge, o => o != .lt
  | .le, o => o != .gt
  | .gt, o => o == .gt
  | .lt, o => o == .lt

/-- Whether a comparison holds where there is no order at all. -/
def Comparison.holdsUnordered : Comparison → Bool
  | .ne => true
  | _ => false

namespace Value

/-- Compares two values. Two numbers, or texts that spell numbers, compare as numbers. Otherwise
equality compares the written texts, and no order holds. -/
def compare (comparison : Comparison) (left right : Value) : Except Failure Bool :=
  match left.toNumber?, right.toNumber? with
  | some x, some y =>
    match x.compare? y with
    | some o => .ok (comparison.holds o)
    | none => .ok comparison.holdsUnordered
  | _, _ =>
    match comparison with
    | .eq => do return (← left.toText) == (← right.toText)
    | .ne => do return (← left.toText) != (← right.toText)
    | _ => .ok false

/-- Compares two values by the sign of a comparison. An unknown sign never holds. -/
def compareBySign (sign : String) (left right : Value) : Except Failure Bool :=
  match Comparison.ofSign? sign with
  | some comparison => compare comparison left right
  | none => .ok false

end Value

/-- A result without effects, as a computation that may call functions. -/
def Call.ofExcept {α : Type} : Except Failure α → Call α
  | .ok a => pure a
  | .error e => throw e

namespace Condition

mutual

/-- The value of an operand. An unbound name is its own text where bare words are allowed, and has no
value elsewhere. -/
def Operand.value (scope : Scope) (functions : Functions) (bareWord : Bool) : Operand → Call Value
  | .literal v => pure v
  | .reference path => do
    match ← Call.ofExcept (scope.lookup path) with
    | some v => return v
    | none => return if bareWord then .str path else .null
  | .call name arguments =>
    match functions.get? name with
    | none => throw (.unknownFunction name)
    | some f => do f (← valuesOf scope functions arguments)

/-- The values of the arguments of a call, from left to right. -/
def valuesOf (scope : Scope) (functions : Functions) : List Operand → Call (List Value)
  | [] => pure []
  | operand :: rest => do
    let head ← operand.value scope functions true
    let tail ← valuesOf scope functions rest
    return head :: tail

end

/-- Whether a condition holds. -/
def evaluate (c : Condition) (scope : Scope) (functions : Functions) : Call Bool :=
  match c.comparison with
  | none => do return (← c.left.value scope functions false).isTruthy
  | some (comparison, operand) => do
    let left ← c.left.value scope functions true
    let right ← operand.value scope functions true
    Call.ofExcept (Value.compare comparison left right)

end Condition

end Stencil
