import Stencil.Number.Numeric
import Stencil.Value.Basic

/-!
Equality of values. Numbers are equal across their kinds, a truth value equals one or zero, lists are
equal item by item and maps key by key whatever their order.

A float that is no number equals nothing, not even itself. So values are told apart by what they are and
not by where they are stored: one such float that two lists share does not make them equal.
-/

namespace Stencil.Value

open Stencil.Number

/-- The decimal that a numeric value or truth value exactly equals. -/
def exactDecimal? : Value → Option Decimal
  | .bool b => some (.ofInt b.toNat)
  | .int n => some (.ofInt n)
  | .float x => some (.exactly x)
  | .decimal d => some d
  | _ => none

/-- Equality of values that are neither lists nor maps. -/
def equalScalar : Value → Value → Bool
  | .null, .null => true
  | .str s, .str t => s == t
  | .int m, .int n => m == n
  | .bool a, .bool b => a == b
  | .temporal s, .temporal t => s.isSame t
  | .thing (.kindOf a), .thing (.kindOf b) => a == b
  | a, b =>
    match exactDecimal? a, exactDecimal? b with
    | some x, some y => x.compare? y == some .eq
    | _, _ => false

mutual

/-- Equality of values. -/
def equal : Value → Value → Bool
  | .list xs, other =>
    match other with
    | .list ys => equalItems xs ys
    | _ => false
  | .map entries, other =>
    match other with
    | .map others => entries.length == others.length && equalEntries entries others
    | _ => false
  | a, b => equalScalar a b

/-- Equality of lists item by item. -/
def equalItems : List Value → List Value → Bool
  | [], [] => true
  | x :: xs, y :: ys => equal x y && equalItems xs ys
  | _, _ => false

/-- Whether every entry has its equal among the entries of another map. -/
def equalEntries : List (Value × Value) → List (Value × Value) → Bool
  | [], _ => true
  | (key, value) :: rest, others =>
    (match others.find? fun entry => equal key entry.1 with
      | some entry => equal value entry.2
      | none => false)
    && equalEntries rest others

end

instance : BEq Value := ⟨equal⟩

/-- Whether a value can be a key of a map. -/
def isKey : Value → Bool
  | .list _ | .map _ => false
  | _ => true

end Stencil.Value
