import Stencil.Formula.Term
import Stencil.Pattern.Match
import Stencil.Pattern.Parse
import Stencil.Text.Part
import Stencil.Value.Kind

/-!
What formulas compute with. All numbers are decimals; operations on values that do not go together have
no result.
-/

namespace Stencil.Formula

open Stencil.Number

mutual

/-- A value as formulas see it: every number is a decimal, a float the one that its shortest text
spells. -/
def adapt : Value → Value
  | .int n => .decimal (.ofInt n)
  | .float x => .decimal (.ofFloat x)
  | .list items => .list (adaptItems items)
  | .map entries => .map (adaptEntries entries)
  | v => v

/-- The items of a list as formulas see them. -/
def adaptItems : List Value → List Value
  | [] => []
  | v :: rest => adapt v :: adaptItems rest

/-- The entries of a map as formulas see them. -/
def adaptEntries : List (Value × Value) → List (Value × Value)
  | [] => []
  | (key, v) :: rest => (adapt key, adapt v) :: adaptEntries rest

end

/-- Whether a value counts as true in a formula: missing, false, zero and empty values do not. -/
def holds : Value → Bool
  | .null => false
  | .bool b => b
  | .decimal d => !d.isZero
  | .int n => n != 0
  | .float x => x != 0
  | .str s => !s.isEmpty
  | .list items => !items.isEmpty
  | .map entries => !entries.isEmpty
  | .temporal _ | .thing _ => true

mutual

/-- The order of two values, if they have one. -/
def order? : Value → Value → Option Ordering
  | .list xs, other =>
    match other with
    | .list ys => orderItems? xs ys
    | _ => none
  | .null, .null => some .eq
  | .bool a, .bool b => some (compare a.toNat b.toNat)
  | .str s, .str t => some (compare s t)
  | .decimal a, .decimal b => a.compare? b
  | _, _ => none

/-- The order of two lists: that of the first items that differ, or that of their lengths. -/
def orderItems? : List Value → List Value → Option Ordering
  | [], ys => some (compare 0 ys.length)
  | xs, [] => some (compare xs.length 0)
  | x :: xs, y :: ys =>
    match order? x y with
    | some .eq => orderItems? xs ys
    | found => found

end

/-- The sum of two numbers, or two texts one after the other. -/
def sum? : Value → Value → Option Value
  | .str s, .str t => some (.str (s ++ t))
  | .decimal a, .decimal b => (a.add? b).map .decimal
  | _, _ => none

/-- Arithmetic on two numbers. -/
def arithmetic? (f : Decimal → Decimal → Option Decimal) : Value → Value → Option Value
  | .decimal a, .decimal b => (f a b).map .decimal
  | _, _ => none

/-- Whether a text fits a pattern, which is text too. Nothing fits only nothing. -/
def fits? (anywhere : Bool) : Value → Value → Option Bool
  | .str text, .str pattern =>
    match Pattern.compile pattern with
    | .ok p => some (if anywhere then p.isFoundIn text else p.fitsStart text)
    | .error _ => none
  | .null, .null => some true
  | .null, .str pattern => if (Pattern.compile pattern).isOk then some false else none
  | .str _, .null => some false
  | _, _ => none

mutual

/-- Whether a value can be looked up in a map. Lists can if their items can. -/
def isLookable : Value → Bool
  | .map _ => false
  | .list items => areLookable items
  | _ => true

/-- Whether all items can be looked up in a map. -/
def areLookable : List Value → Bool
  | [] => true
  | v :: rest => isLookable v && areLookable rest

end

/-- Whether a container holds a value: a text a part, a list an item, a map a key. -/
def contains? (container member : Value) : Option Bool :=
  match container with
  | .str whole =>
    match member with
    | .str part => some (Text.isPart part.toList whole.toList)
    | _ => none
  | .list items => some (items.any (· == member))
  | .map entries =>
    if isLookable member then some (entries.any fun entry => entry.1 == member) else none
  | _ => none

/-- The value at a position; negative positions count from the end. -/
def atPosition? {α : Type} (items : List α) (key : Value) : Option α :=
  match key with
  | .decimal d =>
    match d.toInt? with
    | some n =>
      let position := if n < 0 then n + items.length else n
      if position < 0 then none else items[position.toNat]?
    | none => none
  | _ => none

/-- The item of a container under a key. -/
def itemOf? (container key : Value) : Option Value :=
  match container with
  | .str s => (atPosition? s.toList key).map fun c => .str c.toString
  | .list items => atPosition? items key
  | .map entries => if isLookable key then Assoc.get? entries key else none
  | _ => none

/-- The number with the opposite sign. -/
def negative? : Value → Option Value
  | .decimal d => some (.decimal d.negate)
  | _ => none

/-- The result of an operation. -/
def Operator.result? (operator : Operator) (a b : Value) : Option Value :=
  match operator with
  | .equal => some (.bool (a.strictlyEqual b))
  | .different => some (.bool (!a.strictlyEqual b))
  | .less => (order? a b).map fun o => .bool (o == .lt)
  | .lessOrEqual => (order? a b).map fun o => .bool (o != .gt)
  | .greater => (order? a b).map fun o => .bool (o == .gt)
  | .greaterOrEqual => (order? a b).map fun o => .bool (o != .lt)
  | .plus => sum? a b
  | .minus => arithmetic? Decimal.sub? a b
  | .times => arithmetic? Decimal.mul? a b
  | .dividedBy => arithmetic? Decimal.div? a b
  | .fits anywhere negated => (fits? anywhere a b).map fun found => .bool (found != negated)
  | .within => (contains? b a).map .bool

end Stencil.Formula
