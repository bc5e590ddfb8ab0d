import Stencil.Formula.Operation
import Stencil.Formula.Parse

/-!
Folding: the parts of a formula that need no context are computed when the formula is compiled, and
operations on values that can never go together are refused then.
-/

namespace Stencil.Formula

/-- The kind that the value of a formula is known to have whatever the context. -/
def kind? : Formula → Option Value.Kind
  | .literal v => some v.kind
  | .name _ | .function _ | .member _ _ | .call _ _ => none
  | .list _ => some .list
  | .item container _ => if container.kind? == some .text then some .text else none
  | .not _ | .and _ _ | .or _ _ => some .truth
  | .negative _ => some .decimal
  | .binary operator left right =>
    match operator with
    | .plus => if left.kind? == right.kind? then left.kind? else none
    | .minus | .times | .dividedBy => some .decimal
    | _ => some .truth

/-- Whether a kind is one of several, as far as it is known. -/
def isAmong (kinds : List Value.Kind) (kind : Option Value.Kind) : Bool :=
  kind.all kinds.contains

/-- Whether two kinds are the same, as far as they are known. -/
def agree (a b : Option Value.Kind) : Bool :=
  match a, b with
  | some k, some l => k == l
  | _, _ => true

/-- Whether an operation makes sense on values of two kinds, as far as they are known. -/
def Operator.allows (operator : Operator) (a b : Option Value.Kind) : Bool :=
  match operator with
  | .equal | .different => true
  | .less | .lessOrEqual | .greater | .greaterOrEqual => agree a b
  | .plus => isAmong [.decimal, .text] a && isAmong [.decimal, .text] b && agree a b
  | .minus | .times | .dividedBy => isAmong [.decimal] a && isAmong [.decimal] b
  | .fits _ _ => isAmong [.null, .text] a && isAmong [.null, .text] b
  | .within => isAmong [.text, .list, .map] b && (b != some .text || isAmong [.text] a)

/-- Whether a constant pattern is a pattern at all. -/
def Operator.accepts (operator : Operator) (right : Formula) : Bool :=
  match operator, right with
  | .fits _ _, .literal (.str pattern) => (Pattern.compile pattern).isOk
  | _, _ => true

/-- Whether a container of a kind can have an item under a key of a kind, as far as they are known. -/
def allowsItem (container key : Option Value.Kind) : Bool :=
  isAmong [.text, .list, .map] container && (container.isNone || isAmong [.decimal] key)

/-- The values of formulas that are all literals. -/
def literals? : List Formula → Option (List Value)
  | [] => some []
  | .literal v :: rest => (literals? rest).map (v :: ·)
  | _ :: _ => none

/-- A literal of a value, if there is one. -/
def foldTo (v : Option Value) : Except RuleStage Formula :=
  match v with
  | some v => .ok (.literal v)
  | none => .error .folding

/-- Folds an operation on folded operands. -/
def foldBinary (operator : Operator) (left right : Formula) : Except RuleStage Formula :=
  if operator.allows left.kind? right.kind? && operator.accepts right then
    match left, right with
    | .literal a, .literal b => foldTo (operator.result? a b)
    | _, _ => .ok (.binary operator left right)
  else .error .folding

/-- Folds a lookup of an item on folded parts. -/
def foldItem (container key : Formula) : Except RuleStage Formula :=
  if allowsItem container.kind? key.kind? then
    match container, key with
    | .literal a, .literal b => foldTo (itemOf? a b)
    | _, _ => .ok (.item container key)
  else .error .folding

mutual

/-- Folds a formula. -/
def fold : Formula → Except RuleStage Formula
  | .literal v => .ok (.literal v)
  | .name s => .ok (.name s)
  | .function s => .ok (.function s)
  | .member object s => do
    let object ← fold object
    if object.kind?.isSome then throw .folding
    return .member object s
  | .item container key => do foldItem (← fold container) (← fold key)
  | .call callee arguments => do
    let callee ← fold callee
    if callee.kind?.isSome then throw .folding
    return .call callee (← foldAll arguments)
  | .list items => do
    let items ← foldAll items
    return match literals? items with
      | some values => .literal (.list values)
      | none => .list items
  | .not operand => do
    match ← fold operand with
    | .literal v => return .literal (.bool !holds v)
    | operand => return .not operand
  | .negative operand => do
    match ← fold operand with
    | .literal v => foldTo (negative? v)
    | operand => return .negative operand
  | .and left right => do
    match ← fold left, ← fold right with
    | .literal a, .literal b => return .literal (.bool (holds a && holds b))
    | left, right => return .and left right
  | .or left right => do
    match ← fold left, ← fold right with
    | .literal a, .literal b => return .literal (.bool (holds a || holds b))
    | left, right => return .or left right
  | .binary operator left right => do foldBinary operator (← fold left) (← fold right)

/-- Folds several formulas. -/
def foldAll : List Formula → Except RuleStage (List Formula)
  | [] => .ok []
  | formula :: rest => do
    let head ← fold formula
    return head :: (← foldAll rest)

end

end Stencil.Formula
