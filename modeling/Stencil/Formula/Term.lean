import Stencil.Value.Basic

/-!
The syntax trees of formulas.
-/

namespace Stencil

/-- Operations on two values that are both needed. -/
inductive Formula.Operator where
  | equal
  | different
  | less
  | lessOrEqual
  | greater
  | greaterOrEqual
  | plus
  | minus
  | times
  | dividedBy
  /-- Whether a text fits a pattern, from its start or anywhere, or does not. -/
  | fits (anywhere negated : Bool)
  /-- Whether the second value holds the first. -/
  | within
  deriving DecidableEq, Repr

/-- A formula. -/
inductive Formula where
  | literal (v : Value)
  /-- A name in the context. -/
  | name (name : String)
  | function (name : String)
  | member (object : Formula) (name : String)
  | item (container key : Formula)
  | call (callee : Formula) (arguments : List Formula)
  | list (items : List Formula)
  | not (operand : Formula)
  | negative (operand : Formula)
  | and (left right : Formula)
  | or (left right : Formula)
  | binary (operator : Formula.Operator) (left right : Formula)
  deriving Inhabited

end Stencil
