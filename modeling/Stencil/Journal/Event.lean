import Stencil.Value.Basic

/-!
Events that operations report on the side.
-/

namespace Stencil

/-- How grave an event is. -/
inductive Severity where
  | debug
  | info
  | warning
  | error
  | critical
  deriving DecidableEq, Repr

/-- Something that happened, with named details in the order in which they were given. -/
structure Event where
  severity : Severity
  name : String
  details : Bindings

end Stencil
