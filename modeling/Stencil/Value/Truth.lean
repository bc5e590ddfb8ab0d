import Stencil.Text.Case
import Stencil.Value.Basic

/-!
When a value counts as true.
-/

namespace Stencil.Value

/-- Whether a value counts as true: not missing, false or zero, neither empty nor the word *false* in
any spelling. The text `0` counts as true. -/
def isTruthy : Value → Bool
  | .null => false
  | .bool b => b
  | .int n => n != 0
  | .float x => x != 0
  | .str s => let small := String.ofList (Text.lower s.toList); small != "" && small != "false"
  | .list items => !items.isEmpty
  | .map entries => !entries.isEmpty
  | .decimal _ | .temporal _ | .thing _ => true

end Stencil.Value
