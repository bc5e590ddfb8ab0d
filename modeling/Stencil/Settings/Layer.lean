import Stencil.Value.Equality

/-!
Layers of settings. A later layer is put over an earlier one table by table: where both have a table,
the tables are merged, and everywhere else the later layer wins.
-/

namespace Stencil.Settings

/-- A table: the entries of a map. -/
abbrev Table := Assoc Value Value

/-- The entries of a table whose keys another table does not have. -/
def without (table other : Table) : Table :=
  table.filter fun entry => !other.has entry.1

mutual

/-- Puts a value over another. -/
def layerValue : Value → Value → Value
  | .map below, above =>
    match above with
    | .map entries => .map (layerEntries below entries ++ without entries below)
    | v => v
  | _, above => above

/-- The entries of the lower table, each with what the upper table has to say about it. -/
def layerEntries : List (Value × Value) → Table → List (Value × Value)
  | [], _ => []
  | (key, value) :: rest, above =>
    (key, match above.get? key with
      | some v => layerValue value v
      | none => value) :: layerEntries rest above

end

/-- Puts a table over another. -/
def layer (below above : Table) : Table :=
  layerEntries below above ++ without above below

end Stencil.Settings
