import Stencil.Composition.Rule
import Stencil.Settings.Load

/-!
Composition rules from files in TOML, where they form an array of tables.
-/

namespace Stencil.Composition

/-- The rules that the tables of an array describe, up to the first that is none. -/
def rulesOf (path : String) : List Value → Except Failure (List Rule)
  | [] => .ok []
  | .map fields :: rest => do
    let rule ← Rule.ofFields fields
    return rule :: (← rulesOf path rest)
  | _ :: _ => .error (.invalidRule s!"Each entry of 'rules' in {path} must be a table" none [])

/-- The rules of a file. -/
def loadRules (folder : Folder) (file : List String) : Except Failure (List Rule) := do
  let table ← folder.readToml file
  let path := folder.written file
  match Assoc.get? table (.str "rules") with
  | none => return []
  | some (.list entries) => rulesOf path entries
  | some _ => throw (.invalidRule s!"'rules' in {path} must be an array of tables" none [])

end Stencil.Composition
