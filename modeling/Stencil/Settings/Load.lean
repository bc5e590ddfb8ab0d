import Stencil.Files.Folder
import Stencil.Settings.Basic
import Stencil.Settings.Environment
import Stencil.Toml.Document

/-!
Settings from files and the environment. The defaults lie lowest, a file lies over them, and the
environment on top.
-/

namespace Stencil

/-- The table that a file in TOML holds. -/
def Folder.readToml (folder : Folder) (path : List String) : Except Failure Settings.Table := do
  match Toml.read (← folder.read path) with
  | .ok (.map entries) => return entries
  | .ok _ => return []
  | .error .malformed => throw .malformedSettings
  | .error .longInteger => throw .longInteger

namespace Settings

/-- The settings of a file. -/
def ofFile (folder : Folder) (path : List String) : Except Failure Settings := do
  ofTable (← folder.readToml path) (some (folder.written path))

/-- The path of the file to load: a given one has to exist, a usual one is taken if it does. -/
def filePath (folder : Folder) (given : Option (List String)) (usual : String) :
    Except Failure (Option (List String)) :=
  match given with
  | some path => if folder.exists? path then .ok (some path) else .error (.file .notFound)
  | none => .ok (if folder.hasFile [usual] then some [usual] else none)

/-- The settings of a file and the environment together. -/
def load (folder : Folder) (given : Option (List String)) (usual : String)
    (environment : Table) : Except Failure Settings := do
  let path ← filePath folder given usual
  let table ← match path with
    | some path => folder.readToml path
    | none => pure []
  let sources := (path.map folder.written).toList
    ++ if environment.isEmpty then [] else ["env"]
  let source := if sources.isEmpty then none else some (", ".intercalate sources)
  let settings ← ofTable (layer table environment) source
  return { settings with sources }

end Settings

end Stencil
