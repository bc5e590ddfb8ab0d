import Stencil.Settings.Layer
import Stencil.Value.Number

/-!
Settings from environment variables. After a common beginning, the name of a variable spells a path of
keys with two underscores between them. Later variables win over earlier ones.
-/

namespace Stencil.Settings

open Stencil.Number

/-- The value that the text of a variable stands for: a truth value or a number if it reads as one. -/
def environmentValue (text : String) : Value :=
  let small := String.ofList (Text.lower text.toList)
  if small == "true" then .bool true
  else if small == "false" then .bool false
  else if text.toList.contains '.' then
    match readFloat? text.toList with
    | some x => .float x
    | none => .str text
  else
    match readInt? text.toList with
    | some n => .int n
    | none => .str text

/-- Splits a text at every two underscores. -/
def splitLevels : List Char → List Char × List (List Char)
  | '_' :: '_' :: rest =>
    let (level, levels) := splitLevels rest
    ([], level :: levels)
  | c :: rest =>
    let (level, levels) := splitLevels rest
    (c :: level, levels)
  | [] => ([], [])

/-- The path that the name of a variable spells, if it starts as it should and has levels. -/
def environmentPath? (beginning name : String) : Option (String × List String) :=
  if beginning.toList.isPrefixOf name.toList then
    let (first, levels) := splitLevels (Text.lower (name.toList.drop beginning.length))
    if levels.isEmpty then none else some (String.ofList first, levels.map String.ofList)
  else none

/-- Writes a value at the end of a path. What is no table on the way gives way to one. -/
def setPath (table : Table) (key : String) (path : List String) (v : Value) : Table :=
  match path with
  | [] => table.set (.str key) v
  | next :: rest =>
    let inner : Table := match table.get? (.str key) with
      | some (.map entries) => entries
      | _ => []
    table.set (.str key) (.map (setPath inner next rest v))

/-- The settings that environment variables with a common beginning give. -/
def ofEnvironment (beginning : String) (environment : Assoc String String) : Table :=
  environment.foldl (fun table (name, text) =>
    match environmentPath? beginning name with
    | some (key, path) => setPath table key path (environmentValue text)
    | none => table) []

end Stencil.Settings
