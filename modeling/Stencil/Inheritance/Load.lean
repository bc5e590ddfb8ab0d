import Stencil.Files.Glob
import Stencil.Header.Field
import Stencil.Inheritance.Basic

/-!
Base templates from files. Unless the header of a file names the base, it has the name of the file up
to the first point.
-/

namespace Stencil.Base

/-- Whether a field that should hold a map can be taken for one that is left out. -/
def isVoid : Value → Bool
  | .null => true
  | .bool b => !b
  | .int n => n == 0
  | .float x => x == 0
  | .str s => s.isEmpty
  | .list items => items.isEmpty
  | .map entries => entries.isEmpty
  | _ => false

/-- What a header gives for the bindings that children inherit. -/
def entriesOf (fields : Header.Fields) (path : String) : Except Failure Header.Fields :=
  match Header.field? fields "variables" with
  | none => .ok []
  | some (.map entries) => .ok entries
  | some v => if isVoid v then .ok [] else .error (.headerField "variables" path .mapping)

/-- A field that is spelled as text whatever it holds. -/
def textField (fields : Header.Fields) (name usual : String) : Except Failure String :=
  match Header.field? fields name with
  | some v => v.display
  | none => .ok usual

/-- The name of a file up to the first point. -/
def fileName (file : List String) : String :=
  String.ofList (((file.getLast?).getD "").toList.takeWhile (· != '.'))

/-- Whether a field holds a given truth value. -/
def holds (fields : Header.Fields) (name : String) (b : Bool) : Bool :=
  match Header.field? fields name with
  | some (.bool c) => b == c
  | _ => false

/-- The base that a file holds. -/
def load (folder : Folder) (file : List String) : Except Failure Base := do
  let path := folder.written file
  let document ← Header.ofText (← folder.read file)
  let fields := document.header.getD []
  let entries ← entriesOf fields path
  let name ← textField fields "name" (fileName file)
  let description ← textField fields "description" ""
  let bindings ← Header.toBindings entries
  let required ← Header.namesField fields "required_blocks" path
  let optional ← Header.namesField fields "optional_blocks" path
  return {
    name, description, bindings, required, optional
    source := document.body
    escapesHtml := holds fields "escape_html" true
    keepsWhitespace := !holds fields "preserve_whitespace" false }

/-- Loads several files in order, up to the first that cannot be loaded. -/
def loadEach (folder : Folder) : List (List String) → Except Failure (List Base)
  | [] => .ok []
  | file :: rest => do
    let head ← load folder file
    let tail ← loadEach folder rest
    return head :: tail

/-- The bases that the files of a folder hold whose paths fit a pattern, in the order of the paths. -/
def loadAll (folder : Folder) (pattern : String) : Except Failure (List Base) := do
  loadEach folder (← Glob.paths folder pattern)

end Stencil.Base
