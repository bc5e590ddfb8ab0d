import Stencil.Files.Folder
import Stencil.Header.Split
import Stencil.Value.Text

/-!
Fields of a header. A field that is left out has its usual value; one of the wrong shape is an error
that names the field and the file.
-/

namespace Stencil.Header

/-- The document that the text of a file holds. Every kind of line break counts as a line feed. -/
def ofText (text : String) : Except Failure Document :=
  parse (String.ofList (unifyBreaks text.toList))

/-- Entries as bindings: a key that is no text is spelled as one. -/
def toBindings : List (Value × Value) → Except Failure Bindings
  | entries => do
    let pairs ← entries.mapM fun (key, v) => do return (← key.display, v)
    return Assoc.ofPairs pairs

/-- The value of a field, if it is there. -/
def field? (fields : Fields) (name : String) : Option Value :=
  fields.get? (.str name)

/-- A field that holds a map, empty unless it is there. -/
def mapField (fields : Fields) (name path : String) : Except Failure Bindings :=
  match field? fields name with
  | none | some .null => .ok []
  | some (.map entries) => toBindings entries
  | some _ => .error (.headerField name path .mapping)

/-- A field that holds a truth value. -/
def boolField (value : Option Value) (name path : String) (usual : Bool) : Except Failure Bool :=
  match value with
  | none => .ok usual
  | some (.bool b) => .ok b
  | some _ => .error (.headerField name path .boolean)

/-- A field that holds names, none unless it is there. -/
def namesField (fields : Fields) (name path : String) : Except Failure (List String) :=
  match field? fields name with
  | none | some .null => .ok []
  | some (.list items) =>
    let names := items.filterMap fun
      | .str s => some s
      | _ => none
    if names.length == items.length then .ok names else .error (.headerField name path .names)
  | some _ => .error (.headerField name path .names)

end Stencil.Header
