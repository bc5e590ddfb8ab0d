import Stencil.Header.Field
import Stencil.Template.Basic

/-!
Templates from files. The header of a file gives bindings, switches and the path of a base; the
bindings in the header of the base lie under those of the file.
-/

namespace Stencil.Template

/-- The names of the switches for stages of rendering. -/
def flagNames : List String :=
  ["conditionals", "loops", "inheritance"]

/-- The switches that a header sets. Names that are no switches are reported. -/
def flagsOf (fields : Header.Fields) (path : String) : Run Flags := do
  let raw ← Run.ofExcept (Header.mapField fields "flags" path)
  let unknown := raw.keys.filter fun name => !flagNames.contains name
  unless unknown.isEmpty do
    Run.report .warning "unknown_template_flags"
      [("path", .str path), ("flags", .ofStrings (unknown.mergeSort fun a b => a ≤ b))]
  let flag (name : String) : Run Bool :=
    Run.ofExcept (Header.boolField (raw.get? name) name path true)
  return {
    conditionals := ← flag "conditionals"
    loops := ← flag "loops"
    inheritance := ← flag "inheritance" }

/-- The base that a header names: its text, and the bindings that its own header gives. -/
def baseOf (folder : Folder) (parent : List String) (text path : String) :
    Run (String × Bindings) := do
  let place := Folder.resolve parent text
  let basePath := folder.writtenPlace place
  let source ← Run.ofExcept (folder.readAt place)
  let base ← Run.ofExcept (Header.ofText source)
  let bindings ← Run.ofExcept (Header.mapField (base.header.getD []) "variables" basePath)
  Run.report .debug "base_template_loaded" [("path", .str path), ("base", .str basePath)]
  return (base.body, bindings)

/-- The template that a file holds. Loading it is reported, and nothing that happens to it later. -/
def load (folder : Folder) (file : List String) (functions : Functions) : Run Template := do
  let path := folder.written file
  let document ← Run.ofExcept (do Header.ofText (← folder.read file))
  let fields := document.header.getD []
  let own ← Run.ofExcept (Header.mapField fields "variables" path)
  let (base, inherited) ← match Header.field? fields "base" with
    | none | some .null => pure (none, [])
    | some (.str text) => do
      let (source, bindings) ← baseOf folder file.dropLast text path
      pure (some source, bindings)
    | some _ => throw (.headerField "base" path .path)
  let bindings := Assoc.merge inherited own
  let flags ← flagsOf fields path
  let escapesHtml ← Run.ofExcept
    (Header.boolField (Header.field? fields "escape_html") "escape_html" path false)
  let keepsWhitespace ← Run.ofExcept
    (Header.boolField (Header.field? fields "preserve_whitespace") "preserve_whitespace" path true)
  Run.report .debug "template_loaded" [("path", .str path), ("variables", .int bindings.length)]
  return {
    source := document.body, bindings, functions, flags, base, escapesHtml, keepsWhitespace
    reports := false }

end Stencil.Template
