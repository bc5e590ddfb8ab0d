import Stencil.Inheritance.Basic
import Stencil.Markup.Spelling

/-!
From a base and a child to a template.

The blocks of the child are put in first, then its sections are merged into the result, so a section
inside of a block that the child supplies can be changed too. A block that the base does not have is
written at the end.
-/

namespace Stencil.Inheritance

open Stencil.Markup

/-- The new body of a section. Contents that extend a body stand on lines of their own. -/
def mergeSection (body : String) (change : SectionChange) : String :=
  match change.mode with
  | .replace => change.content
  | .prepend => change.content ++ "\n" ++ body
  | .append => body ++ "\n" ++ change.content

/-- Merges sections into template text. Also gives the names that no merged section has. -/
def mergeSections (source : String) (sections : Assoc String SectionChange) :
    Except MarkupError (String × List String) := do
  let splicing ← replaceRegions .sect source fun r body =>
    (sections.get? r.name).map (mergeSection body)
  let unmatched := sections.keys.filter fun name => !splicing.replaced.contains name
  return (String.ofList splicing.text, unmatched)

/-- Template text with a block written after it. -/
def appendBlock (source name content : String) : String :=
  source ++ "\n" ++ spellRegion .block name content

/-- Template text with several blocks of a child written after it. -/
def appendBlocks (source : String) (blocks : Assoc String String) (names : List String) : String :=
  names.foldl (fun text name => appendBlock text name ((blocks.get? name).getD "")) source

/-- What is said of a block that a base does not have. -/
def undeclaredNotice (name : String) : String :=
  s!"Block '{name}' is not declared by the base template; appending it"

/-- Says that a child has a block that its base does not have. -/
def reportUndeclared (child name : String) : Run Unit := do
  Run.notify (undeclaredNotice name)
  Run.report .warning "block_not_in_base" [("child", .str child), ("block", .str name)]

/-- The text of a base with the regions of a child. -/
def applyChild (source : String) (child : Child) : Run String := do
  let (spliced, undeclared) ← Run.ofExcept (liftMarkup (spliceBlocks source child.blocks))
  undeclared.forM (reportUndeclared child.name)
  let extended := appendBlocks spliced child.blocks undeclared
  let (merged, unmatched) ← Run.ofExcept (liftMarkup (mergeSections extended child.sections))
  unless unmatched.isEmpty do
    Run.report .warning "section_not_in_base"
      [("child", .str child.name), ("sections", .ofStrings unmatched)]
  return merged

/-- The blocks that a base requires and a child does not replace. -/
def neglected (base : Base) (child : Child) : List String :=
  base.required.filter fun name => !child.blocks.has name

/-- The template that a child makes of its base. -/
def resolve (base : Base) (child : Child) : Run Template := do
  let left := neglected base child
  unless left.isEmpty do
    Run.report .warning "required_blocks_not_overridden"
      [("base", .str base.name), ("child", .str child.name), ("blocks", .ofStrings left)]
  let source ← applyChild base.source child
  Run.report .debug "child_template_resolved"
    [ ("base", .str base.name), ("child", .str child.name),
      ("blocks", .ofStrings child.blocks.keys), ("sections", .ofStrings child.sections.keys) ]
  return {
    source
    bindings := base.bindings.merge child.bindings
    functions := base.functions.merge child.functions
    escapesHtml := child.escapesHtml.getD base.escapesHtml
    keepsWhitespace := child.keepsWhitespace.getD base.keepsWhitespace }

end Stencil.Inheritance
