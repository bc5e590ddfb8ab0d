import Stencil.Template.Basic

/-!
Base templates, and what a child template says about its base: which blocks it replaces and which
sections it replaces or extends.
-/

namespace Stencil

/-- How the content for a section joins the body that the base gives it. -/
inductive SectionMode where
  | replace
  | prepend
  | append
  deriving DecidableEq, Repr

/-- Content for a section. -/
structure SectionChange where
  content : String
  mode : SectionMode := .replace
  deriving DecidableEq, Repr

/-- A template that others extend. -/
structure Base where
  name : String
  source : String
  description : String := ""
  /-- Bindings that children inherit; their own win. -/
  bindings : Bindings := []
  /-- Functions that children inherit; their own win. -/
  functions : Functions := []
  /-- Blocks that every child is expected to replace. -/
  required : List String := []
  /-- Blocks that a child may replace. -/
  optional : List String := []
  escapesHtml : Bool := false
  keepsWhitespace : Bool := true

/-- A template that extends a base. -/
structure Child where
  name : String
  /-- The contents of blocks by name. -/
  blocks : Assoc String String := []
  sections : Assoc String SectionChange := []
  bindings : Bindings := []
  functions : Functions := []
  /-- What the child says about escaping; without a word of its own the base decides. -/
  escapesHtml : Option Bool := none
  /-- What the child says about white space; without a word of its own the base decides. -/
  keepsWhitespace : Option Bool := none

/-- What is remembered of a child: its name and the regions it spoke about. -/
structure ChildRecord where
  name : String
  blocks : List String
  sections : List String
  deriving DecidableEq, Repr

/-- What is remembered of a child. -/
def Child.record (child : Child) : ChildRecord :=
  ⟨child.name, child.blocks.keys, child.sections.keys⟩

end Stencil
