import Stencil.Function.Builtin
import Stencil.Journal.Event
import Stencil.Markup.Splice

/-!
Templates.

A template is template text together with static bindings, functions of its own, and switches for the
stages of rendering. It may name the text of a base template, whose blocks its own blocks replace.
-/

namespace Stencil

/-- Which of the optional stages of rendering are on. -/
structure Flags where
  conditionals : Bool := true
  loops : Bool := true
  inheritance : Bool := true
  deriving DecidableEq, Repr

/-- A renderable template. -/
structure Template where
  source : String
  bindings : Bindings := []
  functions : Functions := []
  flags : Flags := {}
  base : Option String := none
  /-- Whether values are escaped for hypertext where they are written. -/
  escapesHtml : Bool := false
  /-- Whether white space in the output is kept as it is. -/
  keepsWhitespace : Bool := true
  /-- Whether what happens to the template is reported to whoever runs it. -/
  reports : Bool := true

/-- What a run has done so far: how many calls functions have counted, the events reported, and the
notices given to the caller. -/
structure Session where
  calls : Nat := 0
  events : List Event := []
  notices : List String := []

/-- A computation that may call functions, report events and give notices. All survive a failure. -/
abbrev Run (α : Type) := ExceptT Failure (StateM Session) α

namespace Run

/-- Reports an event. -/
def report (severity : Severity) (name : String) (details : Bindings) : Run Unit :=
  modify fun s => { s with events := s.events ++ [⟨severity, name, details⟩] }

/-- Gives the caller a notice. -/
def notify (notice : String) : Run Unit :=
  modify fun s => { s with notices := s.notices ++ [notice] }

/-- A result without effects. -/
def ofExcept {α : Type} : Except Failure α → Run α
  | .ok a => pure a
  | .error e => throw e

/-- A computation that calls functions but reports nothing. -/
def ofCall {α : Type} (c : Call α) : Run α := do
  let s ← get
  let (result, calls) := c.run s.calls
  set { s with calls }
  ofExcept result

/-- The outcome of a computation that may fail, as a value. -/
def attempt {α : Type} (r : Run α) : Run (Except Failure α) := fun s =>
  let (result, s) := r s
  (.ok result, s)

/-- Drops the events that a computation reports. -/
def quietly {α : Type} (r : Run α) : Run α := fun s =>
  let (result, after) := r s
  (result, { after with events := s.events })

end Run

namespace Template

/-- The functions that a template can call: the common ones and its own, which win. -/
def callable (t : Template) : Functions :=
  Assoc.merge Function.builtins t.functions

/-- The kinds of markers that a template's flags leave in force. -/
def features (t : Template) : Markup.Features :=
  { conditionals := t.flags.conditionals, loops := t.flags.loops }

/-- A run on a template, which reports events only if the template does. -/
def reporting {α : Type} (t : Template) (r : Run α) : Run α :=
  if t.reports then r else Run.quietly r

/-- The text to render: the template's own, or that of its base with the template's blocks put in.
Blocks that the base does not have are dropped with a warning. -/
def effectiveSource (t : Template) : Run String :=
  match t.flags.inheritance, t.base with
  | true, some base => t.reporting do
    let blocks ← Run.ofExcept (liftMarkup (Markup.extractBlocks t.source))
    let (spliced, unmatched) ← Run.ofExcept (liftMarkup (Markup.spliceBlocks base blocks))
    unless unmatched.isEmpty do
      Run.report .warning "unmatched_child_blocks" [("blocks", .ofStrings unmatched)]
    return spliced
  | _, _ => pure t.source

/-- The tree of the text to render. -/
def nodes (t : Template) : Run (List Markup.Node) := do
  let source ← t.effectiveSource
  Run.ofExcept (liftMarkup (Markup.parse t.features source))

/-- The bindings of one rendering: the template's own under those of the call. -/
def bindingsWith (t : Template) (overrides : Bindings) : Bindings :=
  t.bindings.merge overrides

/-- A template with more bindings, which win over those it has. -/
def withBindings (t : Template) (bindings : Bindings) : Template :=
  { t with bindings := t.bindings.merge bindings }

/-- A template with more functions, which win over those it has. -/
def withFunctions (t : Template) (functions : Functions) : Template :=
  { t with functions := t.functions.merge functions }

/-- A template with another base. -/
def withBase (t : Template) (base : Option String) : Template :=
  { t with base }

/-- A template with some of its flags changed. -/
def withFlags (t : Template) (conditionals loops inheritance : Option Bool) : Template :=
  { t with flags :=
      { conditionals := conditionals.getD t.flags.conditionals
        loops := loops.getD t.flags.loops
        inheritance := inheritance.getD t.flags.inheritance } }

end Template

end Stencil
