import Stencil.Condition.Evaluate
import Stencil.Template.Basic
import Stencil.Template.Literal
import Stencil.Text.Escape

/-!
Rendering: the tree of a template is walked once, and only the branch that a condition selects is
looked at.
-/

namespace Stencil

namespace Render

/-- What stays the same throughout a rendering. -/
structure Setting where
  functions : Functions
  escapesHtml : Bool

/-- The written form of a value. -/
def output (setting : Setting) (v : Value) : Except Failure String := do
  let text ← v.toText
  return if setting.escapesHtml then String.ofList (Text.escape text.toList) else text

/-- Writes a variable, which must be bound. -/
def slot (setting : Setting) (scope : Scope) (path : String) : Except Failure String := do
  match ← scope.lookup path with
  | some v => output setting v
  | none => .error (.missingVariable path)

/-- The values of arguments, from left to right. -/
def arguments (scope : Scope) : List String → Except Failure (List Value)
  | [] => .ok []
  | text :: rest => do
    let head ← resolveArgument text scope
    let tail ← arguments scope rest
    return head :: tail

/-- Writes the result of a call. -/
def call (setting : Setting) (scope : Scope) (name : String) (texts : List String) :
    Run String := do
  match setting.functions.get? name with
  | none => throw (.unknownFunction name)
  | some f =>
    let values ← Run.ofExcept (arguments scope texts)
    Run.report .debug "function_called" [("function", .str name), ("argc", .int values.length)]
    let result ← Run.ofCall (f values)
    Run.ofExcept (output setting result)

/-- Decides which branch of a conditional is taken. -/
def decide (setting : Setting) (scope : Scope) (expression : String) : Run Bool := do
  let condition ← Run.ofExcept (Condition.compile expression)
  let taken ← Run.ofCall (condition.evaluate scope setting.functions)
  Run.report .debug "condition_evaluated"
    [("condition", .str expression), ("result", .bool taken)]
  return taken

/-- The items that a loop runs over. -/
def items (scope : Scope) (array : String) : Except Failure (List Value) := do
  match ← scope.lookup array with
  | none => .error (.missingVariable array)
  | some (.list values) => return values
  | some _ => .error (.notIterable array)

/-- The bindings of one iteration: the item, its position, and whether it is the first or the last. -/
def iteration (item : String) (count index : Nat) (v : Value) : Bindings :=
  [ (item, v),
    (item ++ "_index", .int index),
    (item ++ "_first", .bool (index == 0)),
    (item ++ "_last", .bool (index + 1 == count)) ]

mutual

/-- Renders a node. -/
def node (setting : Setting) (scope : Scope) : Markup.Node → Run String
  | .text s => pure s
  | .slot path _ => Run.ofExcept (slot setting scope path)
  | .call name texts _ => call setting scope name texts
  | .conditional expression accepted rejected => do
    if ← decide setting scope expression then nodes setting scope accepted
    else nodes setting scope rejected
  | .loop array item body => do
    let values ← Run.ofExcept (items scope array)
    let parts ← values.zipIdx.mapM fun (v, index) =>
      nodes setting (scope.child (iteration item values.length index v)) body
    return String.join parts
  | .region _ _ _ body => nodes setting scope body

/-- Renders nodes one after another. -/
def nodes (setting : Setting) (scope : Scope) : List Markup.Node → Run String
  | [] => pure ""
  | first :: rest => do
    let head ← node setting scope first
    let tail ← nodes setting scope rest
    return head ++ tail

end

end Render

/-- Renders a template with bindings of the call over its own. -/
def Template.render (t : Template) (overrides : Bindings) : Run String := t.reporting do
  let scope := Scope.ofBindings (t.bindingsWith overrides)
  let output ← Render.nodes ⟨t.callable, t.escapesHtml⟩ scope (← t.nodes)
  let output :=
    if t.keepsWhitespace then output else String.ofList (Text.collapse output.toList)
  Run.report .debug "template_rendered" [("length", .int output.length)]
  return output

end Stencil
