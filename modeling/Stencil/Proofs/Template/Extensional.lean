import Stencil.Proofs.Template.Coverage
import Stencil.Proofs.Template.Sequence

/-!
Renderings look tables up and do nothing else with them.

So a text renders in the same way under any two sets of tables in which every name means the same, however the entries
are ordered and layered (`Render.text_congr`).
-/

namespace Stencil

/-- Scopes and functions in which every name means the same. -/
structure SameNames (functions functions' : Functions) (scope scope' : Scope) : Prop where
  values : ∀ name, scope.get? name = scope'.get? name
  functions : ∀ name, functions.get? name = functions'.get? name

section

variable {functions functions' : Functions} {scope scope' : Scope}

theorem SameNames.lookup (same : SameNames functions functions' scope scope') (path : String) :
    scope.lookup path = scope'.lookup path := by
  rw [Scope.lookup, Scope.lookup, funext same.values]

theorem SameNames.child (same : SameNames functions functions' scope scope') (layer : Bindings) :
    SameNames functions functions' (scope.child layer) (scope'.child layer) where
  values name := by
    have below : scope.layers.findSome? (fun layer => layer.get? name) =
        scope'.layers.findSome? (fun layer => layer.get? name) := same.values name
    simp only [Scope.get?, Scope.child, List.findSome?_cons, below]
  functions := same.functions

namespace Condition

mutual

theorem Operand.value_congr (same : SameNames functions functions' scope scope') (bareWord : Bool) (operand : Operand) :
    operand.value scope functions bareWord = operand.value scope' functions' bareWord := by
  cases operand with
  | literal v => simp only [Operand.value]
  | reference path => simp only [Operand.value, same.lookup]
  | call name arguments => simp only [Operand.value, same.functions, valuesOf_congr same arguments]

theorem valuesOf_congr (same : SameNames functions functions' scope scope') (operands : List Operand) :
    valuesOf scope functions operands = valuesOf scope' functions' operands := by
  cases operands with
  | nil => simp only [valuesOf]
  | cons operand rest => simp only [valuesOf, operand.value_congr same, valuesOf_congr same rest]

end

theorem evaluate_congr (same : SameNames functions functions' scope scope') (c : Condition) :
    c.evaluate scope functions = c.evaluate scope' functions' := by
  unfold evaluate
  simp only [Operand.value_congr same]

end Condition

namespace Render

open Markup

theorem call_congr (same : SameNames functions functions' scope scope') (escapes : Bool) (name : String)
    (texts : List String) :
    call ⟨functions, escapes⟩ scope name texts = call ⟨functions', escapes⟩ scope' name texts := by
  unfold call
  simp only [same.functions, arguments_congr fun text _ _ => same.lookup text]
  rfl

theorem decide_congr (same : SameNames functions functions' scope scope') (escapes : Bool) (expression : String) :
    decide ⟨functions, escapes⟩ scope expression = decide ⟨functions', escapes⟩ scope' expression := by
  unfold decide
  simp only [Condition.evaluate_congr same]

mutual

theorem node_congr {scope scope' : Scope} (same : SameNames functions functions' scope scope') (escapes : Bool)
    (n : Node) : node ⟨functions, escapes⟩ scope n = node ⟨functions', escapes⟩ scope' n := by
  cases n with
  | text s => simp only [node]
  | slot path spelling =>
    simp only [node, slot, same.lookup]
    rfl
  | call name texts spelling => simp only [node, call_congr same]
  | conditional condition accepted rejected =>
    simp only [node, decide_congr same, nodes_congr same escapes accepted, nodes_congr same escapes rejected]
  | loop array item body =>
    have each (count index : Nat) (v : Value) := nodes_congr (same.child (iteration item count index v)) escapes body
    simp only [node, items, same.lookup, each]
  | region kind name span body => simp only [node, nodes_congr same escapes body]

theorem nodes_congr {scope scope' : Scope} (same : SameNames functions functions' scope scope') (escapes : Bool)
    (ns : List Node) : nodes ⟨functions, escapes⟩ scope ns = nodes ⟨functions', escapes⟩ scope' ns := by
  cases ns with
  | nil => simp only [nodes]
  | cons n rest => simp only [nodes, node_congr same escapes n, nodes_congr same escapes rest]

end

theorem text_congr (same : SameNames functions functions' scope scope') (escapes : Bool) (source : String) :
    text ⟨functions, escapes⟩ scope source = text ⟨functions', escapes⟩ scope' source := by
  simp only [text, nodes_congr same]

end Render

end

end Stencil
