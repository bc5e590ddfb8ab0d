import Stencil.Value.Path

/-!
Layered scopes. Every iteration of a loop adds a layer that hides names of the layers below it while
it lasts.
-/

namespace Stencil

/-- Layers of bindings, the innermost first. -/
structure Scope where
  layers : List Bindings

namespace Scope

/-- The scope with one layer. -/
def ofBindings (bindings : Bindings) : Scope :=
  ⟨[bindings]⟩

/-- Puts a layer over a scope. -/
def child (scope : Scope) (bindings : Bindings) : Scope :=
  ⟨bindings :: scope.layers⟩

/-- The value of a name in the innermost layer that binds it. -/
def get? (scope : Scope) (name : String) : Option Value :=
  scope.layers.findSome? fun layer => layer.get? name

/-- Resolves a dotted path whose first segment is looked up in the layers. -/
def lookup (scope : Scope) (path : String) (host : Host := .plain) :
    Except Failure (Option Value) :=
  Value.resolveWith scope.get? path host

/-- Whether a path leads to a value. -/
def contains (scope : Scope) (path : String) (host : Host := .plain) : Except Failure Bool := do
  return (← scope.lookup path host).isSome

/-- All layers as one table, inner layers winning. -/
def flatten (scope : Scope) : Bindings :=
  scope.layers.foldr (fun layer below => below.merge layer) []

/-- The bound names, those of outer layers first. -/
def names (scope : Scope) : List String :=
  scope.flatten.keys

end Scope

end Stencil
