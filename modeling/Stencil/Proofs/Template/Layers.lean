import Mathlib.Data.List.TakeWhile
import Stencil.Template.Analysis
import Stencil.Template.Render

/-!
Looking paths up under the layers that loops put over the bindings of a template.

Analysis knows the layers by the names that they bind, and these are the names that they bind (`Binds`):
a path with a local first segment is looked up in the layers alone, any other one in the bindings alone.
-/

namespace Stencil

namespace Value

theorem resolveWith_congr {get get' : String → Option Value} {path : String}
    (same : get (pathRoot path) = get' (pathRoot path)) : resolveWith get path = resolveWith get' path := by
  rw [resolveWith, resolveWith, same]

theorem pathRoot_of_free {path : String} (free : '.' ∉ path.toList) : pathRoot path = path := by
  have whole : path.toList.takeWhile (· != '.') = path.toList :=
    List.takeWhile_eq_self_iff.mpr fun c member => bne_iff_ne.mpr fun same => free (same ▸ member)
  rw [pathRoot, whole, String.ofList_toList]

theorem pathRest_of_free {path : String} (free : '.' ∉ path.toList) : pathRest path = "" := by
  have nothing : path.toList.dropWhile (· != '.') = [] :=
    List.dropWhile_eq_nil_iff.mpr fun c member => bne_iff_ne.mpr fun same => free (same ▸ member)
  rw [pathRest, nothing]
  rfl

theorem pathRoot_free (path : String) : '.' ∉ (pathRoot path).toList := by
  intro member
  rw [pathRoot, String.toList_ofList] at member
  have kept := List.all_eq_true.mp List.all_takeWhile _ member
  exact absurd kept (by decide)

theorem resolveWith_of_free {get : String → Option Value} {path : String} {host : Host} (free : '.' ∉ path.toList) :
    resolveWith get path host = .ok (get path) := by
  rw [resolveWith, pathRoot_of_free free, pathRest_of_free free]
  cases get path <;> rfl

end Value

namespace Scope

/-- What the layers of loops do not bind is up to the bindings below them. -/
theorem get?_append (layers : List Bindings) (base : Bindings) (name : String) :
    (Scope.mk (layers ++ [base])).get? name = ((Scope.mk layers).get? name).or (base.get? name) := by
  simp only [get?, List.findSome?_append, List.findSome?_cons, List.findSome?_nil]
  cases base.get? name <;> rfl

theorem lookup_of_free {scope : Scope} {path : String} {host : Host} (free : '.' ∉ path.toList) :
    scope.lookup path host = .ok (scope.get? path) :=
  Value.resolveWith_of_free free

theorem contains_of_free {scope : Scope} {path : String} {host : Host} (free : '.' ∉ path.toList) :
    scope.contains path host = .ok (scope.get? path).isSome := by
  rw [contains, lookup_of_free free]
  rfl

/-- A path that leads nowhere although its first segment is bound goes on after that segment. -/
theorem dot_of_lookup_eq_none {scope : Scope} {path : String} (nothing : scope.lookup path = .ok none)
    (bound : (scope.get? (Value.pathRoot path)).isSome) : '.' ∈ path.toList := by
  refine Decidable.byContradiction fun free => ?_
  rw [lookup_of_free free] at nothing
  rw [Value.pathRoot_of_free free, Except.ok.inj nothing] at bound
  cases bound

end Scope

namespace Render

/-- Layers that bind just the names of a list. -/
def Binds (layers : List Bindings) (locals : List String) : Prop :=
  ∀ name, ((Scope.mk layers).get? name).isSome = locals.contains name

theorem Binds.nil : Binds [] [] :=
  fun _ => rfl

theorem iteration_binds (item : String) (count index : Nat) (v : Value) (name : String) :
    (Assoc.get? (iteration item count index v) name).isSome = (Analysis.loopNames item).contains name := by
  simp only [iteration, Assoc.get?, Analysis.loopNames, List.contains_cons, List.contains_nil, Bool.or_false,
    BEq.comm (a := name)]
  generalize (item == name) = first, (item ++ "_index" == name) = second, (item ++ "_first" == name) = third,
    (item ++ "_last" == name) = fourth
  cases first <;> cases second <;> cases third <;> cases fourth <;> rfl

/-- An iteration of a loop binds the names that analysis takes for local inside it. -/
theorem Binds.child {layers : List Bindings} {locals : List String} (binds : Binds layers locals) (item : String)
    (count index : Nat) (v : Value) :
    Binds (iteration item count index v :: layers) (locals ++ Analysis.loopNames item) := by
  intro name
  have split : (Scope.mk (iteration item count index v :: layers)).get? name =
      (Assoc.get? (iteration item count index v) name).or ((Scope.mk layers).get? name) := by
    simp only [Scope.get?, List.findSome?_cons]
    cases Assoc.get? (iteration item count index v) name <;> rfl
  rw [split, Option.isSome_or, iteration_binds, binds, List.contains_append, Bool.or_comm]

variable {layers : List Bindings} {locals : List String} {path : String}

theorem lookup_of_local (binds : Binds layers locals) (here : Analysis.isLocal locals path = true) (base : Bindings) :
    (Scope.mk (layers ++ [base])).lookup path = (Scope.mk layers).lookup path := by
  refine Value.resolveWith_congr ?_
  obtain ⟨v, found⟩ := Option.isSome_iff_exists.mp ((binds _).trans here)
  rw [Scope.get?_append, found]
  rfl

theorem lookup_of_free (binds : Binds layers locals) (free : Analysis.isLocal locals path = false) (base : Bindings) :
    (Scope.mk (layers ++ [base])).lookup path = base.resolve path := by
  refine Value.resolveWith_congr ?_
  have nothing : (Scope.mk layers).get? (Value.pathRoot path) = none :=
    Option.not_isSome_iff_eq_none.mp (by rw [binds]; simpa [Analysis.isLocal] using free)
  rw [Scope.get?_append, nothing, Option.none_or]

end Render

end Stencil
