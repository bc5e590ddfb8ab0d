import Mathlib.Data.List.Nodup
import Stencil.Proofs.Template.Extensional
import Stencil.Proofs.Template.Reach

/-!
Scopes without layers, and loops without iterations.

The layers of a scope can be merged into one table, inner layers winning, and no rendering notices (`nodes_flatten`).
So a loop renders like its body written out once for each item, each time under the one table with the bindings of the
iteration written over it (`loops_unrolled`).
-/

namespace Stencil

namespace Scope

/-- In each layer a name has at most one entry. -/
def Once (scope : Scope) : Prop :=
  ∀ layer ∈ scope.layers, layer.keys.Nodup

variable {scope : Scope}

theorem Once.child (once : scope.Once) {layer : Bindings} (distinct : layer.keys.Nodup) : (scope.child layer).Once :=
  List.forall_mem_cons.mpr ⟨distinct, once⟩

theorem get?_ofBindings (bindings : Bindings) (name : String) :
    (ofBindings bindings).get? name = bindings.get? name := by
  simp only [get?, ofBindings, List.findSome?_cons, List.findSome?_nil]
  cases bindings.get? name <;> rfl

theorem get?_child (layer : Bindings) (name : String) :
    (scope.child layer).get? name = (layer.get? name).or (scope.get? name) := by
  simp only [get?, child, List.findSome?_cons]
  cases layer.get? name <;> rfl

theorem flatten_child (layer : Bindings) : (scope.child layer).flatten = scope.flatten.merge layer :=
  rfl

/-- In the merged table a name means what it means in the innermost layer that binds it. -/
theorem get?_flatten (once : scope.Once) (name : String) : scope.flatten.get? name = scope.get? name := by
  obtain ⟨layers⟩ := scope
  induction layers with
  | nil => rfl
  | cons layer layers ih =>
    obtain ⟨distinct, below⟩ := List.forall_mem_cons.mp once
    have split : Scope.mk (layer :: layers) = (Scope.mk layers).child layer := rfl
    rw [split, flatten_child, Assoc.get?_merge distinct, ih below, get?_child]

end Scope

namespace Render

open Markup (Node)

variable {setting : Setting} {scope : Scope}

/-- A scope and its layers merged into one table are the same to a rendering. -/
theorem nodes_flatten (setting : Setting) (once : scope.Once) (ns : List Node) :
    nodes setting scope ns = nodes setting (.ofBindings scope.flatten) ns := by
  obtain ⟨functions, escapes⟩ := setting
  have same : SameNames functions functions scope (.ofBindings scope.flatten) := by
    refine ⟨fun name => ?_, fun _ => rfl⟩
    rw [Scope.get?_ofBindings, Scope.get?_flatten once]
  exact nodes_congr same escapes ns

/-- The four names of a loop differ, since what is put behind the name of the item does. -/
theorem nodup_keys_iteration (item : String) (count index : Nat) (v : Value) :
    (iteration item count index v).keys.Nodup := by
  have endings : (iteration item count index v).keys = ["", "_index", "_first", "_last"].map (item ++ ·) := by
    simp only [List.map_cons, List.map_nil, String.append_empty]
    rfl
  have injective : Function.Injective (item ++ ·) := fun s t same => (String.append_right_inj item).mp same
  rw [endings]
  exact List.Nodup.map injective (by decide)

/-- Iterations give every name one entry, so all scopes that a rendering comes to do if its own does. -/
theorem Reaches.once {scope' : Scope} {s s' : Session} {ns : List Node} {n : Node}
    (reaches : Reaches setting scope s ns scope' s' n) (once : scope.Once) : scope'.Once := by
  induction reaches with
  | here => exact once
  | later _ _ ih => exact ih once
  | branch _ _ ih => exact ih once
  | iteration _ _ _ _ ih => exact ih (once.child (nodup_keys_iteration ..))
  | region _ ih => exact ih once

/-- Bindings with those of one iteration of a loop written over them. -/
def overridden (bindings : Bindings) (item : String) (count index : Nat) (v : Value) : Bindings :=
  (((bindings.set item v).set (item ++ "_index") (.int index)).set (item ++ "_first") (.bool (index == 0))).set
    (item ++ "_last") (.bool (index + 1 == count))

theorem flatten_iteration (item : String) (count index : Nat) (v : Value) :
    (scope.child (iteration item count index v)).flatten = overridden scope.flatten item count index v :=
  rfl

/-- A body rendered once for each of several items, which are counted on from an index. -/
def unrolled (setting : Setting) (bindings : Bindings) (item : String) (body : List Node) (count : Nat) :
    Nat → List Value → Run String
  | _, [] => pure ""
  | index, v :: rest =>
    (nodes setting (.ofBindings (overridden bindings item count index v)) body).append
      (unrolled setting bindings item body count (index + 1) rest)

/-- Iterations one after another, with their outputs joined in the end. -/
theorem join_turns (once : scope.Once) (item : String) (body : List Node) (count index : Nat) (values : List Value) :
    (do
      let parts ← (values.zipIdx index).mapM (turn setting scope item body count)
      return String.join parts) = unrolled setting scope.flatten item body count index values := by
  induction values generalizing index with
  | nil => rfl
  | cons v rest ih =>
    have first : turn setting scope item body count (v, index) =
        nodes setting (.ofBindings (overridden scope.flatten item count index v)) body := by
      rw [← flatten_iteration]
      exact nodes_flatten setting (once.child (nodup_keys_iteration ..)) body
    rw [unrolled, ← ih (index + 1), List.zipIdx_cons, List.mapM_cons, first, Run.append]
    simp only [bind_assoc, pure_bind, String.join_cons]

theorem node_loop (setting : Setting) (once : scope.Once) {array : String} {values : List Value}
    (found : scope.lookup array = .ok (some (.list values))) (item : String) (body : List Node) :
    node setting scope (.loop array item body) = unrolled setting scope.flatten item body values.length 0 values := by
  have had : items scope array = .ok values := by
    rw [items, found]
    rfl
  rw [node, had]
  exact join_turns once item body values.length 0 values

/-- The bodies of a loop rendered each by itself. -/
def bodies (setting : Setting) (bindings : Bindings) (item : String) (body : List Node) (count index : Nat)
    (values : List Value) : List (Except Failure String) :=
  (values.zipIdx index).map fun (v, index) =>
    result (nodes setting (.ofBindings (overridden bindings item count index v)) body) {}

/-- Outputs joined up to the first failure. -/
def joined : List (Except Failure String) → Except Failure String
  | [] => .ok ""
  | .error e :: _ => .error e
  | .ok text :: rest => (joined rest).map (text ++ ·)

/-- Functions that depend on their arguments alone do not notice which bodies were rendered before. -/
theorem result_unrolled (steady : ∀ name f, setting.functions.get? name = some f → Function.Steady f)
    (bindings : Bindings) (item : String) (body : List Node) (count index : Nat) (values : List Value) (s : Session) :
    result (unrolled setting bindings item body count index values) s =
      joined (bodies setting bindings item body count index values) := by
  induction values generalizing index s with
  | nil => rfl
  | cons v rest ih =>
    have alone : result (nodes setting (.ofBindings (overridden bindings item count index v)) body) s =
        result (nodes setting (.ofBindings (overridden bindings item count index v)) body) {} :=
      nodes_sameResult steady .nil body (fun _ _ => .inr rfl) s {}
    have split : bodies setting bindings item body count index (v :: rest) =
        result (nodes setting (.ofBindings (overridden bindings item count index v)) body) {} ::
          bodies setting bindings item body count (index + 1) rest := rfl
    rw [split, unrolled, Run.append]
    cases first : result (nodes setting (.ofBindings (overridden bindings item count index v)) body) {} with
    | error e => rw [result_bind_of_error (alone.trans first), joined]
    | ok text =>
      rw [result_bind_of_ok (alone.trans first), joined, ← ih (index + 1) (after _ s)]
      cases later : result (unrolled setting bindings item body count (index + 1) rest) (after _ s) with
      | error e => exact result_bind_of_error later _
      | ok texts => exact result_bind_of_ok later _

/-- A rendering sees of a scope the table into which its layers are merged, and nothing else. Every loop that it comes
to, at whatever depth, renders like its body for one item after another, under the bindings at hand with those of the
iteration written over them, and what follows the loop is rendered under the bindings from before it. If functions
depend on their arguments alone, each body may be rendered by itself: the loop gives the outputs one after another, or
the first error. -/
theorem loops_unrolled (setting : Setting) (once : scope.Once) (ns : List Node) :
    nodes setting scope ns = nodes setting (.ofBindings scope.flatten) ns ∧
      ∀ s scope' s' array item body values, Reaches setting scope s ns scope' s' (.loop array item body) →
        scope'.lookup array = .ok (some (.list values)) →
        (∀ rest, nodes setting scope' (.loop array item body :: rest) =
          (unrolled setting scope'.flatten item body values.length 0 values).append
            (nodes setting (.ofBindings scope'.flatten) rest)) ∧
        ((∀ name f, setting.functions.get? name = some f → Function.Steady f) →
          ∀ s, result (node setting scope' (.loop array item body)) s =
            joined (bodies setting scope'.flatten item body values.length 0 values)) := by
  refine ⟨nodes_flatten setting once ns, fun s scope' s' array item body values reaches found => ?_⟩
  have once' := reaches.once once
  have loop := node_loop setting once' found item body
  refine ⟨fun rest => ?_, fun steady s => ?_⟩
  · rw [nodes_cons, loop, nodes_flatten setting once' rest]
  · rw [loop, result_unrolled steady]

/-- The cells of a row, written in a loop. -/
def gridCells : Node :=
  .loop "row.cells" "cell" [.slot "row_index" "", .slot "cell" ""]

/-- Rows of cells, and a name that the loop over the rows hides. -/
def grid : List Node :=
  [.loop "rows" "row" [gridCells, .text ";"], .slot "row" ""]

def gridRow (cells : List Value) : Value :=
  .map [(.str "cells", .list cells)]

/-- The rows in a base, under a layer that binds the name of their loop. -/
def gridScope : Scope :=
  (Scope.ofBindings [("row", .null), ("rows", .list [gridRow [.str "a", .str "b"], gridRow [.str "c"]])]).child
    [("row", .str "end")]

theorem grid_unrolled :
    result (nodes ⟨[], false⟩ gridScope grid) {} = .ok "0a0b;1c;end" ∧
      result (node ⟨[], false⟩ (gridScope.child (iteration "row" 2 1 (gridRow [.str "c"]))) gridCells) {} =
        .ok "1c" := by
  have once : gridScope.Once := by unfold Scope.Once; decide
  obtain ⟨flat, loops⟩ := loops_unrolled ⟨[], false⟩ once grid
  refine ⟨?_, ?_⟩
  · rw [flat]
    decide +kernel
  · -- The loop over the cells is come to in the second iteration of the loop over the rows.
    have found : items gridScope "rows" = .ok [gridRow [.str "a", .str "b"], gridRow [.str "c"]] := rfl
    have split : [gridRow [.str "a", .str "b"], gridRow [.str "c"]].zipIdx =
        [(gridRow [.str "a", .str "b"], 0)] ++ (gridRow [.str "c"], 1) :: [] := rfl
    have earlier : result ([(gridRow [.str "a", .str "b"], 0)].mapM
        (turn ⟨[], false⟩ gridScope "row" [gridCells, .text ";"] 2)) {} = .ok ["0a0b;"] := by decide +kernel
    have cells := (loops {} _ _ _ _ _ [.str "c"] (.iteration found split earlier .here) rfl).2
    have steady : ∀ name f, Assoc.get? ([] : Functions) name = some f → Function.Steady f := nofun
    exact (cells steady {}).trans (by decide +kernel)

end Render

end Stencil
