import Stencil.Proofs.Settings.Table
import Stencil.Settings.Environment

/-!
Writing at the end of a path.

A value written at the end of a path is found there, on the way to it stand tables, and every path apart from it is left
alone (`held_setPath_append`, `held_setPath_of_apart`). Every other path leads to the end of the path, through it, or
away from it (`path_cases`).
-/

namespace Stencil.Settings

open Value

variable {table : Table} {key name : String} {path other rest : List String} {v : Value}

/-- Neither path leads to the end of the other. -/
def Apart (path other : List String) : Prop :=
  ¬ path <+: other ∧ ¬ other <+: path

theorem Apart.symm (apart : Apart path other) : Apart other path :=
  ⟨apart.2, apart.1⟩

theorem Apart.ne_nil (apart : Apart path other) : other ≠ [] := by
  rintro rfl
  exact apart.2 List.nil_prefix

theorem Apart.of_cons (apart : Apart (key :: path) (key :: other)) : Apart path other := by
  rwa [Apart, List.cons_prefix_cons, List.cons_prefix_cons, and_iff_right rfl, and_iff_right rfl] at apart

theorem Apart.append (apart : Apart path other) (rest : List String) : Apart path (other ++ rest) := by
  constructor
  · intro begins
    rcases List.prefix_or_prefix_of_prefix begins (List.prefix_append other rest) with inner | outer
    · exact apart.1 inner
    · exact apart.2 outer
  · exact fun begins => apart.2 ((List.prefix_append other rest).trans begins)

/-- A path leads through the end of another, or only to a place on the way there, or away from it. -/
theorem path_cases (path other : List String) :
    (∃ rest, other = path ++ rest) ∨ (∃ key rest, path = other ++ key :: rest) ∨ Apart path other := by
  by_cases through : path <+: other
  · obtain ⟨rest, rfl⟩ := through
    exact .inl ⟨rest, rfl⟩
  · by_cases toward : other <+: path
    · obtain ⟨rest, rfl⟩ := toward
      cases rest with
      | nil => exact absurd (by simp) through
      | cons key rest => exact .inr (.inl ⟨key, rest, rfl⟩)
    · exact .inr (.inr ⟨through, toward⟩)

theorem get?_set_str :
    Assoc.get? (table.set (.str key) v) (.str name) = if key = name then some v else table.get? (.str name) := by
  induction table with
  | nil => simp [Assoc.set, Assoc.get?, str_beq_str]
  | cons entry table ih =>
    obtain ⟨own, w⟩ := entry
    rw [Assoc.set]
    by_cases same : (own == .str key) = true
    · obtain rfl := beq_str.mp same
      rw [if_pos same, Assoc.get?, Assoc.get?, str_beq_str]
      by_cases found : key = name <;> simp [found]
    · rw [if_neg same, Assoc.get?, Assoc.get?, ih]
      by_cases found : (own == .str name) = true
      · have other : key ≠ name := by
          rintro rfl
          exact same found
        simp [found, other]
      · simp [found]

/-- The table at a key, an empty one if there is none. -/
def child (table : Table) (key : String) : Table :=
  match table.get? (.str key) with
  | some (.map entries) => entries
  | _ => []

theorem setPath_nil : setPath table key [] v = table.set (.str key) v :=
  rfl

theorem setPath_cons : setPath table key (name :: path) v =
    table.set (.str key) (.map (setPath (child table key) name path v)) :=
  rfl

theorem held_child : held (.map (child table key)) (name :: rest) = held (.map table) (key :: name :: rest) := by
  rw [@held_map_cons table, child]
  cases table.get? (.str key) with
  | none => rfl
  | some w =>
    obtain ⟨entries, rfl⟩ | flat := map_or_flat w
    · rfl
    · rw [Option.bind_some, held_of_flat flat]
      cases w with
      | map => cases flat
      | _ => rfl

theorem held_setPath_append :
    held (.map (setPath table key path v)) (key :: path ++ rest) = held v rest := by
  induction path generalizing table key with
  | nil =>
    rw [setPath_nil, List.cons_append, held_map_cons, get?_set_str, if_pos rfl]
    rfl
  | cons next path ih =>
    rw [setPath_cons, List.cons_append, held_map_cons, get?_set_str, if_pos rfl]
    exact ih

theorem held_setPath_of_toward {next : String} (toward : key :: path = other ++ next :: rest) :
    ∃ entries, held (.map (setPath table key path v)) other = some (.map entries) := by
  have found : held (.map (setPath table key path v)) (key :: path ++ []) = some v := by
    rw [held_setPath_append, held_nil]
  rw [List.append_nil, toward] at found
  exact isMap_of_held_append found

theorem held_setPath_of_apart (apart : Apart (key :: path) other) :
    held (.map (setPath table key path v)) other = held (.map table) other := by
  obtain ⟨name, rest, rfl⟩ := List.exists_cons_of_ne_nil apart.ne_nil
  induction path generalizing table key name rest with
  | nil =>
    have differ : key ≠ name := fun same => apart.1 (by simp [same])
    rw [setPath_nil, held_map_cons, held_map_cons, get?_set_str, if_neg differ]
  | cons next path ih =>
    by_cases same : key = name
    · subst same
      have apart' : Apart (next :: path) rest := apart.of_cons
      obtain ⟨name, rest, rfl⟩ := List.exists_cons_of_ne_nil apart'.ne_nil
      rw [setPath_cons, held_map_cons, get?_set_str, if_pos rfl, Option.bind_some, ih name rest apart', held_child]
    · rw [setPath_cons, held_map_cons, held_map_cons, get?_set_str, if_neg same]

/-- The leaves after writing a leaf are that one and those at paths apart from its own. -/
theorem held_setPath_iff {w : Value} (flat : v.isMap = false) (flat' : w.isMap = false) :
    held (.map (setPath table key path v)) other = some w ↔
      (other = key :: path ∧ w = v) ∨ (Apart (key :: path) other ∧ held (.map table) other = some w) := by
  obtain ⟨rest, rfl⟩ | ⟨next, rest, toward⟩ | apart := path_cases (key :: path) other
  · have through : ¬ Apart (key :: path) (key :: path ++ rest) := fun apart => apart.1 (List.prefix_append ..)
    rw [held_setPath_append, or_iff_left (fun left => through left.1)]
    cases rest with
    | nil => simp [eq_comm]
    | cons next rest => simp [held_of_flat flat]
  · have ⟨entries, here⟩ : ∃ entries, held (.map (setPath table key path v)) other = some (.map entries) :=
      held_setPath_of_toward toward
    rw [here, toward]
    refine iff_of_false (fun same => ?_) ?_
    · cases same
      cases flat'
    · rintro (⟨same, -⟩ | ⟨apart, -⟩)
      · simp at same
      · exact apart.2 (List.prefix_append ..)
  · have differ : other ≠ key :: path := fun same => apart.1 (same ▸ List.prefix_rfl)
    rw [held_setPath_of_apart apart, or_iff_right (fun left => differ left.1), and_iff_right apart]

/-- Every table inside a value has leaves in it. -/
def Leafy (v : Value) : Prop :=
  ∀ path entries, path ≠ [] → held v path = some (.map entries) →
    ∃ rest leaf, held v (path ++ rest) = some leaf ∧ leaf.isMap = false

theorem Leafy.setPath (leafy : Leafy (.map table)) (flat : v.isMap = false) :
    Leafy (.map (setPath table key path v)) := by
  intro other entries inner found
  obtain ⟨rest, rfl⟩ | ⟨next, rest, toward⟩ | apart := path_cases (key :: path) other
  · rw [held_setPath_append] at found
    cases rest with
    | nil =>
      cases held_nil.symm.trans found
      cases flat
    | cons next rest =>
      rw [held_of_flat flat] at found
      cases found
  · -- The table is on the way to the new leaf, whatever it was before.
    refine ⟨next :: rest, v, ?_, flat⟩
    rw [← toward, ← List.append_nil (key :: path), held_setPath_append, held_nil]
  · rw [held_setPath_of_apart apart] at found
    obtain ⟨rest, leaf, below, flat'⟩ := leafy other entries inner found
    exact ⟨rest, leaf, (held_setPath_of_apart (apart.append rest)).trans below, flat'⟩

/-- Where all leaves of a table are held, so are its tables. -/
theorem Leafy.exists_held {others : Table} (leafy : Leafy (.map table))
    (leaves : ∀ path leaf, leaf.isMap = false → held (.map table) path = some leaf → held (.map others) path = some leaf)
    (found : held (.map table) path = some v) : ∃ w, held (.map others) path = some w ∧ SameHere v w := by
  obtain ⟨entries, rfl⟩ | flat := map_or_flat v
  · by_cases whole : path = []
    · subst whole
      exact ⟨_, held_nil, .tables _ _⟩
    · obtain ⟨rest, leaf, below, flat⟩ := leafy path entries whole found
      cases rest with
      | nil =>
        rw [List.append_nil, found] at below
        cases below
        cases flat
      | cons key rest =>
        obtain ⟨entries', here⟩ := isMap_of_held_append (leaves _ leaf flat below)
        exact ⟨_, here, .tables _ _⟩
  · exact ⟨v, leaves path v flat found, .same v⟩

/-- Tables with the same leaves, and with leaves in all tables, hold the same at every path. -/
theorem agree_of_leaves {others : Table} (leafy : Leafy (.map table)) (leafy' : Leafy (.map others))
    (same : ∀ path leaf, leaf.isMap = false →
      (held (.map table) path = some leaf ↔ held (.map others) path = some leaf)) :
    Agree (.map table) (.map others) := by
  intro path
  cases found : held (.map table) path with
  | some v =>
    obtain ⟨w, here, same⟩ := leafy.exists_held (fun path leaf flat => (same path leaf flat).mp) found
    rw [here]
    exact .some same
  | none =>
    cases found' : held (.map others) path with
    | none => exact .none
    | some w =>
      obtain ⟨v, here, -⟩ := leafy'.exists_held (fun path leaf flat => (same path leaf flat).mpr) found'
      cases found.symm.trans here

theorem entries_set (bindings : Bindings) : bindings.entries.set (.str key) v = Bindings.entries (bindings.set key v) := by
  induction bindings with
  | nil => rfl
  | cons entry bindings ih =>
    obtain ⟨own, w⟩ := entry
    rw [Bindings.entries_cons, Assoc.set, Assoc.set, str_beq_str, ih]
    split <;> rfl

theorem IsTree.set (tree : IsTree (.map table)) (tree' : IsTree v) : IsTree (.map (table.set (.str key) v)) := by
  obtain ⟨bindings, rfl, distinct, trees⟩ := isTree_map_iff.mp tree
  exact isTree_map_iff.mpr ⟨_, entries_set bindings, Assoc.nodup_keys_set distinct _ _, Assoc.forall_set trees tree'⟩

theorem isTree_nil : IsTree (.map []) :=
  isTree_map_iff.mpr ⟨[], rfl, List.nodup_nil, nofun⟩

theorem IsTree.child (tree : IsTree (.map table)) : IsTree (.map (child table key)) := by
  obtain ⟨bindings, rfl, distinct, trees⟩ := isTree_map_iff.mp tree
  rw [Settings.child, get?_entries]
  split
  · rename_i entries found
    exact trees _ ((Assoc.get?_eq_some_iff distinct).mp found)
  · exact isTree_nil

theorem IsTree.setPath (tree : IsTree (.map table)) (tree' : IsTree v) : IsTree (.map (setPath table key path v)) := by
  induction path generalizing table key with
  | nil => exact tree.set tree'
  | cons next path ih => exact tree.set (ih tree.child)

end Stencil.Settings
