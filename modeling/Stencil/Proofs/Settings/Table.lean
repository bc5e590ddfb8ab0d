import Mathlib.Data.List.Perm.Basic
import Stencil.Proofs.Value.Place
import Stencil.Settings.Layer

/-!
Tables, path by path.

A path of keys leads through tables within tables to what is held there (`held`). Tables are the same up to the order
of their keys, at any depth, exactly if they hold the same at every path (`rearranged_iff_agree`).
-/

namespace Stencil.Settings

open Value

/-- What a value holds at a path of keys: itself at the empty one, and below it only what tables hold. -/
def held (v : Value) (path : List String) : Option Value :=
  v.inside (path.map .key)

section Held

variable {v w : Value} {entries : List (Value × Value)} {key : String} {path rest : List String}

@[simp]
theorem held_nil : held v [] = some v :=
  inside_nil v

@[simp]
theorem held_map_cons :
    held (.map entries) (key :: rest) = (Assoc.get? entries (.str key)).bind fun v => held v rest :=
  rfl

theorem held_of_flat (flat : v.isMap = false) : held v (key :: rest) = none :=
  inside_key_of_not_isMap flat

theorem held_cons_eq_some_iff :
    held v (key :: rest) = some w ↔
      ∃ entries next, v = .map entries ∧ Assoc.get? entries (.str key) = some next ∧ held next rest = some w := by
  obtain ⟨entries, rfl⟩ | flat := map_or_flat v
  · simp [Option.bind_eq_some_iff]
  · rw [held_of_flat flat]
    refine iff_of_false nofun ?_
    rintro ⟨entries, _, rfl, _⟩
    cases flat

theorem held_append : held v (path ++ rest) = (held v path).bind fun w => held w rest := by
  induction path generalizing v with
  | nil => simp
  | cons key path ih =>
    obtain ⟨entries, rfl⟩ | flat := map_or_flat v
    · rw [List.cons_append, held_map_cons, held_map_cons, Option.bind_assoc]
      exact Option.bind_congr fun w _ => ih
    · rw [List.cons_append, held_of_flat flat, held_of_flat flat, Option.bind_none]

/-- On the way to what is held there are tables only. -/
theorem isMap_of_held_append (found : held v (path ++ key :: rest) = some w) :
    ∃ entries, held v path = some (.map entries) := by
  rw [held_append] at found
  obtain ⟨u, here, below⟩ := Option.bind_eq_some_iff.mp found
  obtain ⟨entries, _, rfl, _⟩ := held_cons_eq_some_iff.mp below
  exact ⟨entries, here⟩

end Held

/-- Tables within tables, with texts for keys, each given once. All else is a leaf. -/
inductive IsTree : Value → Prop
  | leaf {v} : v.isMap = false → IsTree v
  | table {bindings : Bindings} : bindings.keys.Nodup → (∀ entry ∈ bindings, IsTree entry.2) →
      IsTree (.map bindings.entries)

theorem isTree_map_iff {entries : List (Value × Value)} :
    IsTree (.map entries) ↔ ∃ bindings : Bindings,
      entries = bindings.entries ∧ bindings.keys.Nodup ∧ ∀ entry ∈ bindings, IsTree entry.2 := by
  constructor
  · intro tree
    cases tree with
    | leaf flat => cases flat
    | table distinct trees => exact ⟨_, rfl, distinct, trees⟩
  · rintro ⟨bindings, rfl, distinct, trees⟩
    exact .table distinct trees

/-- The same leaf, or two tables, whatever these hold. -/
inductive SameHere : Value → Value → Prop
  | same (v) : SameHere v v
  | tables (entries others) : SameHere (.map entries) (.map others)

theorem SameHere.symm {v w : Value} (here : SameHere v w) : SameHere w v := by
  cases here with
  | same => exact .same _
  | tables entries others => exact .tables others entries

theorem SameHere.trans {u v w : Value} (here : SameHere u v) (here' : SameHere v w) : SameHere u w := by
  cases here with
  | same => exact here'
  | tables =>
    cases here' with
    | same => exact .tables _ _
    | tables => exact .tables _ _

/-- At every path two values hold the same leaf, or both a table, or both nothing. -/
def Agree (a b : Value) : Prop :=
  ∀ path, Option.Rel SameHere (held a path) (held b path)

section Agree

variable {a b c : Value}

theorem Agree.refl (a : Value) : Agree a a := by
  intro path
  cases held a path with
  | none => exact .none
  | some v => exact .some (.same v)

theorem Agree.symm (agree : Agree a b) : Agree b a :=
  fun path => rel_symm SameHere.symm (agree path)

theorem Agree.trans (agree : Agree a b) (agree' : Agree b c) : Agree a c := by
  intro path
  have same := agree path
  have same' := agree' path
  cases found : held b path with
  | none =>
    rw [found] at same same'
    cases here : held a path <;> cases there : held c path <;> simp [here, there] at same same' ⊢
  | some v =>
    rw [found] at same same'
    cases here : held a path <;> cases there : held c path <;> simp [here, there] at same same' ⊢
    exact same.trans same'

theorem agree_map_iff {entries others : List (Value × Value)} :
    Agree (.map entries) (.map others) ↔
      ∀ name : String, Option.Rel Agree (Assoc.get? entries (.str name)) (Assoc.get? others (.str name)) := by
  have parts (name : String) := @rel_bind_iff _ SameHere _ held [] (fun _ => held_nil)
    (Assoc.get? entries (.str name)) (Assoc.get? others (.str name))
  constructor
  · exact fun agree name => (parts name).mpr fun path => agree (name :: path)
  · intro same path
    match path with
    | [] => simpa using SameHere.tables entries others
    | name :: path => exact (parts name).mp (same name) path

end Agree

/-- The same up to the order of keys, at any depth. -/
inductive Rearranged : Value → Value → Prop
  | refl (v) : Rearranged v v
  | trans {a b c} : Rearranged a b → Rearranged b c → Rearranged a c
  | order {entries others} : entries.Perm others → Rearranged (.map entries) (.map others)
  | within (first : List (Value × Value)) (key : Value) {v w : Value} (rest : List (Value × Value)) :
      Rearranged v w → Rearranged (.map (first ++ (key, v) :: rest)) (.map (first ++ (key, w) :: rest))

section Rearranged

variable {a b : Value}

theorem exists_entries_of_perm {bindings : Bindings} {others : List (Value × Value)}
    (perm : bindings.entries.Perm others) :
    ∃ bindings' : Bindings, bindings.Perm bindings' ∧ others = bindings'.entries := by
  have turned := congrFun₂ (List.eq_map_comp_perm fun entry : String × Value => (Value.str entry.1, entry.2))
    others bindings
  obtain ⟨bindings', same, perm'⟩ := turned.mpr perm.symm
  exact ⟨bindings', perm'.symm, same⟩

theorem perm_get? {bindings bindings' : Bindings} (perm : bindings.Perm bindings') (distinct : bindings.keys.Nodup)
    (name : String) : bindings.get? name = bindings'.get? name := by
  have distinct' : bindings'.keys.Nodup := (perm.map Prod.fst).nodup_iff.mp distinct
  refine Option.ext fun v => ?_
  rw [Assoc.get?_eq_some_iff distinct, Assoc.get?_eq_some_iff distinct', perm.mem_iff]

/-- A change within one entry of a table is seen at its key, if anywhere. -/
theorem rel_get?_within {r : Value → Value → Prop} (refl : ∀ v, r v v) {v w : Value} (related : r v w)
    {first rest : List (Value × Value)} {key other : Value} :
    Option.Rel r (Assoc.get? (first ++ (key, v) :: rest) other) (Assoc.get? (first ++ (key, w) :: rest) other) := by
  have itself (found : Option Value) : Option.Rel r found found := by
    cases found with
    | none => exact .none
    | some u => exact .some (refl u)
  induction first with
  | nil =>
    simp only [List.nil_append, Assoc.get?]
    split
    · exact .some related
    · exact itself _
  | cons entry first ih =>
    simp only [List.cons_append, Assoc.get?]
    split
    · exact itself _
    · exact ih

theorem Rearranged.isTree_and_agree (rearranged : Rearranged a b) (tree : IsTree a) : IsTree b ∧ Agree a b := by
  induction rearranged with
  | refl v => exact ⟨tree, .refl v⟩
  | trans _ _ ih ih' =>
    obtain ⟨tree', agree⟩ := ih tree
    obtain ⟨tree'', agree'⟩ := ih' tree'
    exact ⟨tree'', agree.trans agree'⟩
  | order perm =>
    obtain ⟨bindings, rfl, distinct, trees⟩ := isTree_map_iff.mp tree
    obtain ⟨bindings', perm', rfl⟩ := exists_entries_of_perm perm
    have distinct' : bindings'.keys.Nodup := (perm'.map Prod.fst).nodup_iff.mp distinct
    refine ⟨.table distinct' fun entry member => trees entry (perm'.mem_iff.mpr member),
      agree_map_iff.mpr fun name => ?_⟩
    rw [get?_entries, get?_entries, perm_get? perm' distinct]
    cases bindings'.get? name with
    | none => exact .none
    | some v => exact .some (.refl v)
  | @within first key v w rest _ ih =>
    obtain ⟨bindings, same, distinct, trees⟩ := isTree_map_iff.mp tree
    obtain ⟨before, others, rfl, rfl, tail⟩ := List.map_eq_append_iff.mp same.symm
    obtain ⟨⟨name, v⟩, after, rfl, entry, rfl⟩ := List.map_eq_cons_iff.mp tail
    cases entry
    -- The changed entry keeps its name, so the names are as distinct as before.
    obtain ⟨tree', agree⟩ := ih (trees (name, v) (by simp))
    refine ⟨isTree_map_iff.mpr ⟨before ++ (name, w) :: after, by simp [Bindings.entries], ?_, ?_⟩,
      agree_map_iff.mpr fun key => rel_get?_within Agree.refl agree⟩
    · simpa [Assoc.keys] using distinct
    · simp only [List.forall_mem_append, List.forall_mem_cons] at trees ⊢
      exact ⟨trees.1, tree', trees.2.2⟩

theorem rearranged_entries {entries others : List (Value × Value)}
    (pairs : List.Forall₂ (fun entry other => entry.1 = other.1 ∧ Rearranged entry.2 other.2) entries others) :
    Rearranged (.map entries) (.map others) := by
  have all : ∀ first, Rearranged (.map (first ++ entries)) (.map (first ++ others)) := by
    induction pairs with
    | nil => exact fun first => .refl _
    | @cons entry other entries others same _ ih =>
      obtain ⟨key, v⟩ := entry
      obtain ⟨key', w⟩ := other
      obtain ⟨rfl, rearranged⟩ := same
      intro first
      have later := ih (first ++ [(key, w)])
      rw [List.append_assoc, List.append_assoc] at later
      exact .trans (.within first key entries rearranged) later
  exact all []

/-- Bindings in the order that the names have in others. -/
def arranged (bindings order : Bindings) : Bindings :=
  order.map fun entry => (entry.1, (bindings.get? entry.1).getD .null)

theorem perm_arranged {bindings order : Bindings} (distinct : order.keys.Nodup) (distinct' : bindings.keys.Nodup)
    (bound : ∀ name, (order.get? name).isSome = (bindings.get? name).isSome) :
    (arranged bindings order).Perm bindings := by
  have keys : (arranged bindings order).keys = order.keys := by simp [arranged, Assoc.keys]
  refine Assoc.perm_of_get? (keys ▸ distinct) distinct' fun name => Option.ext fun v => ?_
  rw [Assoc.get?_eq_some_iff (keys ▸ distinct), arranged, List.mem_map]
  constructor
  · rintro ⟨⟨name, u⟩, member, same⟩
    cases same
    have some : (bindings.get? name).isSome = true := by
      rw [← bound, Assoc.get?_of_mem distinct member]
      rfl
    obtain ⟨w, found⟩ := Option.isSome_iff_exists.mp some
    rw [found, Option.getD_some]
  · intro found
    have some : (order.get? name).isSome = true := by
      rw [bound, found]
      rfl
    obtain ⟨u, member⟩ := Option.isSome_iff_exists.mp some
    exact ⟨(name, u), (Assoc.get?_eq_some_iff distinct).mp member, by rw [found, Option.getD_some]⟩

/-- Trees that hold the same at every path are the same up to the order of keys. The induction is on one of them: the
other is first brought to its order, then changed entry by entry. -/
theorem Agree.rearranged (agree : Agree a b) (tree : IsTree a) (tree' : IsTree b) : Rearranged a b := by
  induction tree generalizing b with
  | @leaf v flat =>
    have top : SameHere v b := by simpa using agree []
    cases top with
    | same => exact .refl _
    | tables => cases flat
  | @table bindings distinct trees ih =>
    cases tree' with
    | @leaf _ flat =>
      have top : SameHere (.map bindings.entries) b := by simpa using agree []
      cases top <;> cases flat
    | @table others distinct' trees' =>
      have parts (name : String) : Option.Rel Agree (bindings.get? name) (others.get? name) := by
        rw [← get?_entries, ← get?_entries]
        exact agree_map_iff.mp agree name
      have found : ∀ entry ∈ bindings, ∃ w, others.get? entry.1 = some w ∧ Rearranged entry.2 w := by
        rintro ⟨name, v⟩ member
        have part := parts name
        rw [Assoc.get?_of_mem distinct member] at part
        cases there : others.get? name with
        | none => simp [there] at part
        | some w =>
          rw [there, rel_some_iff] at part
          exact ⟨w, rfl, ih _ member part (trees' _ ((Assoc.get?_eq_some_iff distinct').mp there))⟩
      refine .trans (@rearranged_entries _ (arranged others bindings).entries ?_)
        (.order ((perm_arranged distinct distinct' fun name => rel_isSome (parts name)).map _))
      rw [Bindings.entries, Bindings.entries, arranged, List.forall₂_map_left_iff, List.forall₂_map_right_iff,
        List.forall₂_map_right_iff, List.forall₂_same]
      rintro ⟨name, v⟩ member
      obtain ⟨w, there, rearranged⟩ := found _ member
      simpa [there] using rearranged

theorem rearranged_iff_agree (tree : IsTree a) (tree' : IsTree b) : Rearranged a b ↔ Agree a b :=
  ⟨fun rearranged => (rearranged.isTree_and_agree tree).2, fun agree => agree.rearranged tree tree'⟩

end Rearranged

end Stencil.Settings
