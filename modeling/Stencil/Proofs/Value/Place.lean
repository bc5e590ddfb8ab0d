import Stencil.Proofs.Assoc
import Stencil.Value.Equality

/-!
Places inside values.

A place is given by the way to it, through positions in lists and keys of maps. Maps with text keys, each given once,
can be read as bindings (`get?_entries`).
-/

namespace Stencil

section Rel

variable {α : Type} {r : α → α → Prop} {a b : α}

@[simp]
theorem rel_none_none : Option.Rel r none none :=
  .none

@[simp]
theorem rel_some_iff : Option.Rel r (some a) (some b) ↔ r a b :=
  ⟨fun same => by cases same; assumption, .some⟩

@[simp]
theorem not_rel_none_some : ¬ Option.Rel r none (some b) :=
  nofun

@[simp]
theorem not_rel_some_none : ¬ Option.Rel r (some a) none :=
  nofun

theorem rel_isSome {found found' : Option α} (same : Option.Rel r found found') : found.isSome = found'.isSome := by
  cases same <;> rfl

theorem rel_symm (symm : ∀ {a b}, r a b → r b a) {found found' : Option α} (same : Option.Rel r found found') :
    Option.Rel r found' found := by
  cases same with
  | none => exact .none
  | some related => exact .some (symm related)

/-- Where things are related if their parts are, at every place and at their roots, so are things that may be
missing. -/
theorem rel_bind_iff {ι : Type} {view : α → ι → Option α} {root : ι} (itself : ∀ a, view a root = some a)
    {found found' : Option α} :
    Option.Rel (fun a b => ∀ place, Option.Rel r (view a place) (view b place)) found found' ↔
      ∀ place, Option.Rel r (found.bind fun a => view a place) (found'.bind fun a => view a place) := by
  have apart {a : α} : (∀ place, Option.Rel r none (view a place)) ↔ False :=
    iff_false_intro fun same => by simpa [itself] using same root
  have apart' {a : α} : (∀ place, Option.Rel r (view a place) none) ↔ False :=
    iff_false_intro fun same => by simpa [itself] using same root
  cases found <;> cases found' <;> simp [apart, apart']

end Rel

/-- The entries of a map with names for keys. -/
def Bindings.entries (bindings : Bindings) : Assoc Value Value :=
  bindings.map fun entry => (.str entry.1, entry.2)

theorem Bindings.entries_cons (name : String) (v : Value) (bindings : Bindings) :
    Bindings.entries ((name, v) :: bindings) = (.str name, v) :: bindings.entries :=
  rfl

namespace Value

theorem ofBindings_eq (bindings : Bindings) : ofBindings bindings = .map bindings.entries :=
  rfl

theorem beq_str {v : Value} {s : String} : (v == .str s) = true ↔ v = .str s := by
  change equal v (.str s) = true ↔ _
  cases v <;> simp [equal, equalScalar, exactDecimal?]

theorem str_beq {v : Value} {s : String} : (Value.str s == v) = true ↔ v = .str s := by
  change equal (.str s) v = true ↔ _
  cases v with
  | str t =>
    simp only [equal, equalScalar, beq_iff_eq, str.injEq]
    exact eq_comm
  | _ => simp [equal, equalScalar, exactDecimal?]

theorem str_beq_str (s t : String) : ((.str s : Value) == .str t) = (s == t) := by
  rw [Bool.eq_iff_iff, beq_str, str.injEq, beq_iff_eq]

theorem get?_entries (bindings : Bindings) (name : String) :
    bindings.entries.get? (.str name) = Assoc.get? bindings name := by
  induction bindings with
  | nil => rfl
  | cons entry bindings ih =>
    obtain ⟨own, v⟩ := entry
    simp only [Bindings.entries_cons, Assoc.get?, str_beq_str]
    split
    · rfl
    · exact ih

theorem has_entries (bindings : Bindings) (name : String) :
    bindings.entries.has (.str name) = Assoc.has bindings name := by
  rw [Assoc.has, get?_entries, Assoc.has]

/-- A step into a value: to an item of a list, or to the value of a key of a map. -/
inductive Step where
  | item (position : Nat)
  | key (name : String)

/-- What stands at a place inside a value, if the way leads anywhere. -/
def inside : Value → List Step → Option Value
  | v, [] => some v
  | .list items, .item position :: rest => items[position]?.bind fun v => v.inside rest
  | .map entries, .key name :: rest => (Assoc.get? entries (.str name)).bind fun v => v.inside rest
  | _, _ :: _ => none

variable {rest : List Step} {name : String}

@[simp]
theorem inside_nil (v : Value) : v.inside [] = some v := by
  unfold inside
  rfl

@[simp]
theorem inside_list_item (items : List Value) (position : Nat) :
    (Value.list items).inside (.item position :: rest) = items[position]?.bind fun v => v.inside rest :=
  rfl

@[simp]
theorem inside_list_key (items : List Value) : (Value.list items).inside (.key name :: rest) = none :=
  rfl

@[simp]
theorem inside_map_key (entries : List (Value × Value)) :
    (Value.map entries).inside (.key name :: rest) =
      (Assoc.get? entries (.str name)).bind fun v => v.inside rest :=
  rfl

@[simp]
theorem inside_map_item (entries : List (Value × Value)) (position : Nat) :
    (Value.map entries).inside (.item position :: rest) = none :=
  rfl

theorem map_or_flat (v : Value) : (∃ entries, v = .map entries) ∨ v.isMap = false := by
  cases v with
  | map entries => exact .inl ⟨entries, rfl⟩
  | _ => exact .inr rfl

theorem inside_key_of_not_isMap {v : Value} (flat : v.isMap = false) : v.inside (.key name :: rest) = none := by
  cases v with
  | map => cases flat
  | _ => rfl

end Value

end Stencil
