import Mathlib.Data.List.Forall2
import Mathlib.Data.List.Perm.Subperm
import Stencil.Proofs.Value.Place
import Stencil.Value.Kind

/-!
Equality of values, place by place.

Two documents are equal exactly if at every place both hold nothing, or both a list, or both a map, or equal scalars
(`equal_iff_alike`). Truth values count as one and zero there, at whatever depth, so equality is weaker than having
the same shape. Floats that are no numbers are left out: such a float equals nothing here, while a host may find two
values equal that share one.
-/

namespace Stencil

namespace Number.Decimal

theorem compare?_ofInt_iff {m n : Int} : (ofInt m).compare? (ofInt n) = some .eq ↔ m = n := by
  have own (k : Int) : scaledTo (min 0 0) (decide (k < 0)) k.natAbs 0 = k := by
    have one : ((tenTo ((0 : Int) - min 0 0).toNat : Nat) : Int) = 1 := rfl
    simp only [scaledTo, one, Int.mul_one, decide_eq_true_eq]
    split <;> omega
  rw [ofInt, ofInt, compare?, own, own, Option.some.injEq, Int.compare_eq_eq]

theorem compare?_eq_symm {x y : Decimal} (same : x.compare? y = some .eq) : y.compare? x = some .eq := by
  cases x with
  | nan => cases same
  | infinite s =>
    cases y with
    | nan => cases same
    | infinite s' =>
      have signs : s = s' := by cases s <;> cases s' <;> simp [compare?] at same ⊢
      rwa [signs] at same ⊢
    | finite => cases s <;> cases same
  | finite s c e =>
    cases y with
    | nan => cases same
    | infinite s' => cases s' <;> cases same
    | finite s' c' e' =>
      simp only [compare?, Option.some.injEq, Int.compare_eq_eq] at same ⊢
      rw [Int.min_comm e' e, same]

end Number.Decimal

namespace Value

open Number

/-- Data as JSON has it: each key of a map is given once, and floats are numbers. -/
inductive IsDocument : Value → Prop
  | null : IsDocument .null
  | bool (b : Bool) : IsDocument (.bool b)
  | int (n : Int) : IsDocument (.int n)
  | float {x : Float} : Dyadic.isNaN x = false → IsDocument (.float x)
  | str (s : String) : IsDocument (.str s)
  | list {items} : (∀ v ∈ items, IsDocument v) → IsDocument (.list items)
  | map {bindings : Bindings} : bindings.keys.Nodup → (∀ entry ∈ bindings, IsDocument entry.2) →
      IsDocument (.ofBindings bindings)

/-- A number that data can hold, or a truth value. -/
def IsNumeric (v : Value) : Prop :=
  v.kind = .truth ∨ v.kind = .number

/-- Two values correspond if they are equal scalars, or both lists, or both maps, whatever these hold. Truth values
are among the numbers. -/
inductive Level : Value → Value → Prop
  | null : Level .null .null
  | text (s : String) : Level (.str s) (.str s)
  | number {a b x y} : a.IsNumeric → b.IsNumeric → a.exactDecimal? = some x → b.exactDecimal? = some y →
      x.compare? y = some .eq → Level a b
  | list (xs ys) : Level (.list xs) (.list ys)
  | map (entries others) : Level (.map entries) (.map others)

theorem Level.symm {a b : Value} (level : Level a b) : Level b a := by
  cases level with
  | null => exact .null
  | text s => exact .text s
  | number numeric numeric' left right same =>
    exact .number numeric' numeric right left (Decimal.compare?_eq_symm same)
  | list xs ys => exact .list ys xs
  | map entries others => exact .map others entries

/-- Values that correspond are of the same kind, or one is a truth value and the other a number. -/
theorem Level.kinds {a b : Value} (level : Level a b) (differ : a.kind ≠ b.kind) :
    a.kind = .truth ∧ b.kind = .number ∨ a.kind = .number ∧ b.kind = .truth := by
  cases level with
  | number numeric numeric' =>
    rcases numeric with truth | number <;> rcases numeric' with truth' | number' <;> simp_all
  | _ => exact absurd rfl differ

/-- What corresponds to a list is a list, and what corresponds to a map is a map. -/
theorem Level.kind_of_composite {a b : Value} (level : Level a b) (composite : a.kind = .list ∨ a.kind = .map) :
    b.kind = a.kind := by
  by_contra differ
  rcases level.kinds (Ne.symm differ) with ⟨truth, -⟩ | ⟨number, -⟩
  · simp [truth] at composite
  · simp [number] at composite

/-- At every place inside, two values correspond or both hold nothing. -/
def Alike (a b : Value) : Prop :=
  ∀ place, Option.Rel Level (a.inside place) (b.inside place)

theorem Alike.level {a b : Value} (alike : Alike a b) : Level a b := by
  have top := alike []
  rwa [inside_nil, inside_nil, rel_some_iff] at top

theorem Alike.symm {a b : Value} (alike : Alike a b) : Alike b a :=
  fun place => rel_symm Level.symm (alike place)

section Inside

theorem rel_alike_iff {found found' : Option Value} :
    Option.Rel Alike found found' ↔
      ∀ place, Option.Rel Level (found.bind fun v => v.inside place) (found'.bind fun v => v.inside place) :=
  rel_bind_iff inside_nil

theorem alike_list_iff {xs ys : List Value} :
    Alike (.list xs) (.list ys) ↔ ∀ position : Nat, Option.Rel Alike xs[position]? ys[position]? := by
  constructor
  · exact fun alike position => rel_alike_iff.mpr fun place => alike (.item position :: place)
  · intro parts place
    match place with
    | [] => exact .some (.list xs ys)
    | .item position :: place => exact rel_alike_iff.mp (parts position) place
    | .key _ :: _ => exact .none

theorem alike_map_iff {entries others : List (Value × Value)} :
    Alike (.map entries) (.map others) ↔
      ∀ name : String, Option.Rel Alike (Assoc.get? entries (.str name)) (Assoc.get? others (.str name)) := by
  constructor
  · exact fun alike name => rel_alike_iff.mpr fun place => alike (.key name :: place)
  · intro parts place
    match place with
    | [] => exact .some (.map entries others)
    | .key name :: place => exact rel_alike_iff.mp (parts name) place
    | .item _ :: _ => exact .none

end Inside

theorem equalItems_iff {xs ys : List Value} :
    equalItems xs ys = true ↔ ∀ position : Nat, Option.Rel (equal · ·) xs[position]? ys[position]? := by
  induction xs generalizing ys with
  | nil =>
    cases ys with
    | nil => simp [equalItems]
    | cons y ys =>
      refine iff_of_false (by simp [equalItems]) fun same => ?_
      simpa using same 0
  | cons x xs ih =>
    cases ys with
    | nil =>
      refine iff_of_false (by simp [equalItems]) fun same => ?_
      simpa using same 0
    | cons y ys =>
      rw [equalItems, Bool.and_eq_true, ih]
      constructor
      · rintro ⟨first, rest⟩ position
        cases position with
        | zero => exact .some first
        | succ position => exact rest position
      · exact fun same => ⟨by simpa using same 0, fun position => same (position + 1)⟩

/-- The entries of one map have their equals in another. -/
theorem equalEntries_iff {bindings others : Bindings} :
    equalEntries bindings.entries others.entries = true ↔
      ∀ entry ∈ bindings, ∃ w, others.get? entry.1 = some w ∧ equal entry.2 w = true := by
  have find (name : String) :
      (others.entries.find? fun entry => equal (.str name) entry.1).map Prod.snd = others.get? name := by
    rw [← get?_entries]
    induction others.entries with
    | nil => rfl
    | cons entry entries ih =>
      have turned : equal (.str name) entry.1 = (entry.1 == .str name) := by
        rw [Bool.eq_iff_iff, beq_str]
        exact str_beq
      rw [List.find?_cons, turned, Assoc.get?]
      cases entry.1 == .str name with
      | true => rfl
      | false => exact ih
  induction bindings with
  | nil => simp [Bindings.entries, equalEntries]
  | cons entry bindings ih =>
    obtain ⟨name, v⟩ := entry
    rw [Bindings.entries_cons, equalEntries, Bool.and_eq_true, List.forall_mem_cons, ← find name]
    refine and_congr ?_ ih
    cases others.entries.find? fun entry => equal (.str name) entry.1 <;> simp

/-- Maps are compared key by key, provided each key is given once. -/
theorem equal_ofBindings_iff {bindings others : Bindings} (distinct : bindings.keys.Nodup)
    (distinct' : others.keys.Nodup) :
    equal (.ofBindings bindings) (.ofBindings others) = true ↔
      ∀ name : String, Option.Rel (equal · ·) (bindings.get? name) (others.get? name) := by
  have lengths (table : Bindings) : table.entries.length = table.keys.length := by
    simp [Bindings.entries, Assoc.keys]
  rw [ofBindings_eq, ofBindings_eq, equal, Bool.and_eq_true, equalEntries_iff, beq_iff_eq, lengths, lengths]
  constructor
  · rintro ⟨length, equals⟩ name
    have within : bindings.keys ⊆ others.keys := by
      intro key listed
      obtain ⟨entry, member, rfl⟩ := List.mem_map.mp listed
      obtain ⟨w, found, _⟩ := equals entry member
      exact Assoc.isSome_get?_iff.mp (by rw [found]; rfl)
    have keys : bindings.keys.Perm others.keys :=
      (distinct.subperm within).perm_of_length_le (Nat.le_of_eq length.symm)
    cases found : bindings.get? name with
    | some v =>
      obtain ⟨w, found', same⟩ := equals (name, v) ((Assoc.get?_eq_some_iff distinct).mp found)
      rw [found']
      exact .some same
    | none =>
      -- As many keys on both sides, so the other map has no further ones.
      have absent : name ∉ others.keys := by
        rw [← keys.mem_iff, ← Assoc.isSome_get?_iff, found]
        exact Bool.false_ne_true
      rw [Assoc.get?_eq_none_of_not_mem absent]
      exact .none
  · intro equals
    have bound (name : String) : name ∈ bindings.keys ↔ name ∈ others.keys := by
      rw [← Assoc.isSome_get?_iff, ← Assoc.isSome_get?_iff, rel_isSome (equals name)]
    refine ⟨((List.perm_ext_iff_of_nodup distinct distinct').mpr bound).length_eq, fun entry member => ?_⟩
    obtain ⟨name, v⟩ := entry
    have same := equals name
    rw [Assoc.get?_of_mem distinct member] at same
    cases found : others.get? name with
    | none => simp [found] at same
    | some w => exact ⟨w, rfl, by simpa [found] using same⟩

theorem level_scalar_iff {a b : Value} (flat : a.kind ≠ .list ∧ a.kind ≠ .map) :
    Level a b ↔ a = .null ∧ b = .null ∨ (∃ s, a = .str s ∧ b = .str s) ∨ (a.IsNumeric ∧ b.IsNumeric) ∧
      ∃ x y, a.exactDecimal? = some x ∧ b.exactDecimal? = some y ∧ x.compare? y = some .eq := by
  constructor
  · intro level
    cases level with
    | null => exact .inl ⟨rfl, rfl⟩
    | text s => exact .inr (.inl ⟨s, rfl, rfl⟩)
    | number numeric numeric' left right same => exact .inr (.inr ⟨⟨numeric, numeric'⟩, _, _, left, right, same⟩)
    | list => exact absurd rfl flat.1
    | map => exact absurd rfl flat.2
  · rintro (⟨rfl, rfl⟩ | ⟨s, rfl, rfl⟩ | ⟨⟨numeric, numeric'⟩, x, y, left, right, same⟩)
    · exact .null
    · exact .text s
    · exact .number numeric numeric' left right same

theorem inside_of_flat {v : Value} (flat : v.kind ≠ .list ∧ v.kind ≠ .map) (step : Step) (rest : List Step) :
    v.inside (step :: rest) = none := by
  cases v with
  | list => exact absurd rfl flat.1
  | map => exact absurd rfl flat.2
  | _ => cases step <;> rfl

theorem alike_scalar_iff {a b : Value} (flat : a.kind ≠ .list ∧ a.kind ≠ .map) : Alike a b ↔ Level a b := by
  refine ⟨Alike.level, fun level place => ?_⟩
  cases place with
  | nil => simpa using level
  | cons step rest =>
    have flat' : b.kind ≠ .list ∧ b.kind ≠ .map := by
      by_cases same : a.kind = b.kind
      · rwa [← same]
      · rcases level.kinds same with ⟨-, other⟩ | ⟨-, other⟩ <;> simp [other]
    rw [inside_of_flat flat, inside_of_flat flat']
    exact .none

/-- A document that is neither a list nor a map is equal to what it corresponds to. -/
theorem equal_scalar_iff {a b : Value} (document : a.IsDocument) (document' : b.IsDocument)
    (flat : a.kind ≠ .list ∧ a.kind ≠ .map) : equal a b = true ↔ Level a b := by
  have truth (p q : Bool) : (p.toNat : Int) = q.toNat ↔ p = q := by
    cases p <;> cases q <;> decide
  rw [level_scalar_iff flat]
  cases document with
  | list => exact absurd rfl flat.1
  | map => exact absurd rfl flat.2
  | null => cases document' <;> simp [equal, equalScalar, exactDecimal?, IsNumeric, kind, ofBindings_eq]
  | str s =>
    cases document' with
    | str t =>
      simp only [equal, equalScalar, exactDecimal?, beq_iff_eq, str.injEq, reduceCtorEq, false_and, and_false, or_false,
        false_or, exists_false, exists_eq_left']
      exact eq_comm
    | _ => simp [equal, equalScalar, exactDecimal?, ofBindings_eq]
  | bool p =>
    cases document' <;>
      simp [equal, equalScalar, exactDecimal?, Decimal.compare?_ofInt_iff, truth, IsNumeric, kind, ofBindings_eq]
  | int m =>
    cases document' <;>
      simp [equal, equalScalar, exactDecimal?, Decimal.compare?_ofInt_iff, IsNumeric, kind, ofBindings_eq]
  | float =>
    cases document' <;> simp [equal, equalScalar, exactDecimal?, IsNumeric, kind, ofBindings_eq]

theorem equal_iff_alike_of_flat {a b : Value} (document : a.IsDocument) (document' : b.IsDocument)
    (flat : a.kind ≠ .list ∧ a.kind ≠ .map) : equal a b = true ↔ Alike a b :=
  (equal_scalar_iff document document' flat).trans (alike_scalar_iff flat).symm

theorem equal_iff_alike {a b : Value} (document : a.IsDocument) (document' : b.IsDocument) :
    equal a b = true ↔ Alike a b := by
  induction document generalizing b with
  | @list items parts ih =>
    cases document' with
    | @list others parts' =>
      rw [equal, equalItems_iff, alike_list_iff]
      refine forall_congr' fun position => ?_
      cases found : items[position]? with
      | none => cases others[position]? <;> simp
      | some v =>
        cases found' : others[position]? with
        | none => simp
        | some w =>
          rw [rel_some_iff, rel_some_iff]
          exact ih v (List.mem_of_getElem? found) (parts' w (List.mem_of_getElem? found'))
    | _ =>
      refine iff_of_false (by simp [equal, ofBindings_eq]) fun alike => ?_
      cases alike.level.kind_of_composite (.inl rfl)
  | @map bindings distinct parts ih =>
    cases document' with
    | @map others distinct' parts' =>
      rw [equal_ofBindings_iff distinct distinct', ofBindings_eq, ofBindings_eq, alike_map_iff]
      refine forall_congr' fun name => ?_
      rw [get?_entries, get?_entries]
      cases found : bindings.get? name with
      | none => cases others.get? name <;> simp
      | some v =>
        cases found' : others.get? name with
        | none => simp
        | some w =>
          rw [rel_some_iff, rel_some_iff]
          exact ih _ ((Assoc.get?_eq_some_iff distinct).mp found)
            (parts' _ ((Assoc.get?_eq_some_iff distinct').mp found'))
    | _ =>
      refine iff_of_false (by simp [equal, ofBindings_eq]) fun alike => ?_
      cases alike.level.kind_of_composite (.inr rfl)
  | null => exact equal_iff_alike_of_flat .null document' (by simp [kind])
  | bool p => exact equal_iff_alike_of_flat (.bool p) document' (by simp [kind])
  | int m => exact equal_iff_alike_of_flat (.int m) document' (by simp [kind])
  | float number => exact equal_iff_alike_of_flat (.float number) document' (by simp [kind])
  | str s => exact equal_iff_alike_of_flat (.str s) document' (by simp [kind])

end Value

end Stencil
