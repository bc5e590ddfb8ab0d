import Stencil.Proofs.Settings.Table

/-!
Layering, path by path.

At every path a layered table holds what the upper table holds there, put over what the lower one holds if both are
tables (`held_layerValue`). Where the upper table has a leaf on the way there is nothing (`held_layerValue_of_cut`),
and where it has nothing at all the lower table is left alone (`held_layerValue_of_open`).
-/

namespace Stencil.Settings

open Value

/-- A leaf of a value lies on the way to a path, before its end. -/
def Cut (v : Value) (path : List String) : Prop :=
  ∃ before key rest leaf, path = before ++ key :: rest ∧ held v before = some leaf ∧ leaf.isMap = false

/-- A value holds nothing at a path, and only tables on the way to it. -/
def Open (v : Value) (path : List String) : Prop :=
  held v path = none ∧ ∀ before key rest w, path = before ++ key :: rest → held v before = some w → w.isMap = true

section Ways

variable {entries : List (Value × Value)} {next v : Value} {key : String} {rest : List String}

theorem Open.of_entry (free : Open (.map entries) (key :: rest)) (found : Assoc.get? entries (.str key) = some next) :
    Open next rest := by
  obtain ⟨nothing, tables⟩ := free
  rw [held_map_cons, found] at nothing
  refine ⟨nothing, fun before key' rest' w split here => ?_⟩
  refine tables (key :: before) key' rest' w (by rw [split, List.cons_append]) ?_
  rw [held_map_cons, found]
  exact here

theorem open_of_entry (found : Assoc.get? entries (.str key) = some next) (free : Open next rest) :
    Open (.map entries) (key :: rest) := by
  refine ⟨by rw [held_map_cons, found]; exact free.1, fun before key' rest' w split here => ?_⟩
  cases before with
  | nil =>
    cases held_nil.symm.trans here
    rfl
  | cons first before =>
    obtain ⟨rfl, later⟩ := List.cons.inj split
    rw [held_map_cons, found] at here
    exact free.2 before key' rest' w later here

theorem open_of_absent (absent : Assoc.get? entries (.str key) = none) : Open (.map entries) (key :: rest) := by
  refine ⟨by rw [held_map_cons, absent]; rfl, fun before key' rest' w split here => ?_⟩
  cases before with
  | nil =>
    cases held_nil.symm.trans here
    rfl
  | cons first before =>
    obtain ⟨rfl, -⟩ := List.cons.inj split
    rw [held_map_cons, absent] at here
    cases here

theorem Open.exists_map (free : Open v (key :: rest)) : ∃ entries, v = .map entries := by
  refine (map_or_flat v).resolve_right fun flat => ?_
  cases flat.symm.trans (free.2 [] key rest v rfl held_nil)

theorem Cut.held_eq_none {path : List String} (cut : Cut v path) : held v path = none := by
  obtain ⟨before, key, rest, leaf, rfl, here, flat⟩ := cut
  rw [held_append, here, Option.bind_some, held_of_flat flat]

/-- Nothing is held at a path either because of a leaf on the way or because the way just ends. -/
theorem held_eq_none_iff {path : List String} : held v path = none ↔ Cut v path ∨ Open v path := by
  constructor
  · intro nothing
    by_cases cut : Cut v path
    · exact .inl cut
    · refine .inr ⟨nothing, fun before key rest w split here => ?_⟩
      by_contra flat
      exact cut ⟨before, key, rest, w, split, here, Bool.eq_false_iff.mpr flat⟩
  · rintro (cut | free)
    · exact cut.held_eq_none
    · exact free.1

end Ways

section Values

variable {below above v w : Value}

/-- A value with what lies above it put over it, if anything does. -/
def under (v : Value) : Option Value → Value
  | some w => layerValue v w
  | none => v

theorem layerEntries_cons (key v : Value) (rest above : Table) :
    layerEntries ((key, v) :: rest) above = (key, under v (above.get? key)) :: layerEntries rest above := by
  rw [layerEntries]
  rfl

theorem layerValue_map (entries others : List (Value × Value)) :
    layerValue (.map entries) (.map others) = .map (layer entries others) := by
  rw [layerValue, layer]

theorem layerValue_of_flat_right (flat : above.isMap = false) : layerValue below above = above := by
  cases above with
  | map => cases flat
  | _ => cases below <;> rfl

theorem layerValue_of_flat_left (flat : below.isMap = false) : layerValue below above = above := by
  cases below with
  | map => cases flat
  | _ => rfl

/-- A value put over what is held at some place, if anything is. -/
def atop : Option Value → Value → Value
  | some v, w => layerValue v w
  | none, w => w

theorem atop_of_flat {found : Option Value} (flat : w.isMap = false) : atop found w = w := by
  cases found with
  | none => rfl
  | some v => exact layerValue_of_flat_right flat

end Values

section Entries

variable {below above : Table} {name : String}

theorem get?_append_str (m n : Table) :
    Assoc.get? (m ++ n) (.str name) = (m.get? (.str name)).or (n.get? (.str name)) := by
  induction m with
  | nil => rfl
  | cons entry m ih =>
    simp only [List.cons_append, Assoc.get?]
    split
    · rfl
    · exact ih

theorem get?_layerEntries :
    Assoc.get? (layerEntries below above) (.str name) =
      (below.get? (.str name)).map fun v => under v (above.get? (.str name)) := by
  induction below with
  | nil => rfl
  | cons entry below ih =>
    obtain ⟨key, v⟩ := entry
    rw [layerEntries_cons, Assoc.get?, Assoc.get?]
    by_cases same : (key == .str name) = true
    · rw [if_pos same, if_pos same, beq_str.mp same]
      rfl
    · rw [if_neg same, if_neg same, ih]

theorem get?_without :
    Assoc.get? (without above below) (.str name) =
      if below.has (.str name) then none else above.get? (.str name) := by
  rw [without]
  induction above with
  | nil => simp [Assoc.get?]
  | cons entry above ih =>
    obtain ⟨key, v⟩ := entry
    rw [List.filter_cons, Assoc.get?]
    by_cases same : (key == .str name) = true
    · obtain rfl := beq_str.mp same
      cases bound : below.has (.str name) <;> simp [Assoc.get?, bound, same, ih]
    · cases bound : below.has key <;> simp [Assoc.get?, same, ih]

theorem get?_layer :
    Assoc.get? (layer below above) (.str name) =
      match below.get? (.str name), above.get? (.str name) with
      | some v, some w => some (layerValue v w)
      | some v, none => some v
      | none, found => found := by
  rw [layer, get?_append_str, get?_layerEntries, get?_without, Assoc.has]
  cases below.get? (.str name) <;> cases above.get? (.str name) <;> rfl

end Entries

variable {below above : Value} {path : List String}

theorem held_layerValue {w : Value} (found : held above path = some w) :
    held (layerValue below above) path = some (atop (held below path) w) := by
  induction path generalizing below above with
  | nil =>
    cases held_nil.symm.trans found
    rfl
  | cons key rest ih =>
    obtain ⟨entries, next, rfl, leads, later⟩ := held_cons_eq_some_iff.mp found
    obtain ⟨others, rfl⟩ | flat := map_or_flat below
    · rw [layerValue_map, held_map_cons, held_map_cons, get?_layer, leads]
      cases Assoc.get? others (.str key) with
      | none => exact later
      | some v => exact ih later
    · rw [layerValue_of_flat_left flat, held_of_flat flat, found]
      rfl

theorem held_layerValue_of_cut (cut : Cut above path) : held (layerValue below above) path = none := by
  obtain ⟨before, key, rest, leaf, rfl, here, flat⟩ := cut
  rw [held_append, held_layerValue here, Option.bind_some, atop_of_flat flat, held_of_flat flat]

theorem held_layerValue_of_open (free : Open above path) : held (layerValue below above) path = held below path := by
  induction path generalizing below above with
  | nil => cases held_nil.symm.trans free.1
  | cons key rest ih =>
    obtain ⟨entries, rfl⟩ := free.exists_map
    obtain ⟨others, rfl⟩ | flat := map_or_flat below
    · rw [layerValue_map, held_map_cons, held_map_cons, get?_layer]
      cases leads : Assoc.get? entries (.str key) with
      | none => cases Assoc.get? others (.str key) <;> rfl
      | some next =>
        cases Assoc.get? others (.str key) with
        | none => exact (free.of_entry leads).1
        | some v => exact ih (free.of_entry leads)
    · rw [layerValue_of_flat_left flat, held_of_flat flat, free.1]

section Laws

theorem layerEntries_nil (below : Table) : layerEntries below [] = below := by
  induction below with
  | nil => rfl
  | cons entry below ih => rw [layerEntries_cons, Assoc.get?, under, ih]

theorem layer_nil_left (above : Table) : layer [] above = above := by
  simp [layer, layerEntries, without, Assoc.has, Assoc.get?]

theorem layer_nil_right (below : Table) : layer below [] = below := by
  simp [layer, layerEntries_nil, without]

/-- Entries are left alone where putting the other table over them changes none of their values. -/
theorem layerEntries_of_fixed {entries : Table} {above : Table}
    (fixed : ∀ entry ∈ entries, ∀ w, above.get? entry.1 = some w → layerValue entry.2 w = entry.2) :
    layerEntries entries above = entries := by
  induction entries with
  | nil => rfl
  | cons entry entries ih =>
    obtain ⟨key, v⟩ := entry
    obtain ⟨first, rest⟩ := List.forall_mem_cons.mp fixed
    rw [layerEntries_cons, ih rest]
    cases found : above.get? key with
    | none => rfl
    | some w => rw [under, first w found]

theorem mem_layerEntries {entry : Value × Value} {below above : Table} (member : entry ∈ layerEntries below above) :
    ∃ v, entry.2 = under v (above.get? entry.1) := by
  induction below with
  | nil => cases member
  | cons first below ih =>
    rcases List.mem_cons.mp member with rfl | later
    · exact ⟨first.2, rfl⟩
    · exact ih later

/-- A table that has been put over another brings no new keys. -/
theorem without_layer {bindings : Bindings} (distinct : bindings.keys.Nodup) (others : Table) :
    without bindings.entries (layer others bindings.entries) = [] := by
  refine List.filter_eq_nil_iff.mpr fun entry member => ?_
  obtain ⟨⟨name, v⟩, listed, rfl⟩ := List.mem_map.mp member
  have bound : bindings.entries.get? (.str name) = some v := by
    rw [get?_entries, Assoc.get?_of_mem distinct listed]
  rw [Assoc.has, get?_layer, bound]
  cases Assoc.get? others (.str name) <;> simp

/-- Putting a table on once more changes nothing if that is so for each of its values. -/
theorem layer_idem {bindings : Bindings} (distinct : bindings.keys.Nodup)
    (idem : ∀ entry ∈ bindings, ∀ below, layerValue (layerValue below entry.2) entry.2 = layerValue below entry.2)
    (others : Table) :
    layer (layer others bindings.entries) bindings.entries = layer others bindings.entries := by
  have fixed : ∀ entry ∈ layer others bindings.entries, ∀ w, bindings.entries.get? entry.1 = some w →
      layerValue entry.2 w = entry.2 := by
    intro entry member w found
    obtain ⟨⟨key, _⟩, listed, rfl⟩ := Assoc.mem_of_get? found
    obtain ⟨⟨name, v⟩, inner, same⟩ := List.mem_map.mp listed
    cases same
    rcases List.mem_append.mp member with lower | upper
    · obtain ⟨u, changed⟩ := mem_layerEntries lower
      rw [changed, found]
      exact idem _ inner u
    · -- A new entry: its value is put over itself, and it is itself that it leaves when put over a leaf.
      obtain ⟨⟨name', v'⟩, inner', rfl⟩ := List.mem_map.mp (List.mem_filter.mp upper).1
      rw [get?_entries, Assoc.get?_of_mem distinct inner'] at found
      cases found
      exact idem _ inner .null
  rw [layer, without_layer distinct, List.append_nil, layerEntries_of_fixed fixed]

/-- A value that has been put over another changes nothing when put over the result. -/
theorem layerValue_idem {above : Value} (tree : IsTree above) (below : Value) :
    layerValue (layerValue below above) above = layerValue below above := by
  induction tree generalizing below with
  | leaf flat => rw [layerValue_of_flat_right flat, layerValue_of_flat_right flat]
  | @table bindings distinct trees ih =>
    have again := layer_idem distinct ih
    obtain ⟨others, rfl⟩ | flat := map_or_flat below
    · rw [layerValue_map, layerValue_map, again]
    · have alone := again []
      rw [layer_nil_left] at alone
      rw [layerValue_of_flat_left flat, layerValue_map, alone]

/-- Layering of tables with names for keys. -/
def layerBindings (below above : Bindings) : Bindings :=
  below.map (fun entry => (entry.1, under entry.2 (above.get? entry.1))) ++ above.filter fun entry => !below.has entry.1

theorem layer_entries (below above : Bindings) :
    layer below.entries above.entries = (layerBindings below above).entries := by
  have lower (bindings : Bindings) : layerEntries bindings.entries above.entries =
      Bindings.entries (bindings.map fun entry => (entry.1, under entry.2 (above.get? entry.1))) := by
    induction bindings with
    | nil => rfl
    | cons entry bindings ih =>
      obtain ⟨name, v⟩ := entry
      rw [Bindings.entries_cons, layerEntries_cons, ih, get?_entries, List.map_cons, Bindings.entries_cons]
  have upper : without above.entries below.entries = Bindings.entries (above.filter fun entry => !below.has entry.1) := by
    change (List.map _ above).filter (fun entry : Value × Value => !below.entries.has entry.1) = List.map _ _
    rw [List.filter_map]
    simp only [Function.comp_def, has_entries]
  rw [layer, lower, upper, layerBindings, Bindings.entries, Bindings.entries, Bindings.entries, List.map_append]

theorem nodup_keys_layerBindings {below above : Bindings} (distinct : below.keys.Nodup) (distinct' : above.keys.Nodup) :
    (layerBindings below above).keys.Nodup := by
  have keys : (layerBindings below above).keys =
      below.keys ++ Assoc.keys (above.filter fun entry => !below.has entry.1) := by
    simp [layerBindings, Assoc.keys]
  rw [keys]
  refine List.nodup_append.mpr ⟨distinct, (List.filter_sublist.map _).nodup distinct', ?_⟩
  rintro name listed _ later rfl
  obtain ⟨entry, member, rfl⟩ := List.mem_map.mp later
  have new := (List.mem_filter.mp member).2
  rw [Assoc.has, Assoc.isSome_get?_iff.mpr listed] at new
  cases new

theorem isTree_layerValue {below above : Value} (tree : IsTree below) (tree' : IsTree above) :
    IsTree (layerValue below above) := by
  induction tree generalizing above with
  | leaf flat => rwa [layerValue_of_flat_left flat]
  | @table bindings distinct trees ih =>
    cases tree' with
    | leaf flat => rw [layerValue_of_flat_right flat]; exact .leaf flat
    | @table others distinct' trees' =>
      rw [layerValue_map, layer_entries]
      refine .table (nodup_keys_layerBindings distinct distinct') fun entry member => ?_
      rcases List.mem_append.mp member with lower | upper
      · obtain ⟨⟨name, v⟩, listed, rfl⟩ := List.mem_map.mp lower
        cases found : others.get? name with
        | none => simpa [found, under] using trees _ listed
        | some w =>
          simpa [found, under] using ih _ listed (trees' _ ((Assoc.get?_eq_some_iff distinct').mp found))
      · exact trees' entry (List.mem_filter.mp upper).1

end Laws

section Agreement

variable {below below' above above' : Value} {path : List String}

theorem Cut.congr (agree : Agree above above') (cut : Cut above path) : Cut above' path := by
  obtain ⟨before, key, rest, leaf, rfl, here, flat⟩ := cut
  refine ⟨before, key, rest, leaf, rfl, ?_, flat⟩
  have same := agree before
  rw [here] at same
  cases there : held above' before with
  | none => simp [there] at same
  | some w =>
    rw [there, rel_some_iff] at same
    cases same with
    | same => rfl
    | tables => cases flat

theorem atop_map (found : Option Value) (entries : List (Value × Value)) :
    ∃ others, atop found (.map entries) = .map others := by
  cases found with
  | none => exact ⟨entries, rfl⟩
  | some v =>
    obtain ⟨below, rfl⟩ | flat := map_or_flat v
    · exact ⟨_, layerValue_map below entries⟩
    · exact ⟨entries, layerValue_of_flat_left flat⟩

theorem SameHere.atop {v w : Value} (here : SameHere v w) (found found' : Option Value) :
    SameHere (atop found v) (atop found' w) := by
  have tables (entries others) : SameHere (Settings.atop found (.map entries)) (Settings.atop found' (.map others)) := by
    obtain ⟨_, same⟩ := atop_map found entries
    obtain ⟨_, same'⟩ := atop_map found' others
    rw [same, same']
    exact .tables _ _
  cases here with
  | tables entries others => exact tables entries others
  | same =>
    obtain ⟨entries, rfl⟩ | flat := map_or_flat v
    · exact tables entries entries
    · rw [atop_of_flat flat, atop_of_flat flat]
      exact .same v

/-- What layering gives at a path depends only on what the two values hold along it. -/
theorem Agree.layerValue (agree : Agree below below') (agree' : Agree above above') :
    Agree (layerValue below above) (layerValue below' above') := by
  intro path
  have same := agree' path
  cases here : held above path with
  | some w =>
    cases there : held above' path with
    | none => simp [here, there] at same
    | some w' =>
      rw [here, there, rel_some_iff] at same
      rw [held_layerValue here, held_layerValue there]
      exact .some (same.atop _ _)
  | none =>
    cases there : held above' path with
    | some w' => simp [here, there] at same
    | none =>
      by_cases cut : Cut above path
      · rw [held_layerValue_of_cut cut, held_layerValue_of_cut (cut.congr agree')]
        exact .none
      · have free := (held_eq_none_iff.mp here).resolve_left cut
        have free' := (held_eq_none_iff.mp there).resolve_left fun cut' => cut (cut'.congr agree'.symm)
        rw [held_layerValue_of_open free, held_layerValue_of_open free']
        exact agree path

end Agreement

end Stencil.Settings
