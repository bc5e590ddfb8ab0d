import Stencil.Proofs.Settings.Layer
import Stencil.Settings.Load

/-!
The layers of settings.

Layering is an override path by path, and putting the same layer on twice is putting it on once. So of the defaults,
the file and the environment the last one that has a value at a path decides what settings are read from
(`layers_override`).
-/

namespace Stencil.Settings

open Value

/-- The table of the file that is loaded, if there is one. -/
def fileTable (folder : Folder) (given : Option (List String)) (usual : String) : Except Failure Table := do
  match ← filePath folder given usual with
  | some path => folder.readToml path
  | none => return []

/-- The settings that data stand for, or all that is wrong with them. -/
def judge (data : Table) (source : Option String) : Except Failure Settings :=
  match read data with
  | .accepted settings => .ok { settings with sources := source.toList }
  | .rejected findings => .error (.invalidSettings (findings.map (·.message)) source)

/-- What is loaded is read from the defaults with the file and the environment over them. -/
theorem load_eq {folder : Folder} {given : Option (List String)} {usual : String} {environment file : Table}
    (found : fileTable folder given usual = .ok file) :
    ∃ source sources, load folder given usual environment =
      (judge (layer defaults (layer file environment)) source).map fun settings => { settings with sources } := by
  have judged (data : Table) (source : Option String) (sources : List String) :
      (do let settings ← judge data source; return { settings with sources }) =
        (judge data source).map fun settings => { settings with sources } := by
    cases judge data source <;> rfl
  unfold fileTable at found
  unfold load
  cases located : filePath folder given usual with
  | error e =>
    rw [located] at found
    cases found
  | ok path =>
    rw [located] at found
    cases path with
    | none =>
      cases found
      exact ⟨_, _, judged _ _ _⟩
    | some path =>
      have read : folder.readToml path = .ok file := found
      simp only [bind, Except.bind, read]
      exact ⟨_, _, judged _ _ _⟩

/-- Of two layers the upper one decides. It does so wherever it has a value; behind a value of its there is nothing, and
where its tables end the lower layer is left alone. An empty layer changes nothing and neither does a layer that is put
on once more, and the order of keys does not matter. So what is loaded is read from data in which a value from the
environment is above all others, and a value from the file above the defaults where the environment has none on the way
to it. -/
theorem layers_override {below above : Table} (tree : IsTree (.map below)) (tree' : IsTree (.map above)) :
    ((∀ path v, held (.map above) path = some v → v.isMap = false →
          held (.map (layer below above)) path = some v) ∧
        (∀ path, Cut (.map above) path → held (.map (layer below above)) path = none) ∧
        ∀ path, Open (.map above) path → held (.map (layer below above)) path = held (.map below) path) ∧
      (layer [] above = above ∧ layer below [] = below ∧ layer (layer below above) above = layer below above) ∧
      (∀ below' above', Rearranged (.map below) (.map below') → Rearranged (.map above) (.map above') →
        Rearranged (.map (layer below above)) (.map (layer below' above'))) ∧
      ∀ folder given usual environment file, fileTable folder given usual = .ok file →
        ∃ data,
          (∃ source sources, load folder given usual environment =
            (judge data source).map fun settings => { settings with sources }) ∧
          (∀ path v, held (.map environment) path = some v → v.isMap = false → held (.map data) path = some v) ∧
          ∀ path v, Open (.map environment) path → held (.map file) path = some v → v.isMap = false →
            held (.map data) path = some v := by
  have wins (below above : Table) (path : List String) (v : Value) (found : held (.map above) path = some v)
      (flat : v.isMap = false) : held (.map (layer below above)) path = some v := by
    rw [← layerValue_map, held_layerValue found, atop_of_flat flat]
  have leaves (below above : Table) (path : List String) (free : Open (.map above) path) :
      held (.map (layer below above)) path = held (.map below) path := by
    rw [← layerValue_map, held_layerValue_of_open free]
  refine ⟨⟨wins below above, fun path cut => ?_, leaves below above⟩,
    ⟨layer_nil_left above, layer_nil_right below, ?_⟩, fun below' above' same same' => ?_, ?_⟩
  · rw [← layerValue_map, held_layerValue_of_cut cut]
  · have again := layerValue_idem tree' (.map below)
    rw [layerValue_map, layerValue_map] at again
    exact Value.map.inj again
  · obtain ⟨turned, agree⟩ := same.isTree_and_agree tree
    obtain ⟨turned', agree'⟩ := same'.isTree_and_agree tree'
    rw [← layerValue_map, ← layerValue_map]
    exact (agree.layerValue agree').rearranged (isTree_layerValue tree tree') (isTree_layerValue turned turned')
  · intro folder given usual environment file found
    refine ⟨layer defaults (layer file environment), load_eq found, fun path v here flat => ?_,
      fun path v free here flat => ?_⟩
    · exact wins _ _ _ _ (wins _ _ _ _ here flat) flat
    · exact wins _ _ _ _ ((leaves file environment path free).trans here) flat

/-- How a site renders. -/
def siteTable : Bindings :=
  [("render", .map (Bindings.entries [("loops", .bool true), ("width", .int 80)]))]

/-- How one of its users wants it. -/
def userTable : Bindings :=
  [("render", .map (Bindings.entries [("loops", .bool false)]))]

theorem user_overrides :
    IsTree (.map siteTable.entries) ∧ IsTree (.map userTable.entries) ∧
      held (.map (layer siteTable.entries userTable.entries)) ["render", "loops"] = some (.bool false) ∧
      held (.map (layer siteTable.entries userTable.entries)) ["render", "width"] = some (.int 80) ∧
      ∃ data source sources, load ⟨"", []⟩ none "settings.toml" userTable.entries =
          (judge data source).map (fun settings => { settings with sources }) ∧
        held (.map data) ["render", "loops"] = some (.bool false) := by
  have tree : IsTree (.map siteTable.entries) :=
    .table (by decide) (List.forall_mem_singleton.mpr (.table (by decide)
      (List.forall_mem_cons.mpr ⟨.leaf rfl, List.forall_mem_singleton.mpr (.leaf rfl)⟩)))
  have tree' : IsTree (.map userTable.entries) :=
    .table (by decide) (List.forall_mem_singleton.mpr (.table (by decide) (List.forall_mem_singleton.mpr (.leaf rfl))))
  obtain ⟨⟨wins, -, leaves⟩, -, -, loads⟩ := layers_override tree tree'
  have free : Open (.map userTable.entries) ["render", "width"] :=
    open_of_entry rfl (open_of_absent rfl)
  obtain ⟨data, ⟨source, sources, loaded⟩, decides, -⟩ :=
    loads ⟨"", []⟩ none "settings.toml" userTable.entries [] rfl
  refine ⟨tree, tree', wins _ _ rfl rfl, (leaves _ free).trans rfl, data, source, sources, loaded, ?_⟩
  exact decides _ _ rfl rfl

end Stencil.Settings
