import Mathlib.Data.List.Basic
import Mathlib.Data.List.Induction
import Stencil.Assoc

/-!
Entries of association lists.
-/

namespace Stencil.Assoc

variable {κ ν : Type} [BEq κ]

/-- A looked-up value stands in some entry. -/
theorem mem_of_get? {m : Assoc κ ν} {key : κ} {v : ν} (found : m.get? key = some v) : ∃ entry ∈ m, entry.2 = v := by
  induction m with
  | nil => cases found
  | cons entry m ih =>
    obtain ⟨k, w⟩ := entry
    simp only [get?] at found
    split at found
    · cases found
      exact ⟨_, List.mem_cons_self .., rfl⟩
    · obtain ⟨entry, member, same⟩ := ih found
      exact ⟨entry, List.mem_cons_of_mem _ member, same⟩

theorem forall_set {p : ν → Prop} {m : Assoc κ ν} {key : κ} {value : ν} (all : ∀ entry ∈ m, p entry.2)
    (new : p value) : ∀ entry ∈ m.set key value, p entry.2 := by
  induction m with
  | nil => exact List.forall_mem_singleton.mpr new
  | cons entry m ih =>
    obtain ⟨k, w⟩ := entry
    obtain ⟨first, rest⟩ := List.forall_mem_cons.mp all
    simp only [set]
    split
    · exact List.forall_mem_cons.mpr ⟨new, rest⟩
    · exact List.forall_mem_cons.mpr ⟨first, ih rest⟩

/-- What holds of the values of two tables holds of those of the merged table. -/
theorem forall_merge {p : ν → Prop} {m upper : Assoc κ ν} (lower : ∀ entry ∈ m, p entry.2)
    (higher : ∀ entry ∈ upper, p entry.2) : ∀ entry ∈ m.merge upper, p entry.2 := by
  unfold merge
  induction upper generalizing m with
  | nil => exact lower
  | cons entry upper ih =>
    obtain ⟨first, rest⟩ := List.forall_mem_cons.mp higher
    exact ih (forall_set lower first) rest

theorem ofPairs_concat (pairs : List (κ × ν)) (key : κ) (value : ν) :
    ofPairs (pairs ++ [(key, value)]) = (ofPairs pairs).set key value := by
  rw [ofPairs, merge, List.foldl_append]
  rfl

section Lookup

variable [LawfulBEq κ]

theorem get?_set (m : Assoc κ ν) (key other : κ) (value : ν) :
    (m.set key value).get? other = if key == other then some value else m.get? other := by
  induction m with
  | nil => simp only [set, get?]
  | cons entry m ih =>
    obtain ⟨k, w⟩ := entry
    by_cases same : k = key
    · subst same
      simp only [set, beq_self_eq_true, if_true, get?]
      by_cases found : k = other <;> simp [found]
    · simp only [set, beq_iff_eq, same, if_false, get?, ih]
      by_cases found : k = other
      · subst found
        simp [Ne.symm same]
      · simp [found]

theorem get?_eq_none_of_not_mem {m : Assoc κ ν} {key : κ} (absent : key ∉ m.keys) : m.get? key = none := by
  induction m with
  | nil => rfl
  | cons entry m ih =>
    obtain ⟨k, w⟩ := entry
    rw [keys, List.map_cons, List.mem_cons, not_or] at absent
    obtain ⟨other, absent⟩ := absent
    simp only [get?, beq_iff_eq, Ne.symm other, if_false]
    exact ih absent

/-- A key has a value exactly if it is one of the keys. -/
theorem isSome_get?_iff {m : Assoc κ ν} {key : κ} : (m.get? key).isSome = true ↔ key ∈ m.keys := by
  induction m with
  | nil => simp [get?, keys]
  | cons entry m ih =>
    obtain ⟨k, w⟩ := entry
    rw [keys, List.map_cons, List.mem_cons, get?]
    by_cases same : k = key
    · simp [same]
    · simp only [beq_iff_eq, same, if_false, ih, Ne.symm same, false_or]
      rfl

theorem get?_of_mem {m : Assoc κ ν} {key : κ} {value : ν} (distinct : m.keys.Nodup) (member : (key, value) ∈ m) :
    m.get? key = some value := by
  induction m with
  | nil => cases member
  | cons entry m ih =>
    obtain ⟨k, w⟩ := entry
    obtain ⟨fresh, distinct⟩ := List.nodup_cons.mp distinct
    rcases List.mem_cons.mp member with same | later
    · cases same
      simp [get?]
    · have other : k ≠ key := by
        rintro rfl
        exact fresh (List.mem_map.mpr ⟨_, later, rfl⟩)
      simp only [get?, beq_iff_eq, other, if_false]
      exact ih distinct later

theorem get?_eq_some_iff {m : Assoc κ ν} {key : κ} {value : ν} (distinct : m.keys.Nodup) :
    m.get? key = some value ↔ (key, value) ∈ m := by
  refine ⟨fun found => ?_, get?_of_mem distinct⟩
  have listed : key ∈ m.keys := isSome_get?_iff.mp (by rw [found]; rfl)
  obtain ⟨⟨k, w⟩, member, rfl⟩ := List.mem_map.mp listed
  cases Option.some.inj ((get?_of_mem distinct member).symm.trans found)
  exact member

/-- A table in which every key has one entry is listed by its keys. -/
theorem map_eq_filterMap_keys {β : Type} {m : Assoc κ ν} (distinct : m.keys.Nodup) (f : κ × ν → β) :
    m.map f = m.keys.filterMap fun key => (m.get? key).map fun value => f (key, value) := by
  have found : ∀ entry ∈ m, (m.get? entry.1).map (fun value => f (entry.1, value)) = some (f entry) :=
    fun entry member => by rw [get?_of_mem distinct member]; rfl
  rw [keys, List.filterMap_map]
  exact (List.filterMap_eq_map_iff_forall_eq_some.mpr found).symm

/-- Tables in which every key has one entry, and the same value, differ in their order only. -/
theorem perm_of_get? {m m' : Assoc κ ν} (distinct : m.keys.Nodup) (distinct' : m'.keys.Nodup)
    (same : ∀ key, m.get? key = m'.get? key) : m.Perm m' := by
  have apart (entry other : κ × ν) (differ : entry.1 ≠ other.1) : entry ≠ other :=
    fun same => differ (congrArg Prod.fst same)
  refine (List.perm_ext_iff_of_nodup (List.Pairwise.of_map Prod.fst apart distinct)
    (List.Pairwise.of_map Prod.fst apart distinct')).mpr fun (key, value) => ?_
  rw [← get?_eq_some_iff distinct, ← get?_eq_some_iff distinct', same]

theorem keys_set_of_mem {m : Assoc κ ν} {key : κ} (listed : key ∈ m.keys) (value : ν) :
    (m.set key value).keys = m.keys := by
  induction m with
  | nil => cases listed
  | cons entry m ih =>
    obtain ⟨k, w⟩ := entry
    by_cases same : k = key
    · simp [set, keys, same]
    · have later : key ∈ keys m := (List.mem_cons.mp listed).resolve_left (Ne.symm same)
      simp only [set, beq_iff_eq, same, if_false]
      exact congrArg (k :: ·) (ih later)

theorem keys_set_of_not_mem {m : Assoc κ ν} {key : κ} (new : key ∉ m.keys) (value : ν) :
    (m.set key value).keys = m.keys ++ [key] := by
  induction m with
  | nil => rfl
  | cons entry m ih =>
    obtain ⟨k, w⟩ := entry
    rw [keys, List.map_cons, List.mem_cons, not_or] at new
    obtain ⟨other, later⟩ := new
    simp only [set, beq_iff_eq, Ne.symm other, if_false]
    exact congrArg (k :: ·) (ih later)

theorem keys_set_congr {μ : Type} {m : Assoc κ ν} {m' : Assoc κ μ} (same : m.keys = m'.keys) (key : κ) (value : ν)
    (value' : μ) : (m.set key value).keys = (m'.set key value').keys := by
  by_cases listed : key ∈ m.keys
  · rw [keys_set_of_mem listed, keys_set_of_mem (same ▸ listed), same]
  · rw [keys_set_of_not_mem listed, keys_set_of_not_mem (same ▸ listed), same]

theorem nodup_keys_set {m : Assoc κ ν} (distinct : m.keys.Nodup) (key : κ) (value : ν) :
    (m.set key value).keys.Nodup := by
  by_cases listed : key ∈ m.keys
  · rwa [keys_set_of_mem listed]
  · rw [keys_set_of_not_mem listed]
    refine List.nodup_append.mpr ⟨distinct, List.pairwise_singleton .., fun k earlier other last same => ?_⟩
    rw [List.mem_singleton.mp last] at same
    exact listed (same ▸ earlier)

theorem nodup_keys_merge {m : Assoc κ ν} (distinct : m.keys.Nodup) (upper : Assoc κ ν) : (m.merge upper).keys.Nodup := by
  unfold merge
  induction upper generalizing m with
  | nil => exact distinct
  | cons entry upper ih => exact ih (nodup_keys_set distinct _ _)

theorem nodup_keys_ofPairs (pairs : List (κ × ν)) : (ofPairs pairs).keys.Nodup :=
  nodup_keys_merge (m := []) List.nodup_nil pairs

/-- The keys stand in the order in which they first came. -/
theorem keys_ofPairs (pairs : List (κ × ν)) : (ofPairs pairs).keys = (pairs.map Prod.fst).eraseDups := by
  induction pairs using List.reverseRecOn with
  | nil => rfl
  | append_singleton pairs entry ih =>
    obtain ⟨key, value⟩ := entry
    rw [ofPairs_concat, List.map_append, List.eraseDups_append, List.map_singleton, ← ih]
    by_cases listed : key ∈ pairs.map Prod.fst
    · have nothing : [key].removeAll (pairs.map Prod.fst) = [] := by simp [List.removeAll, listed]
      rw [nothing, keys_set_of_mem (by rwa [ih, List.mem_eraseDups])]
      exact (List.append_nil _).symm
    · have itself : [key].removeAll (pairs.map Prod.fst) = [key] := by simp [List.removeAll, listed]
      rw [itself, keys_set_of_not_mem (by rwa [ih, List.mem_eraseDups])]
      rfl

/-- Entries of the upper table win, and of those the one that came last. -/
theorem get?_merge_last (m upper : Assoc κ ν) (key : κ) :
    (m.merge upper).get? key = (get? upper.reverse key).or (m.get? key) := by
  induction upper using List.reverseRecOn with
  | nil => rfl
  | append_singleton upper entry ih =>
    have split : m.merge (upper ++ [entry]) = (m.merge upper).set entry.1 entry.2 := by
      rw [merge, List.foldl_append]
      rfl
    rw [split, get?_set, ih, List.reverse_concat, get?]
    by_cases same : entry.1 = key <;> simp [same]

/-- The value of a key is the one that came last. -/
theorem get?_ofPairs (pairs : List (κ × ν)) (key : κ) : (ofPairs pairs).get? key = get? pairs.reverse key :=
  (get?_merge_last [] pairs key).trans (Option.or_none ..)

/-- The entries of the upper table win, if each of its keys has one entry. -/
theorem get?_merge {m upper : Assoc κ ν} (distinct : upper.keys.Nodup) (key : κ) :
    (m.merge upper).get? key = (upper.get? key).or (m.get? key) := by
  unfold merge
  induction upper generalizing m with
  | nil => rfl
  | cons entry upper ih =>
    obtain ⟨k, v⟩ := entry
    obtain ⟨fresh, distinct⟩ := List.nodup_cons.mp distinct
    rw [List.foldl_cons, ih distinct, get?_set, get?]
    by_cases same : k = key
    · subst same
      rw [get?_eq_none_of_not_mem fresh]
      simp
    · simp [same]

end Lookup

end Stencil.Assoc
