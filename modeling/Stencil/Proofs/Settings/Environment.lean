import Mathlib.Data.List.Induction
import Stencil.Proofs.Settings.Write
import Stencil.Proofs.Text.Case

/-!
Settings from the environment.

The name of a variable spells one path at most (`environmentPath?_eq_some_iff`), and variables are written one after the
other. So a path holds what was last written to it, unless something was written on the way to it or through it
afterwards, and what is written to paths apart from each other can be written in any order (`last_writer_wins`).
-/

namespace Stencil.Settings

open Value

/-- A text falls into parts at every two underscores, the first ones first. -/
inductive Parts : List Char → List (List Char) → Prop
  | last {s} : ¬ ['_', '_'] <:+: s → Parts s [s]
  | more {part rest parts} : ¬ ['_', '_'] <:+: part ++ ['_'] → Parts rest parts →
      Parts (part ++ '_' :: '_' :: rest) (part :: parts)

section Parts

variable {c : Char} {s rest part level : List Char} {parts levels : List (List Char)}

/-- A character before a text belongs to its first part, unless it begins two underscores. -/
theorem Parts.cons (split : Parts rest (level :: levels)) (apart : ¬ ['_', '_'] <+: c :: rest) :
    Parts (c :: rest) ((c :: level) :: levels) := by
  cases split with
  | last free => exact .last fun inside => (List.infix_cons_iff.mp inside).elim apart free
  | @more _ rest _ free later =>
    rw [← List.cons_append]
    refine .more (fun inside => ?_) later
    rcases List.infix_cons_iff.mp inside with begins | inside
    · exact apart (begins.trans ⟨'_' :: rest, by simp⟩)
    · exact free inside

theorem parts_splitLevels (s : List Char) : Parts s ((splitLevels s).1 :: (splitLevels s).2) := by
  fun_induction splitLevels s with
  | case1 rest level levels same ih =>
    rw [same] at ih
    exact @Parts.more [] _ _ (by decide) ih
  | case2 c rest apart level levels same ih =>
    rw [same] at ih
    refine ih.cons ?_
    rintro ⟨others, same⟩
    cases same
    exact apart _ rfl rfl
  | case3 => exact .last (by decide)

/-- Nothing but two underscores takes a character from the first part. -/
theorem splitLevels_cons (apart : ¬ ['_', '_'] <+: c :: rest) :
    splitLevels (c :: rest) = (c :: (splitLevels rest).1, (splitLevels rest).2) := by
  rw [splitLevels]
  rintro others rfl rfl
  exact apart ⟨others, rfl⟩

theorem splitLevels_of_free (free : ¬ ['_', '_'] <:+: s) : splitLevels s = (s, []) := by
  induction s with
  | nil => rfl
  | cons c s ih =>
    rw [List.infix_cons_iff, not_or] at free
    rw [splitLevels_cons free.1, ih free.2]

theorem splitLevels_append (free : ¬ ['_', '_'] <:+: part ++ ['_']) :
    splitLevels (part ++ '_' :: '_' :: rest) = (part, (splitLevels rest).1 :: (splitLevels rest).2) := by
  induction part with
  | nil => rfl
  | cons c part ih =>
    rw [List.cons_append, List.infix_cons_iff, not_or] at free
    have apart : ¬ ['_', '_'] <+: c :: (part ++ '_' :: '_' :: rest) := by
      cases part with
      | nil => simpa using free.1
      | cons d part => simpa using free.1
    rw [List.cons_append, splitLevels_cons apart, ih free.2]

theorem parts_iff : Parts s parts ↔ parts = (splitLevels s).1 :: (splitLevels s).2 := by
  constructor
  · intro split
    induction split with
    | last free => rw [splitLevels_of_free free]
    | more free _ ih => rw [splitLevels_append free, ← ih]
  · rintro rfl
    exact parts_splitLevels s

theorem Parts.free (split : Parts s [part]) : ¬ ['_', '_'] <:+: s := by
  cases split with
  | last free => exact free
  | more _ later => cases later

theorem splitLevels_isEmpty_iff : (splitLevels s).2.isEmpty = true ↔ ¬ ['_', '_'] <:+: s := by
  constructor
  · intro single
    have split := parts_splitLevels s
    rw [List.isEmpty_iff.mp single] at split
    exact split.free
  · intro free
    rw [splitLevels_of_free free]
    rfl

end Parts

/-- The name of a variable spells a path: after the common beginning comes a text with two underscores in a row, and the
keys of the path are the parts of its small form between these. -/
def Spells (beginning name : String) (path : List String) : Prop :=
  ∃ rest parts, name.toList = beginning.toList ++ rest ∧ ['_', '_'] <:+: rest ∧ Parts (Text.lower rest) parts ∧
    path = parts.map String.ofList

section Spells

variable {beginning name text key : String} {path : List String} {rest : List Char}

theorem spells_of_append (start : name.toList = beginning.toList ++ rest) (inside : ['_', '_'] <:+: rest) :
    Spells beginning name (((splitLevels (Text.lower rest)).1 :: (splitLevels (Text.lower rest)).2).map String.ofList) :=
  ⟨rest, _, start, inside, parts_splitLevels _, rfl⟩

theorem environmentPath?_of_append (start : name.toList = beginning.toList ++ rest) :
    environmentPath? beginning name =
      if (splitLevels (Text.lower rest)).2.isEmpty then none
      else some (String.ofList (splitLevels (Text.lower rest)).1, (splitLevels (Text.lower rest)).2.map String.ofList) := by
  have begins : beginning.toList.isPrefixOf name.toList = true := List.isPrefixOf_iff_prefix.mpr ⟨rest, start.symm⟩
  have dropped : name.toList.drop beginning.length = rest := by
    rw [start, ← String.length_toList, List.drop_left]
  rw [environmentPath?, if_pos begins, dropped]

theorem environmentPath?_eq_some_iff :
    environmentPath? beginning name = some (key, path) ↔ Spells beginning name (key :: path) := by
  constructor
  · intro found
    by_cases begins : beginning.toList <+: name.toList
    · obtain ⟨rest, start⟩ := begins
      rw [environmentPath?_of_append start.symm, Option.ite_none_left_eq_some] at found
      obtain ⟨several, same⟩ := found
      cases same
      have inside : ['_', '_'] <:+: Text.lower rest := not_not.mp (mt splitLevels_isEmpty_iff.mpr several)
      exact spells_of_append start.symm (Text.underscores_lower_iff.mp inside)
    · rw [environmentPath?, if_neg (mt List.isPrefixOf_iff_prefix.mp begins)] at found
      cases found
  · rintro ⟨rest, parts, start, inside, split, same⟩
    obtain rfl := parts_iff.mp split
    cases same
    have several := mt splitLevels_isEmpty_iff.mp (not_not.mpr (Text.underscores_lower_iff.mpr inside))
    rw [environmentPath?_of_append start, if_neg several]

theorem Spells.ne_nil (spells : Spells beginning name path) : path ≠ [] := by
  obtain ⟨rest, parts, _, _, split, rfl⟩ := spells
  rw [parts_iff.mp split]
  exact List.cons_ne_nil _ _

theorem Spells.eq {path' : List String} (spells : Spells beginning name path) (spells' : Spells beginning name path') :
    path = path' := by
  obtain ⟨key, path, rfl⟩ := List.exists_cons_of_ne_nil spells.ne_nil
  obtain ⟨key', path', rfl⟩ := List.exists_cons_of_ne_nil spells'.ne_nil
  cases (environmentPath?_eq_some_iff.mpr spells).symm.trans (environmentPath?_eq_some_iff.mpr spells')
  rfl

end Spells

section Writing

variable {beginning name text key : String} {path : List String} {environment : Assoc String String} {v : Value}

theorem environmentValue_flat (text : String) : (environmentValue text).isMap = false := by
  simp only [environmentValue]
  repeat' split
  all_goals rfl

theorem ofEnvironment_concat : ofEnvironment beginning (environment ++ [(name, text)]) =
    match environmentPath? beginning name with
    | some (key, path) => setPath (ofEnvironment beginning environment) key path (environmentValue text)
    | none => ofEnvironment beginning environment := by
  rw [ofEnvironment, List.foldl_append]
  rfl

/-- A variable that spells a path is written to its end, after those before it. -/
theorem ofEnvironment_of_spells (spells : Spells beginning name (key :: path)) :
    ofEnvironment beginning (environment ++ [(name, text)]) =
      setPath (ofEnvironment beginning environment) key path (environmentValue text) := by
  rw [ofEnvironment_concat, environmentPath?_eq_some_iff.mpr spells]

theorem ofEnvironment_of_skipped (skipped : ∀ path, ¬ Spells beginning name path) :
    ofEnvironment beginning (environment ++ [(name, text)]) = ofEnvironment beginning environment := by
  have nothing : environmentPath? beginning name = none :=
    Option.eq_none_iff_forall_ne_some.mpr fun found same => skipped _ (environmentPath?_eq_some_iff.mp same)
  rw [ofEnvironment_concat, nothing]

/-- All paths that variables spell are apart from a path. -/
def AllApart (beginning : String) (environment : Assoc String String) (path : List String) : Prop :=
  ∀ entry ∈ environment, ∀ other, Spells beginning entry.1 other → Apart other path

theorem allApart_singleton_iff (spells : Spells beginning name path) {other : List String} :
    AllApart beginning [(name, text)] other ↔ Apart path other := by
  rw [AllApart, List.forall_mem_singleton]
  refine ⟨fun apart => apart path spells, fun apart path' spells' => ?_⟩
  rwa [spells'.eq spells]

/-- A value was written last to a path, and nothing on the way to it or through it since. -/
def LastWritten (beginning : String) (environment : Assoc String String) (path : List String) (v : Value) : Prop :=
  ∃ earlier name text later, environment = earlier ++ (name, text) :: later ∧ Spells beginning name path ∧
    v = environmentValue text ∧ AllApart beginning later path

theorem lastWritten_concat_iff : LastWritten beginning (environment ++ [(name, text)]) path v ↔
    (Spells beginning name path ∧ v = environmentValue text) ∨
      (AllApart beginning [(name, text)] path ∧ LastWritten beginning environment path v) := by
  constructor
  · rintro ⟨earlier, name', text', later, split, spells, same, apart⟩
    obtain rfl | ⟨later, entry, rfl⟩ := List.eq_nil_or_concat later
    · cases (List.append_inj' split rfl).2
      exact .inl ⟨spells, same⟩
    · rw [List.concat_eq_append] at split apart
      rw [← List.cons_append, ← List.append_assoc] at split
      obtain ⟨before, last⟩ := List.append_inj' split rfl
      cases last
      obtain ⟨between, after⟩ := List.forall_mem_append.mp apart
      exact .inr ⟨after, earlier, name', text', later, before, spells, same, between⟩
  · rintro (⟨spells, same⟩ | ⟨apart', earlier, name', text', later, rfl, spells, same, apart⟩)
    · exact ⟨environment, name, text, [], rfl, spells, same, nofun⟩
    · exact ⟨earlier, name', text', later ++ [(name, text)], by simp, spells, same,
        List.forall_mem_append.mpr ⟨apart, apart'⟩⟩

/-- The leaves are what was written last. The induction adds variables at the end, since later ones win. -/
theorem held_ofEnvironment_iff (flat : v.isMap = false) :
    held (.map (ofEnvironment beginning environment)) path = some v ↔ LastWritten beginning environment path v := by
  induction environment using List.reverseRecOn with
  | nil =>
    refine iff_of_false (fun found => ?_) ?_
    · obtain _ | ⟨key, path⟩ := path
      · cases held_nil.symm.trans found
        cases flat
      · cases found
    · rintro ⟨earlier, name, text, later, split, -⟩
      simp at split
  | append_singleton environment entry ih =>
    obtain ⟨name, text⟩ := entry
    rw [lastWritten_concat_iff]
    by_cases skipped : ∀ path, ¬ Spells beginning name path
    · have apart : AllApart beginning [(name, text)] path :=
        List.forall_mem_singleton.mpr fun other spells => absurd spells (skipped other)
      rw [ofEnvironment_of_skipped skipped, ih, or_iff_right fun left => skipped path left.1, and_iff_right apart]
    · obtain ⟨target, spells⟩ := not_forall_not.mp skipped
      obtain ⟨key, rest, rfl⟩ := List.exists_cons_of_ne_nil spells.ne_nil
      have same : Spells beginning name path ↔ path = key :: rest :=
        ⟨fun spells' => spells'.eq spells, fun same => same ▸ spells⟩
      rw [ofEnvironment_of_spells spells, held_setPath_iff (environmentValue_flat text) flat, ih, same,
        allApart_singleton_iff spells]

theorem isTree_ofEnvironment : IsTree (.map (ofEnvironment beginning environment)) := by
  induction environment using List.reverseRecOn with
  | nil => exact isTree_nil
  | append_singleton environment entry ih =>
    obtain ⟨name, text⟩ := entry
    rw [ofEnvironment_concat]
    split
    · exact ih.setPath (.leaf (environmentValue_flat text))
    · exact ih

theorem leafy_ofEnvironment : Leafy (.map (ofEnvironment beginning environment)) := by
  induction environment using List.reverseRecOn with
  | nil =>
    intro path entries inner found
    obtain ⟨key, rest, rfl⟩ := List.exists_cons_of_ne_nil inner
    cases found
  | append_singleton environment entry ih =>
    obtain ⟨name, text⟩ := entry
    rw [ofEnvironment_concat]
    split
    · exact ih.setPath (environmentValue_flat text)
    · exact ih

/-- Two variables spell paths apart from each other, if they spell any. -/
def Separate (beginning : String) (entry other : String × String) : Prop :=
  ∀ path path', Spells beginning entry.1 path → Spells beginning other.1 path' → Apart path path'

/-- Among variables that are separate, every one of them is the last to be written to its path. -/
theorem lastWritten_iff_of_separate (separate : environment.Pairwise (Separate beginning)) :
    LastWritten beginning environment path v ↔
      ∃ entry ∈ environment, Spells beginning entry.1 path ∧ v = environmentValue entry.2 := by
  constructor
  · rintro ⟨earlier, name, text, later, rfl, spells, same, -⟩
    exact ⟨(name, text), by simp, spells, same⟩
  · rintro ⟨entry, member, spells, same⟩
    obtain ⟨earlier, later, rfl⟩ := List.append_of_mem member
    refine ⟨earlier, entry.1, entry.2, later, rfl, spells, same, fun other listed path' spells' => ?_⟩
    have after := (List.pairwise_cons.mp (List.pairwise_append.mp separate).2.1).1 other listed
    exact (after path path' spells spells').symm

end Writing

/-- The environment is collected by last writer. Every variable that starts with the common beginning and has two
underscores in a row behind it spells one path. What comes of it is tables within tables, in which the value of a variable
is held at its path unless a later one spells a path that is comparable, and in which there are no other leaves. So where
no paths of variables are comparable, the order of the variables makes no difference but for the order of keys. -/
theorem last_writer_wins (beginning : String) (environment : Assoc String String) :
    (∀ name rest, name.toList = beginning.toList ++ rest → ['_', '_'] <:+: rest →
        ∃! path, Spells beginning name path) ∧
      IsTree (.map (ofEnvironment beginning environment)) ∧
      (∀ earlier name text later path, environment = earlier ++ (name, text) :: later →
        Spells beginning name path → AllApart beginning later path →
          held (.map (ofEnvironment beginning environment)) path = some (environmentValue text)) ∧
      (∀ path v, held (.map (ofEnvironment beginning environment)) path = some v → v.isMap = false →
        LastWritten beginning environment path v) ∧
      ∀ environment', environment.Perm environment' → environment.Pairwise (Separate beginning) →
        Rearranged (.map (ofEnvironment beginning environment)) (.map (ofEnvironment beginning environment')) := by
  refine ⟨fun name rest start inside => ?_, isTree_ofEnvironment,
    fun earlier name text later path split spells apart => ?_, fun path v found flat => ?_,
    fun environment' perm separate => ?_⟩
  · exact ⟨_, spells_of_append start inside, fun other spells => spells.eq (spells_of_append start inside)⟩
  · exact (held_ofEnvironment_iff (environmentValue_flat text)).mpr
      ⟨earlier, name, text, later, split, spells, rfl, apart⟩
  · exact (held_ofEnvironment_iff flat).mp found
  · have separate' : environment'.Pairwise (Separate beginning) :=
      (perm.pairwise_iff fun apart path path' spells spells' => (apart path' path spells' spells).symm).mp separate
    refine (agree_of_leaves leafy_ofEnvironment leafy_ofEnvironment fun path leaf flat => ?_).rearranged
      isTree_ofEnvironment isTree_ofEnvironment
    rw [held_ofEnvironment_iff flat, held_ofEnvironment_iff flat, lastWritten_iff_of_separate separate,
      lastWritten_iff_of_separate separate']
    simp only [perm.mem_iff]

/-- Variables for two settings. -/
def twoVariables : Assoc String String :=
  [("SITE_RENDER__LOOPS", "False"), ("SITE_RENDER__WIDTH", "80")]

/-- A table that an earlier variable puts at the path of a later one gives way to its value. -/
theorem loops_collected :
    ofEnvironment "SITE_" [("SITE_RENDER__LOOPS__DEPTH", "3")] =
        [(.str "render", .map [(.str "loops", .map [(.str "depth", .int 3)])])] ∧
      held (.map (ofEnvironment "SITE_" (("SITE_RENDER__LOOPS__DEPTH", "3") :: twoVariables))) ["render", "loops"] =
        some (.bool false) ∧
      Rearranged (.map (ofEnvironment "SITE_" twoVariables)) (.map (ofEnvironment "SITE_" twoVariables.reverse)) := by
  have loops : Spells "SITE_" "SITE_RENDER__LOOPS" ["render", "loops"] := environmentPath?_eq_some_iff.mp rfl
  have width : Spells "SITE_" "SITE_RENDER__WIDTH" ["render", "width"] := environmentPath?_eq_some_iff.mp rfl
  have apart : Apart ["render", "width"] ["render", "loops"] := by simp [Apart]
  have separate : twoVariables.Pairwise (Separate "SITE_") := by
    refine List.pairwise_pair.mpr fun path path' spells spells' => ?_
    rw [spells.eq loops, spells'.eq width]
    exact apart.symm
  have value : environmentValue "False" = .bool false := by
    have small : Text.lower "False".toList = "false".toList := rfl
    simp only [environmentValue, small, String.ofList_toList]
    rfl
  obtain ⟨-, -, wins, -, -⟩ := last_writer_wins "SITE_" (("SITE_RENDER__LOOPS__DEPTH", "3") :: twoVariables)
  obtain ⟨-, -, -, -, reorders⟩ := last_writer_wins "SITE_" twoVariables
  have found := wins [("SITE_RENDER__LOOPS__DEPTH", "3")] "SITE_RENDER__LOOPS" "False" [("SITE_RENDER__WIDTH", "80")]
    ["render", "loops"] rfl loops ((allApart_singleton_iff width).mpr apart)
  rw [value] at found
  exact ⟨rfl, found, reorders twoVariables.reverse twoVariables.reverse_perm.symm separate⟩

end Stencil.Settings
