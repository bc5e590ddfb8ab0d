import Stencil.Proofs.Text.Spacing
import Stencil.Text.Escape

/-!
What escaped text can hold.

Escaping leaves no special character but ampersands, and every ampersand begins an entity (`referenced_escape`).
Entities hold no blanks, so collapsing white space takes none of them apart (`Referenced.collapse`).
-/

namespace Stencil.Text

/-- The forms in which special characters are written. -/
def entities : List (List Char) :=
  ["&amp;".toList, "&lt;".toList, "&gt;".toList, "&quot;".toList, "&#x27;".toList]

/-- The special characters but for the ampersand, which entities begin with. -/
def delimiters : List Char :=
  ['<', '>', '"', '\'']

/-- Text in which every ampersand begins an entity. -/
def Referenced (s : List Char) : Prop :=
  ∀ rest, '&' :: rest <:+ s → ∃ entity ∈ entities, entity <+: '&' :: rest

theorem referenced_nil : Referenced [] := by
  intro rest ends
  cases List.suffix_nil.mp ends

theorem referenced_cons_iff {c : Char} {s : List Char} :
    Referenced (c :: s) ↔ (c = '&' → ∃ entity ∈ entities, entity <+: c :: s) ∧ Referenced s := by
  constructor
  · intro referenced
    refine ⟨?_, fun rest ends => referenced rest (ends.trans (List.suffix_cons c s))⟩
    rintro rfl
    exact referenced s List.suffix_rfl
  · rintro ⟨first, referenced⟩ rest ends
    rcases List.suffix_cons_iff.mp ends with whole | ends
    · cases whole
      exact first rfl
    · exact referenced rest ends

theorem referenced_of_free {s : List Char} (free : '&' ∉ s) : Referenced s :=
  fun _ ends => absurd (ends.subset (List.mem_cons_self ..)) free

/-- What begins an ampersand's entity lies in its own text, so texts may be written one after the other. -/
theorem Referenced.append {s t : List Char} (referenced : Referenced s) (more : Referenced t) :
    Referenced (s ++ t) := by
  induction s with
  | nil => exact more
  | cons c s ih =>
    obtain ⟨first, rest⟩ := referenced_cons_iff.mp referenced
    refine referenced_cons_iff.mpr ⟨fun ampersand => ?_, ih rest⟩
    obtain ⟨entity, member, begins⟩ := first ampersand
    exact ⟨entity, member, begins.trans (List.prefix_append ..)⟩

theorem referenced_escapeChar (c : Char) : Referenced (escapeChar c) := by
  have alone {entity : List Char} (member : entity ∈ entities) (tail : '&' ∉ entity.tail) : Referenced entity := by
    cases entity with
    | nil => exact referenced_nil
    | cons c rest => exact referenced_cons_iff.mpr ⟨fun _ => ⟨_, member, List.prefix_rfl⟩, referenced_of_free tail⟩
  unfold escapeChar
  split
  · exact alone (by decide) (by decide)
  · exact alone (by decide) (by decide)
  · exact alone (by decide) (by decide)
  · exact alone (by decide) (by decide)
  · exact alone (by decide) (by decide)
  · rename_i ordinary _ _ _ _
    refine referenced_of_free fun member => ?_
    exact ordinary (List.mem_singleton.mp member).symm

theorem referenced_escape (s : List Char) : Referenced (escape s) := by
  induction s with
  | nil => exact referenced_nil
  | cons c s ih =>
    rw [escape, List.flatMap_cons]
    exact (referenced_escapeChar c).append ih

theorem not_mem_escape {c : Char} (special : c ∈ delimiters) (s : List Char) : c ∉ escape s := by
  have apart : ∀ d, c ∉ escapeChar d := by
    intro d member
    unfold escapeChar at member
    split at member
    all_goals simp only [delimiters, List.mem_cons, List.not_mem_nil, or_false] at special member
    · rcases special with rfl | rfl | rfl | rfl <;> revert member <;> decide
    · rcases special with rfl | rfl | rfl | rfl <;> revert member <;> decide
    · rcases special with rfl | rfl | rfl | rfl <;> revert member <;> decide
    · rcases special with rfl | rfl | rfl | rfl <;> revert member <;> decide
    · rcases special with rfl | rfl | rfl | rfl <;> revert member <;> decide
    · subst member
      rcases special with rfl | rfl | rfl | rfl <;> contradiction
  intro member
  obtain ⟨d, _, here⟩ := List.mem_flatMap.mp member
  exact apart d here

section Collapse

/-- A word without blanks that a text begins with is kept by squeezing. -/
theorem prefix_squeeze {word s : List Char} (black : ∀ c ∈ word, isBlank c = false) (begins : word <+: s) :
    word <+: squeeze s := by
  induction word generalizing s with
  | nil => exact List.nil_prefix
  | cons c word ih =>
    obtain ⟨rest, rfl⟩ := begins
    obtain ⟨here, later⟩ := List.forall_mem_cons.mp black
    rw [List.cons_append, squeeze_cons_of_not_blank here]
    exact List.cons_prefix_cons.mpr ⟨rfl, ih later (List.prefix_append ..)⟩

/-- A word without blanks that a text begins with does not reach into the blanks at its end. -/
theorem prefix_of_prefix_append {word s blanks : List Char} (black : ∀ c ∈ word, isBlank c = false)
    (blank : ∀ c ∈ blanks, isBlank c = true) (begins : word <+: s ++ blanks) : word <+: s := by
  induction s generalizing word with
  | nil =>
    cases word with
    | nil => exact List.prefix_rfl
    | cons c word =>
      have here := blank c (begins.subset (List.mem_cons_self ..))
      rw [black c (List.mem_cons_self ..)] at here
      cases here
  | cons d s ih =>
    cases word with
    | nil => exact List.nil_prefix
    | cons c word =>
      obtain ⟨_, black'⟩ := List.forall_mem_cons.mp black
      rw [List.cons_append] at begins
      obtain ⟨rfl, later⟩ := List.cons_prefix_cons.mp begins
      exact List.cons_prefix_cons.mpr ⟨rfl, ih black' later⟩

theorem not_blank_of_mem_entities : ∀ entity ∈ entities, ∀ c ∈ entity, isBlank c = false := by
  have all : (entities.all fun entity => entity.all fun c => !isBlank c) = true := by decide
  simpa only [List.all_eq_true, Bool.not_eq_true'] using all

theorem Referenced.squeeze {s : List Char} (referenced : Referenced s) : Referenced (squeeze s) := by
  induction s with
  | nil => exact referenced_nil
  | cons c s ih =>
    obtain ⟨first, rest⟩ := referenced_cons_iff.mp referenced
    cases blank : isBlank c with
    | true =>
      rcases squeeze_cons_of_blank blank s with same | same
      · rw [same]
        exact ih rest
      · rw [same]
        exact referenced_cons_iff.mpr ⟨fun ampersand => absurd ampersand (by decide), ih rest⟩
    | false =>
      rw [squeeze_cons_of_not_blank blank]
      refine referenced_cons_iff.mpr ⟨fun ampersand => ?_, ih rest⟩
      obtain ⟨entity, member, begins⟩ := first ampersand
      have kept := prefix_squeeze (not_blank_of_mem_entities entity member) begins
      rw [squeeze_cons_of_not_blank blank] at kept
      exact ⟨entity, member, kept⟩

theorem Referenced.stripEnd {s : List Char} (referenced : Referenced s) : Referenced (stripEnd s) := by
  obtain ⟨blanks, whole, blank⟩ := stripEnd_append s
  rintro rest ⟨before, ends⟩
  have later : '&' :: (rest ++ blanks) <:+ s := by
    refine ⟨before, ?_⟩
    rw [whole, ← ends, List.append_assoc, List.cons_append]
  obtain ⟨entity, member, begins⟩ := referenced _ later
  exact ⟨entity, member, prefix_of_prefix_append (not_blank_of_mem_entities entity member) blank begins⟩

theorem Referenced.collapse {s : List Char} (referenced : Referenced s) : Referenced (collapse s) := by
  have squeezed := referenced.squeeze
  have started : Referenced (stripStart (Text.squeeze s)) :=
    fun rest ends => squeezed rest (ends.trans (List.dropWhile_suffix isBlank))
  exact started.stripEnd

end Collapse

end Stencil.Text
