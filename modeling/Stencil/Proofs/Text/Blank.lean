import Mathlib.Data.List.TakeWhile
import Stencil.Text.Blank

/-!
Trimming.

Trimmed text is the text without blanks at its ends: blanks put there make no difference (`strip_blanks`), and every
character that is not blank stays.
-/

namespace Stencil.Text

variable {s : List Char} {c : Char}

theorem stripEnd_append (s : List Char) : ∃ blanks, s = stripEnd s ++ blanks ∧ ∀ c ∈ blanks, isBlank c = true := by
  refine ⟨(s.reverse.takeWhile isBlank).reverse, ?_, fun c member => ?_⟩
  · rw [stripEnd, ← List.reverse_append, List.takeWhile_append_dropWhile, List.reverse_reverse]
  · exact List.mem_takeWhile_imp (List.mem_reverse.mp member)

theorem stripStart_append (s : List Char) :
    ∃ blanks, s = blanks ++ stripStart s ∧ ∀ c ∈ blanks, isBlank c = true :=
  ⟨s.takeWhile isBlank, List.takeWhile_append_dropWhile.symm, fun _ member => List.mem_takeWhile_imp member⟩

theorem stripEnd_of_blank (blank : ∀ c ∈ s, isBlank c = true) : stripEnd s = [] := by
  have reversed : s.reverse.dropWhile isBlank = [] :=
    List.dropWhile_eq_nil_iff.mpr fun c member => blank c (List.mem_reverse.mp member)
  rw [stripEnd, reversed, List.reverse_nil]

/-- What a visible character ends is kept. -/
theorem stripEnd_concat_append {rest : List Char} (visible : isBlank c = false) :
    stripEnd (s ++ [c] ++ rest) = s ++ [c] ++ stripEnd rest := by
  have stays : (c :: s.reverse).dropWhile isBlank = c :: s.reverse := List.dropWhile_cons_of_neg (by simp [visible])
  rw [stripEnd, List.reverse_append, List.reverse_append, List.reverse_singleton, List.singleton_append,
    List.dropWhile_append]
  split
  · rename_i blank
    rw [stays, stripEnd, List.isEmpty_iff.mp blank]
    simp
  · rw [stripEnd]
    simp

theorem stripEnd_append_blanks {blanks : List Char} (blank : ∀ c ∈ blanks, isBlank c = true) :
    stripEnd (s ++ blanks) = stripEnd s := by
  rw [stripEnd, List.reverse_append, List.dropWhile_append_of_pos, ← stripEnd]
  exact fun c member => blank c (List.mem_reverse.mp member)

/-- Blanks on both sides of a text make no difference. -/
theorem strip_blanks {before after : List Char} (blank : ∀ c ∈ before, isBlank c = true)
    (blank' : ∀ c ∈ after, isBlank c = true) : strip (before ++ (s ++ after)) = strip s := by
  rw [strip, stripStart, List.dropWhile_append_of_pos blank, List.dropWhile_append]
  split
  · rename_i nothing
    rw [List.dropWhile_eq_nil_iff.mpr blank', strip, stripStart, List.isEmpty_iff.mp nothing]
  · rw [stripEnd_append_blanks blank', ← stripStart, ← strip]

theorem isInfix_strip (s : List Char) : strip s <:+: s := by
  obtain ⟨before, whole, _⟩ := stripStart_append s
  obtain ⟨after, whole', _⟩ := stripEnd_append (stripStart s)
  refine ⟨before, after, ?_⟩
  rw [strip, List.append_assoc, ← whole', ← whole]

theorem mem_of_mem_strip (member : c ∈ strip s) : c ∈ s :=
  (isInfix_strip s).subset member

theorem mem_strip_of_visible (member : c ∈ s) (visible : isBlank c = false) : c ∈ strip s := by
  have apart {blanks : List Char} (blank : ∀ d ∈ blanks, isBlank d = true) : c ∉ blanks := fun inside => by
    cases (blank c inside).symm.trans visible
  obtain ⟨before, whole, blank⟩ := stripStart_append s
  obtain ⟨after, whole', blank'⟩ := stripEnd_append (stripStart s)
  rw [whole] at member
  have inside := (List.mem_append.mp member).resolve_left (apart blank)
  rw [whole'] at inside
  exact (List.mem_append.mp inside).resolve_right (apart blank')

end Stencil.Text
