import Mathlib.Data.List.Infix
import Stencil.Text.Case

/-!
Underscores in small forms.

A character has an underscore in its small form only if it is one, so two underscores in a row stay where they are when
a text is brought to its small form, and none arise (`underscores_lower_iff`).
-/

namespace Stencil.Text

variable {c : Char} {s t : List Char}

/-- Every run maps beyond the underscore. -/
theorem lowerRuns_beyond : ∀ run ∈ lowerRuns, ('_'.toNat : Int) < run.1 + run.2.2.2 := by
  decide +kernel

theorem mapCase_lowerRuns_eq_underscore (small : mapCase lowerRuns c = '_') : c = '_' := by
  unfold mapCase at small
  split at small
  · rename_i code found
    obtain ⟨⟨first, last, step, shift⟩, member, applied⟩ := List.exists_of_findSome?_eq_some found
    have beyond : ('_'.toNat : Int) < first + shift := lowerRuns_beyond _ member
    simp only [ CaseRun.apply?, Option.ite_none_right_eq_some, Bool.and_eq_true, decide_eq_true_eq,
      Option.some.injEq] at applied
    by_cases valid : code.isValidChar
    · rw [Char.ofNat, dif_pos valid] at small
      have same : code = '_'.toNat := congrArg Char.toNat small
      omega
    · -- A code that no character has gives the one with code zero.
      rw [Char.ofNat, dif_neg valid] at small
      cases small
  · exact small

theorem toLower_eq_underscore (small : c.toLower = '_') : c = '_' := by
  unfold Char.toLower at small
  split at small
  · rename_i capital
    have low : 65 ≤ c.val.toNat := UInt32.le_iff_toNat_le.mp capital.1
    have high : c.val.toNat ≤ 90 := UInt32.le_iff_toNat_le.mp capital.2
    have sum : (c.val.toNat + 32) % 2 ^ 32 = 95 := congrArg (fun d => d.val.toNat) small
    omega
  · exact small

theorem foldChar_eq_underscore (small : foldChar c = '_') : c = '_' := by
  unfold foldChar at small
  split at small
  · exact toLower_eq_underscore small
  · split at small
    · cases small
    · exact mapCase_lowerRuns_eq_underscore small

theorem lowerChar_underscore (before after : List Char) : lowerChar before '_' after = ['_'] := by
  have same : foldChar '_' = '_' := by decide
  simp [lowerChar, same]

theorem underscore_not_mem_lowerChar (other : c ≠ '_') (before after : List Char) :
    '_' ∉ lowerChar before c after := by
  unfold lowerChar
  split
  · split <;> decide
  · split
    · decide
    · exact fun member => other (foldChar_eq_underscore (List.mem_singleton.mp member).symm)

theorem lowerChar_ne_nil (before after : List Char) : lowerChar before c after ≠ [] := by
  unfold lowerChar
  repeat' split
  all_goals exact List.cons_ne_nil _ _

theorem underscore_head_lowerAfter_iff (before : List Char) : ['_'] <+: lowerAfter before s ↔ ['_'] <+: s := by
  cases s with
  | nil => rfl
  | cons c rest =>
    rw [lowerAfter]
    by_cases same : c = '_'
    · rw [same, lowerChar_underscore]
      simp
    · obtain ⟨d, others, split⟩ := List.exists_cons_of_ne_nil (lowerChar_ne_nil (c := c) before rest)
      have other : '_' ≠ d := by
        rintro rfl
        exact underscore_not_mem_lowerChar same before rest (by simp [split])
      simp [split, other, Ne.symm same]

/-- Two underscores do not begin before a text without any. -/
theorem underscores_append_iff (free : '_' ∉ s) : ['_', '_'] <:+: s ++ t ↔ ['_', '_'] <:+: t := by
  induction s with
  | nil => rfl
  | cons c s ih =>
    rw [List.mem_cons, not_or] at free
    rw [List.cons_append, List.infix_cons_iff, ih free.2, List.cons_prefix_cons]
    simp [free.1]

theorem underscores_cons_iff : ['_', '_'] <:+: '_' :: s ↔ ['_'] <+: s ∨ ['_', '_'] <:+: s := by
  rw [List.infix_cons_iff, List.cons_prefix_cons]
  simp

theorem underscores_lowerAfter_iff (before : List Char) :
    ['_', '_'] <:+: lowerAfter before s ↔ ['_', '_'] <:+: s := by
  induction s generalizing before with
  | nil => rfl
  | cons c rest ih =>
    rw [lowerAfter]
    by_cases same : c = '_'
    · rw [same, lowerChar_underscore, List.singleton_append, underscores_cons_iff, underscores_cons_iff,
        underscore_head_lowerAfter_iff, ih]
    · have free : '_' ∉ [c] := by simpa using Ne.symm same
      rw [underscores_append_iff (underscore_not_mem_lowerChar same before rest), ih,
        ← underscores_append_iff free, List.singleton_append]

theorem underscores_lower_iff : ['_', '_'] <:+: lower s ↔ ['_', '_'] <:+: s :=
  underscores_lowerAfter_iff []

end Stencil.Text
