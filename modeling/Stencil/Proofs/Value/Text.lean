import Mathlib.Data.List.Basic
import Mathlib.Data.Nat.Digits.Defs
import Stencil.Value.Text

/-!
Values without a text.

As templates write values, maps are data and have a text where the writer of data gives them one. Elsewhere integers
are too long from 4301 digits on (`toText_fails_iff`).
-/

namespace Stencil

open Number

/-- A result that is a failure. -/
def Failing {α : Type} (r : Except Failure α) : Prop :=
  ∃ e, r = .error e

section

variable {α β : Type} {r : Except Failure α} {f : α → Except Failure β}

@[simp]
theorem not_failing_ok (a : α) : ¬ Failing (.ok a) :=
  fun ⟨_, same⟩ => nomatch same

@[simp]
theorem failing_error (e : Failure) : Failing (.error e : Except Failure α) :=
  ⟨e, rfl⟩

theorem not_failing_iff : ¬ Failing r ↔ ∃ a, r = .ok a := by
  cases r with
  | ok a => simp
  | error e => simp

theorem Failing.bind (fails : Failing r) : Failing (r >>= f) := by
  obtain ⟨e, rfl⟩ := fails
  exact failing_error e

theorem Failing.bind_next (fails : ∀ a, Failing (f a)) : Failing (r >>= f) := by
  cases r with
  | ok a => exact fails a
  | error e => exact failing_error e

theorem failing_bind_iff {p : Prop} (next : ∀ a, r = .ok a → (Failing (f a) ↔ p)) :
    Failing (r >>= f) ↔ Failing r ∨ p := by
  cases r with
  | ok a => simpa [bind, Except.bind] using next a rfl
  | error e => simp [bind, Except.bind]

/-- What only makes something of a result does not fail. -/
theorem failing_return_iff {g : α → β} : Failing (do let a ← r; return g a) ↔ Failing r := by
  have next : ∀ a, r = .ok a → (Failing (pure (g a) : Except Failure β) ↔ False) := fun a _ =>
    iff_of_false (not_failing_ok _) id
  rw [failing_bind_iff next, or_false]

/-- A computation that is gone on with only if a test holds. -/
theorem failing_if_iff {test rest : Except Failure Bool} :
    Failing (do if ← test then rest else return false) ↔ Failing test ∨ test = .ok true ∧ Failing rest := by
  rcases test with e | (_ | _)
  · simp [bind, Except.bind]
  · simp [bind, Except.bind, pure, Except.pure]
  · simp [bind, Except.bind]

end

namespace Value

variable {dump : Value → Except Failure String}

/-- A value that templates cannot write with a writer of data. -/
inductive Unwritable (dump : Value → Except Failure String) : Value → Prop
  | int {n : Int} : 10 ^ maxIntegerDigits ≤ n.natAbs → Unwritable dump (.int n)
  | item {items item} : item ∈ items → Unwritable dump item → Unwritable dump (.list items)
  | map {entries} : Failing (dump (.map entries)) → Unwritable dump (.map entries)

theorem integerText_fails_iff {n : Int} : Failing (integerText n) ↔ Unwritable dump (.int n) := by
  have digits : (Nat.toDigits 10 n.natAbs).length ≤ maxIntegerDigits ↔ n.natAbs < 10 ^ maxIntegerDigits :=
    Nat.length_toDigits_le_iff (by decide) (by decide)
  rw [integerText]
  split
  next long =>
    exact iff_of_true (failing_error _) (.int (Nat.not_lt.mp fun short => Nat.not_lt.mpr (digits.mpr short) long))
  next short =>
    exact iff_of_false (not_failing_ok _) fun | .int large => Nat.not_le.mpr (digits.mp (Nat.not_lt.mp short)) large

mutual

theorem toText_fails_iff (v : Value) : Failing (v.toText dump) ↔ v.Unwritable dump := by
  cases v with
  | int n =>
    rw [toText]
    exact integerText_fails_iff
  | list items =>
    rw [toText, failing_return_iff, itemTexts_fails_iff]
    constructor
    · rintro ⟨item, member, unwritable⟩
      exact .item member unwritable
    · rintro (_ | ⟨member, unwritable⟩)
      exact ⟨_, member, unwritable⟩
  | map entries =>
    rw [toText]
    exact ⟨.map, fun | .map fails => fails⟩
  | _ =>
    rw [toText]
    exact iff_of_false (not_failing_ok _) nofun

theorem itemTexts_fails_iff (items : List Value) :
    Failing (itemTexts items dump) ↔ ∃ item ∈ items, item.Unwritable dump := by
  cases items with
  | nil => simp [itemTexts]
  | cons item rest =>
    have later : Failing (itemTexts rest dump) ↔ ∃ item ∈ rest, item.Unwritable dump := itemTexts_fails_iff rest
    rw [itemTexts, failing_bind_iff fun _ _ => failing_return_iff, toText_fails_iff item, later,
      List.exists_mem_cons_iff]

end

end Value

end Stencil
