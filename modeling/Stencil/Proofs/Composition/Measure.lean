import Stencil.Composition.Requirement
import Stencil.Proofs.Number.Order

/-!
How rules order values.

A rule compares the doubles that two values stand for, a template the numbers themselves. For integers the answers
differ where two of them share their nearest double, and where an integer has none the rule fails (`integers_ordered`).
-/

namespace Stencil

open Number Stencil.Composition

namespace Value

/-- A value is oversized if it stands for an integer that is too large to have a nearest double. -/
def Oversized (v : Value) : Prop :=
  ∃ n : Int, v.toNumber? = some (.int n) ∧ Vast n

variable {v : Value} {e : Failure}

theorem oversized_int_iff {n : Int} : (Value.int n).Oversized ↔ Vast n := by
  constructor
  · rintro ⟨m, stands, large⟩
    cases stands
    exact large
  · exact fun large => ⟨n, rfl, large⟩

theorem measure?_eq_error_iff : v.measure? = .error e ↔ v.Oversized ∧ e = .arithmetic .overflow := by
  unfold measure? Oversized
  cases v.toNumber? with
  | none => simp
  | some number =>
    cases number with
    | float x => simp [Numeric.toFloat]
    | int n =>
      simp only [Numeric.toFloat, Option.some.injEq, Numeric.int.injEq, exists_eq_left', ← floatOfInt?_eq_none_iff]
      cases floatOfInt? n with
      | none => simp [eq_comm]
      | some x => simp

theorem measure?_int {n : Int} {x : Float} (rounded : floatOfInt? n = some x) :
    (Value.int n).measure? = .ok (some x) := by
  simp [measure?, toNumber?, Numeric.toFloat, rounded]

theorem measure?_of_oversized (large : v.Oversized) : v.measure? = .error (.arithmetic .overflow) :=
  measure?_eq_error_iff.mpr ⟨large, rfl⟩

theorem measure?_of_not_oversized (near : ¬ v.Oversized) : ∃ x, v.measure? = .ok x := by
  cases measured : v.measure? with
  | ok x => exact ⟨x, rfl⟩
  | error e => exact absurd (measure?_eq_error_iff.mp measured).1 near

end Value

namespace Composition

variable {comparison : Comparison} {a b : Value} {m n : Int}

/-- The comparison that a relation makes, if it asks for an order. -/
def Relation.comparison? : Relation → Option Comparison
  | .greater => some .gt
  | .less => some .lt
  | .greaterOrEqual => some .ge
  | .lessOrEqual => some .le
  | _ => none

theorem Relation.holds_of_comparison {relation : Relation} {dump : Value → Except Failure String}
    (asks : relation.comparison? = some comparison) : relation.holds a b dump = ordered comparison a b := by
  cases relation <;> cases asks <;> rfl

/-- No order is found for an oversized value. -/
theorem ordered_eq_error_iff {e : Failure} :
    ordered comparison a b = .error e ↔ (a.Oversized ∨ b.Oversized) ∧ e = .arithmetic .overflow := by
  unfold ordered
  by_cases large : a.Oversized
  · rw [Value.measure?_of_oversized large]
    simp [bind, Except.bind, large, eq_comm]
  · obtain ⟨x, left⟩ := Value.measure?_of_not_oversized large
    rw [left]
    by_cases large' : b.Oversized
    · rw [Value.measure?_of_oversized large']
      simp [bind, Except.bind, large', eq_comm]
    · obtain ⟨y, right⟩ := Value.measure?_of_not_oversized large'
      rw [right]
      simp only [bind, Except.bind, large, large', or_self, false_and, iff_false]
      split
      · split <;> exact nofun
      · exact nofun

theorem ordered_int {x y : Float} (left : floatOfInt? m = some x) (right : floatOfInt? n = some y) {order : Ordering}
    (compared : (Numeric.float x).compare? (.float y) = some order) :
    ordered comparison (.int m) (.int n) = .ok (comparison.holds order) := by
  have first := Value.measure?_int left
  have second := Value.measure?_int right
  simp [ordered, first, second, bind, Except.bind, compared, pure, Except.pure]

/-- Integers that share their nearest double are taken for equal. -/
theorem ordered_of_shared (near : ¬ Vast m) (near' : ¬ Vast n)
    (shared : floatOfInt? m = floatOfInt? n) :
    ordered comparison (.int m) (.int n) = .ok (comparison.holds .eq) := by
  obtain ⟨x, y, left, right, tied, _⟩ := compare?_nearest near near'
  exact ordered_int left right (tied shared)

theorem ordered_of_apart (near : ¬ Vast m) (near' : ¬ Vast n)
    (apart : floatOfInt? m ≠ floatOfInt? n) :
    ordered comparison (.int m) (.int n) = .ok (comparison.holds (compare m n)) := by
  obtain ⟨x, y, left, right, _, exact⟩ := compare?_nearest near near'
  exact ordered_int left right (exact apart)

/-- What a rule finds where it asks for a field in relation to an integer. -/
def relates (context : Bindings) (field : String) (n : Int) (relation : Relation) : Except Failure Bool :=
  (Requirement.mk field relation (.int n)).holds context

section

variable {context : Bindings} {field : String}

theorem relates_of_comparison {relation : Relation} (found : (Value.ofBindings context).field field = .int m)
    (asks : relation.comparison? = some comparison) :
    relates context field n relation = ordered comparison (.int m) (.int n) := by
  rw [relates, Requirement.holds, found]
  exact Relation.holds_of_comparison asks

theorem relates_equal (found : (Value.ofBindings context).field field = .int m) :
    relates context field n .equal = .ok (m == n) := by
  rw [relates, Requirement.holds, found]
  rfl

theorem relates_vast (found : (Value.ofBindings context).field field = .int m) {relation : Relation}
    (asks : relation.comparison? = some comparison) :
    relates context field n relation = .error (.arithmetic .overflow) ↔ Vast m ∨ Vast n := by
  rw [relates_of_comparison found asks, ordered_eq_error_iff, Value.oversized_int_iff, Value.oversized_int_iff]
  simp

/-- Different orders are told apart by some relation. -/
theorem exists_comparison_ne {order order' : Ordering} (differ : order ≠ order') :
    ∃ relation comparison, Relation.comparison? relation = some comparison ∧
      comparison.holds order ≠ comparison.holds order' := by
  by_cases greater : Comparison.gt.holds order = Comparison.gt.holds order'
  · refine ⟨.less, .lt, rfl, fun less => differ ?_⟩
    cases order <;> cases order' <;> simp_all [Comparison.holds]
  · exact ⟨.greater, .gt, rfl, greater⟩

/-- A rule and a template order two integers alike unless one is vast or the two share their nearest double. -/
theorem relates_eq_compare_iff (found : (Value.ofBindings context).field field = .int m) :
    (∀ relation comparison, relation.comparison? = some comparison →
        relates context field n relation = Value.compare comparison (.int m) (.int n)) ↔
      ¬ Vast m ∧ ¬ Vast n ∧ (m = n ∨ floatOfInt? m ≠ floatOfInt? n) := by
  constructor
  · intro agree
    have near : ¬ (Vast m ∨ Vast n) := by
      rw [← relates_vast found (show Relation.greater.comparison? = some .gt from rfl), agree .greater .gt rfl]
      exact nofun
    rw [not_or] at near
    refine ⟨near.1, near.2, ?_⟩
    by_contra tied
    rw [not_or, not_not] at tied
    have differ : Ordering.eq ≠ compare m n := fun same => tied.1 (compare_eq_iff_eq.mp same.symm)
    obtain ⟨relation, comparison, asks, apart⟩ := exists_comparison_ne differ
    have answer := agree relation comparison asks
    rw [relates_of_comparison found asks, ordered_of_shared near.1 near.2 tied.2] at answer
    exact apart (Except.ok.inj answer)
  · rintro ⟨near, near', alike⟩ relation comparison asks
    rw [relates_of_comparison found asks]
    by_cases shared : floatOfInt? m = floatOfInt? n
    · have same : compare m n = .eq := compare_eq_iff_eq.mpr (alike.resolve_right (not_not.mpr shared))
      rw [ordered_of_shared near near' shared, ← same]
      rfl
    · exact ordered_of_apart near near' shared

/-- The relation that names an order. -/
def Relation.ofOrdering : Ordering → Relation
  | .lt => .less
  | .eq => .equal
  | .gt => .greater

/-- Integers that do not share their nearest double are found in their own order and in no other. -/
theorem relates_of_apart (found : (Value.ofBindings context).field field = .int m) (near : ¬ Vast m)
    (near' : ¬ Vast n) (apart : floatOfInt? m ≠ floatOfInt? n) (order : Ordering) :
    relates context field n (.ofOrdering order) = .ok (compare m n == order) := by
  cases order with
  | lt => exact (relates_of_comparison found rfl).trans (ordered_of_apart near near' apart)
  | gt => exact (relates_of_comparison found rfl).trans (ordered_of_apart near near' apart)
  | eq =>
    have differ : m ≠ n := fun same => apart (congrArg floatOfInt? same)
    have unequal : compare m n ≠ .eq := fun same => differ (compare_eq_iff_eq.mp same)
    rw [Relation.ofOrdering, relates_equal found, beq_false_of_ne differ, beq_false_of_ne unequal]

/-- Vast integers, and integers that share their nearest double, are found in no order unless they are equal. -/
theorem relates_iff_of_not_apart (found : (Value.ofBindings context).field field = .int m)
    (close : ¬ (¬ Vast m ∧ ¬ Vast n ∧ floatOfInt? m ≠ floatOfInt? n)) (order : Ordering) :
    relates context field n (.ofOrdering order) = .ok true ↔ order = .eq ∧ m = n := by
  have strict : ∀ comparison : Comparison, comparison.holds .eq = false →
      ordered comparison (.int m) (.int n) ≠ .ok true := by
    intro comparison excludes
    by_cases vast : Vast m ∨ Vast n
    · rw [← Value.oversized_int_iff, ← Value.oversized_int_iff] at vast
      rw [ordered_eq_error_iff.mpr ⟨vast, rfl⟩]
      exact nofun
    · rw [not_or] at vast
      have shared : floatOfInt? m = floatOfInt? n := by_contra fun apart => close ⟨vast.1, vast.2, apart⟩
      rw [ordered_of_shared vast.1 vast.2 shared, excludes]
      exact nofun
  cases order with
  | lt =>
    rw [Relation.ofOrdering, relates_of_comparison found rfl]
    exact iff_of_false (strict .lt rfl) nofun
  | gt =>
    rw [Relation.ofOrdering, relates_of_comparison found rfl]
    exact iff_of_false (strict .gt rfl) nofun
  | eq =>
    rw [Relation.ofOrdering, relates_equal found]
    simp

/-- When exactly one of the three orders is found. -/
theorem relates_trichotomy (found : (Value.ofBindings context).field field = .int m) :
    (∃! order, relates context field n (.ofOrdering order) = .ok true) ↔
      m = n ∨ ¬ Vast m ∧ ¬ Vast n ∧ floatOfInt? m ≠ floatOfInt? n := by
  by_cases apart : ¬ Vast m ∧ ¬ Vast n ∧ floatOfInt? m ≠ floatOfInt? n
  · refine iff_of_true ⟨compare m n, ?_, ?_⟩ (.inr apart)
    · simp [relates_of_apart found apart.1 apart.2.1 apart.2.2]
    · intro order answer
      rw [relates_of_apart found apart.1 apart.2.1 apart.2.2] at answer
      exact (beq_iff_eq.mp (Except.ok.inj answer)).symm
  · simp only [relates_iff_of_not_apart found apart, or_iff_left apart]
    exact ⟨fun ⟨_, holds, _⟩ => holds.2, fun same => ⟨.eq, ⟨rfl, same⟩, fun _ holds => holds.1⟩⟩

/-- A rule orders integers as they are, and as a condition does, unless one of them is vast, where it fails, or two
different ones share their nearest double, where it takes them for equal. Neither happens up to `2 ^ 53`. Just where the
rule and the condition agree on all orders, or the two are equal, exactly one of three relations is found. -/
theorem integers_ordered (found : (Value.ofBindings context).field field = .int m) :
    (∀ relation comparison, relation.comparison? = some comparison →
        (relates context field n relation = .error (.arithmetic .overflow) ↔ Vast m ∨ Vast n) ∧
        (¬ Vast m → ¬ Vast n → floatOfInt? m ≠ floatOfInt? n →
          relates context field n relation = .ok (comparison.holds (compare m n))) ∧
        (¬ Vast m → ¬ Vast n → floatOfInt? m = floatOfInt? n →
          relates context field n relation = .ok (comparison.holds .eq)) ∧
        ∀ (scope : Scope) (functions : Functions) (c : Condition) (right : Condition.Operand),
          c.comparison = some (comparison, right) → c.left.value scope functions true = pure (.int m) →
          right.value scope functions true = pure (.int n) →
          c.evaluate scope functions = pure (comparison.holds (compare m n))) ∧
      ((∀ relation comparison, relation.comparison? = some comparison →
          relates context field n relation = Value.compare comparison (.int m) (.int n)) ↔
        ¬ Vast m ∧ ¬ Vast n ∧ (m = n ∨ floatOfInt? m ≠ floatOfInt? n)) ∧
      ((∃! order, relates context field n (.ofOrdering order) = .ok true) ↔
        m = n ∨ ¬ Vast m ∧ ¬ Vast n ∧ floatOfInt? m ≠ floatOfInt? n) ∧
      (m.natAbs ≤ 2 ^ 53 → n.natAbs ≤ 2 ^ 53 →
        ¬ Vast m ∧ ¬ Vast n ∧ (m = n ∨ floatOfInt? m ≠ floatOfInt? n)) := by
  refine ⟨?_, relates_eq_compare_iff found, relates_trichotomy found, ?_⟩
  · intro relation comparison asks
    refine ⟨relates_vast found asks, ?_, ?_, ?_⟩
    · intro near near' apart
      exact (relates_of_comparison found asks).trans (ordered_of_apart near near' apart)
    · intro near near' shared
      exact (relates_of_comparison found asks).trans (ordered_of_shared near near' shared)
    · intro scope functions c right compares first second
      rw [Condition.evaluate, compares]
      simp only
      rw [first, second]
      rfl
  · intro exact exact'
    refine ⟨not_vast_of_le exact, not_vast_of_le exact', ?_⟩
    by_cases same : m = n
    · exact .inl same
    · exact .inr (floatOfInt?_ne same exact exact')

end

theorem guests_ordered :
    (Value.ofBindings [("guests", .int 3)]).field "guests" = .int 3 ∧
      ∃! order, relates [("guests", .int 3)] "guests" 5 (.ofOrdering order) = .ok true := by
  have found : (Value.ofBindings [("guests", .int 3)]).field "guests" = .int 3 := by cbv
  have all := integers_ordered (n := 5) found
  have small := all.2.2.2 (by decide) (by decide)
  exact ⟨found, all.2.2.1.mpr (.inr ⟨small.1, small.2.1, small.2.2.resolve_left (by decide)⟩)⟩

/-- Of two neighbours beyond fifty-three bits a rule finds neither the greater nor the less, nor finds them equal. -/
theorem neighbours_unordered :
    (Value.ofBindings [("n", .int (2 ^ 53 + 1))]).field "n" = .int (2 ^ 53 + 1) ∧
      (∀ order, relates [("n", .int (2 ^ 53 + 1))] "n" (2 ^ 53) (.ofOrdering order) = .ok false) ∧
      Value.compare .gt (.int (2 ^ 53 + 1)) (.int (2 ^ 53)) = .ok true ∧
      relates [("n", .int (10 ^ 400))] "n" 0 .greater = .error (.arithmetic .overflow) ∧
      Value.compare .gt (.int (10 ^ 400)) (.int 0) = .ok true := by
  have found (n : Int) : (Value.ofBindings [("n", .int n)]).field "n" = .int n := by cbv
  have near : ¬ Vast (2 ^ 53) := not_vast_of_le (by decide)
  have near' : ¬ Vast (2 ^ 53 + 1) := by decide +kernel
  have shared : floatOfInt? (2 ^ 53 + 1) = floatOfInt? (2 ^ 53) := (floatOfInt?_inj near' near).mpr (by decide +kernel)
  have vast : Vast (10 ^ 400) := by decide +kernel
  refine ⟨found _, ?_, rfl, (relates_vast (found _) rfl).mpr (.inl vast), by decide +kernel⟩
  intro order
  cases order with
  | lt => exact (relates_of_comparison (found _) rfl).trans (ordered_of_shared near' near shared)
  | gt => exact (relates_of_comparison (found _) rfl).trans (ordered_of_shared near' near shared)
  | eq => exact relates_equal (found _)

end Composition

end Stencil
