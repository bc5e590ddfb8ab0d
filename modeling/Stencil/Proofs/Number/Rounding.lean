import Mathlib.Tactic.Ring
import Mathlib.Tactic.SplitIfs
import Stencil.Number.Numeric

/-!
Integers rounded to doubles.

A natural number is rounded to fifty-three significant bits, and the bits of the result grow with the number
(`magnitude_mono`). Up to `2 ^ 53` they tell numbers apart (`magnitude_lt`), and from `2 ^ 1024 - 2 ^ 970` on there is
no finite double any more (`roundQuotient?_one_eq_none_iff`).
-/

namespace Stencil.Number

theorem divideToEven_bounds (numerator denominator : Nat) :
    numerator / denominator ≤ divideToEven numerator denominator ∧
      divideToEven numerator denominator ≤ numerator / denominator + 1 := by
  unfold divideToEven
  dsimp only
  split_ifs <;> omega

theorem divideToEven_one (n : Nat) : divideToEven n 1 = n := by
  simp [divideToEven, Nat.mod_one]

theorem divideToEven_mono {m n denominator : Nat} (le : m ≤ n) :
    divideToEven m denominator ≤ divideToEven n denominator := by
  have quotients : m / denominator ≤ n / denominator := Nat.div_le_div_right le
  by_cases same : m / denominator = n / denominator
  · -- With the same quotient, the remainder decides which way is up.
    have first := Nat.div_add_mod m denominator
    have second := Nat.div_add_mod n denominator
    rw [same] at first
    have remainders : m % denominator ≤ n % denominator := by omega
    unfold divideToEven
    rw [same]
    dsimp only
    split_ifs <;> omega
  · have lower := (divideToEven_bounds n denominator).1
    have upper := (divideToEven_bounds m denominator).2
    omega

/-- The fifty-three leading bits of a positive number, rounded. -/
def significand (n : Nat) : Nat :=
  divideToEven (n * twoTo (52 - n.log2)) (twoTo (n.log2 - 52))

/-- The bits of the double nearest to a natural number, if those of finite doubles did not end. -/
def magnitude (n : Nat) : Nat :=
  if n = 0 then 0 else (n.log2 + 1022) * twoTo 52 + significand n

section

variable {m n : Nat}

/-- A positive number lies between a power of two and its double. -/
theorem log2_bounds (positive : n ≠ 0) : 2 ^ n.log2 ≤ n ∧ n < 2 ^ n.log2 * 2 := by
  refine ⟨Nat.log2_self_le positive, ?_⟩
  rw [← Nat.pow_succ]
  exact Nat.lt_log2_self

/-- The leading bits of a number that is shifted to fifty-three bits. -/
theorem shifted_bounds (positive : n ≠ 0) :
    2 ^ 52 ≤ n * 2 ^ (52 - n.log2) / 2 ^ (n.log2 - 52) ∧ n * 2 ^ (52 - n.log2) / 2 ^ (n.log2 - 52) < 2 ^ 53 := by
  obtain ⟨lower, upper⟩ := log2_bounds positive
  have room : 0 < 2 ^ (n.log2 - 52) := Nat.two_pow_pos _
  have scaled : 2 ^ n.log2 * 2 ^ (52 - n.log2) = 2 ^ 52 * 2 ^ (n.log2 - 52) := by
    rw [← Nat.pow_add, ← Nat.pow_add]
    congr 1
    omega
  have shift : 0 < 2 ^ (52 - n.log2) := Nat.two_pow_pos _
  constructor
  · rw [Nat.le_div_iff_mul_le room, ← scaled]
    exact Nat.mul_le_mul_right _ lower
  · rw [Nat.div_lt_iff_lt_mul room]
    have above : n * 2 ^ (52 - n.log2) < 2 ^ n.log2 * 2 * 2 ^ (52 - n.log2) := Nat.mul_lt_mul_of_pos_right upper shift
    calc n * 2 ^ (52 - n.log2) < 2 ^ n.log2 * 2 * 2 ^ (52 - n.log2) := above
      _ = 2 ^ n.log2 * 2 ^ (52 - n.log2) * 2 := by ring
      _ = 2 ^ 53 * 2 ^ (n.log2 - 52) := by rw [scaled]; ring

theorem significand_bounds (positive : n ≠ 0) : 2 ^ 52 ≤ significand n ∧ significand n ≤ 2 ^ 53 := by
  obtain ⟨lower, upper⟩ := shifted_bounds positive
  obtain ⟨below, above⟩ := divideToEven_bounds (n * 2 ^ (52 - n.log2)) (2 ^ (n.log2 - 52))
  have same : significand n = divideToEven (n * 2 ^ (52 - n.log2)) (2 ^ (n.log2 - 52)) := rfl
  omega

/-- The last place of the double nearest to a positive number is fifty-two places behind its first bit. -/
theorem lastPlace_one (positive : n ≠ 0) : lastPlace n 1 = (n.log2 : Int) - 52 := by
  obtain ⟨lower, _⟩ := log2_bounds positive
  have one : (1 : Nat).log2 = 0 := rfl
  have place : max ((n.log2 : Int) - (0 : Nat) - 53) (-1074) = n.log2 - 53 := by omega
  -- Fifty-three places behind the first bit, a number has more bits than fit.
  have long : ¬ n * twoTo (-((n.log2 : Int) - 53)).toNat / (1 * twoTo ((n.log2 : Int) - 53).toNat) < twoTo 53 := by
    have up : (-((n.log2 : Int) - 53)).toNat = 53 - n.log2 := by omega
    have down : ((n.log2 : Int) - 53).toNat = n.log2 - 53 := by omega
    have scaled : 2 ^ 53 * 2 ^ (n.log2 - 53) = 2 ^ n.log2 * 2 ^ (53 - n.log2) := by
      rw [← Nat.pow_add, ← Nat.pow_add]
      congr 1
      omega
    have fits : 2 ^ 53 * 2 ^ (n.log2 - 53) ≤ n * 2 ^ (53 - n.log2) := scaled ▸ Nat.mul_le_mul_right _ lower
    rw [up, down, Nat.one_mul, Nat.not_lt]
    exact (Nat.le_div_iff_mul_le (Nat.two_pow_pos _)).mpr fits
  unfold lastPlace
  dsimp only
  rw [one, place, if_neg long]
  omega

theorem roundQuotient?_one (n : Nat) :
    roundQuotient? n 1 = if magnitude n < 2047 * twoTo 52 then some (magnitude n) else none := by
  by_cases zero : n = 0
  · subst zero
    rfl
  · have normal : ¬ significand n < twoTo 52 := Nat.not_lt.mpr (significand_bounds zero).1
    have up : (-((n.log2 : Int) - 52)).toNat = 52 - n.log2 := by omega
    have down : ((n.log2 : Int) - 52).toNat = n.log2 - 52 := by omega
    have biased : ((n.log2 : Int) - 52 + 1074).toNat = n.log2 + 1022 := by omega
    have rounded : divideToEven (n * twoTo (52 - n.log2)) (1 * twoTo (n.log2 - 52)) = significand n := by
      rw [Nat.one_mul, significand]
    simp only [roundQuotient?, beq_iff_eq, zero, if_false, lastPlace_one zero, up, down, biased, rounded, normal,
      magnitude]

/-- The bits of doubles grow with the numbers that are rounded to them. -/
theorem magnitude_mono (le : m ≤ n) : magnitude m ≤ magnitude n := by
  by_cases zero : m = 0
  · subst zero
    exact Nat.zero_le _
  · have positive : n ≠ 0 := by omega
    have logs : m.log2 ≤ n.log2 := (Nat.le_log2 positive).mpr ((Nat.log2_self_le zero).trans le)
    rw [magnitude, magnitude, if_neg zero, if_neg positive]
    by_cases same : m.log2 = n.log2
    · have digits : significand m ≤ significand n := by
        rw [significand, significand, same]
        exact divideToEven_mono (Nat.mul_le_mul_right _ le)
      rw [same]
      omega
    · have upper := (significand_bounds zero).2
      have lower := (significand_bounds positive).1
      simp only [twoTo, Nat.pow_eq]
      omega

/-- Numbers of at most fifty-three bits are not rounded. -/
theorem significand_of_short (short : n.log2 ≤ 52) : significand n = n * 2 ^ (52 - n.log2) := by
  have one : twoTo (n.log2 - 52) = 1 := by
    rw [Nat.sub_eq_zero_of_le short]
    rfl
  rw [significand, one, divideToEven_one]
  rfl

theorem magnitude_lt (lt : m < n) (exact : n ≤ 2 ^ 53) : magnitude m < magnitude n := by
  have positive : n ≠ 0 := by omega
  by_cases zero : m = 0
  · subst zero
    have lower := (significand_bounds positive).1
    rw [magnitude, magnitude, if_pos rfl, if_neg positive]
    omega
  · have short : m.log2 ≤ 52 := by
      have bound : m.log2 < 53 := (Nat.log2_lt zero).mpr (by omega)
      omega
    obtain ⟨_, upper⟩ := log2_bounds zero
    have shift : 0 < 2 ^ (52 - m.log2) := Nat.two_pow_pos _
    rw [magnitude, magnitude, if_neg zero, if_neg positive]
    by_cases same : m.log2 = n.log2
    · have digits : significand m < significand n := by
        rw [significand_of_short short, significand_of_short (same ▸ short), same]
        exact Nat.mul_lt_mul_of_pos_right lt (Nat.two_pow_pos _)
      rw [same]
      omega
    · have logs : m.log2 ≤ n.log2 := (Nat.le_log2 positive).mpr ((Nat.log2_self_le zero).trans lt.le)
      have lower := (significand_bounds positive).1
      have scaled : 2 ^ m.log2 * 2 * 2 ^ (52 - m.log2) = 2 ^ 53 := by
        rw [← Nat.pow_succ, ← Nat.pow_add]
        congr 1
        omega
      have digits : significand m < 2 ^ 53 := by
        rw [significand_of_short short, ← scaled]
        exact Nat.mul_lt_mul_of_pos_right upper shift
      simp only [twoTo, Nat.pow_eq]
      omega

/-- The first number that is no finite double lies half a place above the largest one. -/
theorem magnitude_overflow_iff : 2047 * twoTo 52 ≤ magnitude n ↔ 2 ^ 1024 - 2 ^ 970 ≤ n := by
  have first : magnitude (2 ^ 1024 - 2 ^ 970) = 2047 * twoTo 52 := by decide +kernel
  have last : magnitude (2 ^ 1024 - 2 ^ 970 - 1) < 2047 * twoTo 52 := by decide +kernel
  constructor
  · intro overflows
    refine Nat.le_of_not_lt fun below => ?_
    have bound : magnitude n ≤ magnitude (2 ^ 1024 - 2 ^ 970 - 1) := magnitude_mono (by omega)
    omega
  · intro large
    rw [← first]
    exact magnitude_mono large

theorem roundQuotient?_one_eq_none_iff : roundQuotient? n 1 = none ↔ 2 ^ 1024 - 2 ^ 970 ≤ n := by
  rw [← magnitude_overflow_iff, roundQuotient?_one]
  split <;> simp <;> omega

end

end Stencil.Number
