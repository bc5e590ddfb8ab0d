import Mathlib
import Stencil.Proofs.Number.Rounding

/-!
The order of doubles.

Finite doubles stand in the order of their bits, counted downwards from zero where the sign is set
(`compare?_ofMagnitudeBits`). So integers are ordered by their nearest doubles as they are themselves, except that some
of them share one (`compare?_nearest`).
-/

namespace Stencil.Number

open Float.Model Float.Model.UnpackedFloat

/-- The sixty-four bits of a double. -/
def word (negative : Bool) (bits : Nat) : BitVec Format.binary64.numBits :=
  BitVec.ofNat _ (bits + if negative then 2 ^ 63 else 0)

/-- The sign that a sign bit stands for. -/
def signOf : Bool → Sign
  | true => .negative
  | false => .positive

/-- The number of a double among the doubles, with both zeros at zero. -/
def place (negative : Bool) (bits : Nat) : Int :=
  if negative then -bits else bits

section

variable {negative negative' : Bool} {bits bits' : Nat}

theorem word_toNat (finite : bits < 2047 * 2 ^ 52) :
    (word negative bits).toNat = bits + if negative then 2 ^ 63 else 0 := by
  rw [word, BitVec.toNat_ofNat]
  refine Nat.mod_eq_of_lt ?_
  simp only [Format.numBits]
  split <;> omega

theorem exponent_toNat (finite : bits < 2047 * 2 ^ 52) :
    (unpackExponent (word negative bits)).toNat = bits / 2 ^ 52 := by
  rw [unpackExponent_def, BitVec.extractLsb'_toNat, word_toNat finite, Nat.shiftRight_eq_div_pow]
  simp only
  split <;> omega

theorem mantissa_toNat (finite : bits < 2047 * 2 ^ 52) :
    (unpackMantissa (word negative bits)).toNat = bits % 2 ^ 52 := by
  rw [unpackMantissa_def, BitVec.extractLsb'_toNat, word_toNat finite, Nat.shiftRight_zero]
  simp only
  split <;> omega

theorem sign_eq (finite : bits < 2047 * 2 ^ 52) :
    Sign.ofBitVec (unpackSign (word negative bits)) = signOf negative := by
  have bit : (unpackSign (word negative bits)).toNat = negative.toNat := by
    rw [unpackSign_def, BitVec.extractLsb'_toNat, word_toNat finite, Nat.shiftRight_eq_div_pow]
    simp only
    cases negative <;> simp <;> omega
  have same : unpackSign (word negative bits) = BitVec.ofNat 1 negative.toNat := by
    refine BitVec.eq_of_toNat_eq ?_
    rw [bit]
    cases negative <;> rfl
  rw [same]
  cases negative <;> rfl

theorem exponent_ne (finite : bits < 2047 * 2 ^ 52) : unpackExponent (word negative bits) ≠ -1#11 := by
  intro same
  have ends := congrArg BitVec.toNat same
  rw [exponent_toNat finite] at ends
  have top : (-1#11).toNat = 2047 := by decide
  omega

/-- A finite double keeps its bits. -/
theorem toBits_ofMagnitudeBits (finite : bits < 2047 * 2 ^ 52) :
    (ofMagnitudeBits negative bits).toBits.toBitVec = word negative bits := by
  have packed : (ofMagnitudeBits negative bits).toBits.toBitVec =
      UnpackedFloat.pack Format.binary64 (unpack Format.binary64 (word negative bits)) := by
    cases negative <;> rfl
  have number : isNaNBits (word negative bits) = false := by
    rw [isNaNBits, decide_eq_false_iff_not]
    exact fun ⟨ends, _⟩ => exponent_ne finite ends
  rw [packed, pack_unpack, number]
  rfl

/-- What the bits of a finite double stand for. Exponent and significand together are the bits, since a significand
that is full carries over into the exponent. -/
inductive Decoded (negative : Bool) (bits : Nat) : UnpackedFloat → Prop
  | zero : bits = 0 → Decoded negative bits (.zero (signOf negative))
  | finite {significand : Nat} {exponent : Int} (positive : 0 < significand) :
      (bits : Int) = (exponent + 1074) * 2 ^ 52 + significand → -1074 ≤ exponent → significand < 2 ^ 53 →
      (2 ^ 52 ≤ significand ∨ exponent = -1074) →
      Decoded negative bits (.finite (signOf negative) significand exponent positive)

theorem decoded_unpack (finite : bits < 2047 * 2 ^ 52) :
    Decoded negative bits (ofMagnitudeBits negative bits).toModel.unpack := by
  have exponent : (unpackExponent (word negative bits)).toNat = bits / 2 ^ 52 := exponent_toNat finite
  have mantissa : (unpackMantissa (word negative bits)).toNat = bits % 2 ^ 52 := mantissa_toNat finite
  have bias : ((Format.binary64.exponentBias : Nat) : Int) + Format.binary64.mantissaBitsWithoutImplicit = 1075 := by
    decide
  have unbiased : ((unpackExponent (word negative bits)).toNat : Int) -
      (Format.binary64.exponentBias + Format.binary64.mantissaBitsWithoutImplicit) = (bits / 2 ^ 52 : Nat) - 1075 := by
    rw [bias, exponent]
  have unpacked : (ofMagnitudeBits negative bits).toModel.unpack =
      UnpackedFloat.unpack Format.binary64 (word negative bits) := by
    rw [← toBits_ofMagnitudeBits finite]
    rfl
  rw [unpacked, UnpackedFloat.unpack.eq_1, if_neg (exponent_ne finite), sign_eq finite]
  by_cases low : unpackExponent (word negative bits) = 0#11
  · have small : bits / 2 ^ 52 = 0 := by rw [← exponent, low]; rfl
    rw [if_pos low]
    by_cases nothing : unpackMantissa (word negative bits) = 0#52
    · have rest : bits % 2 ^ 52 = 0 := by rw [← mantissa, nothing]; rfl
      rw [dif_pos nothing]
      exact .zero (by omega)
    · rw [dif_neg nothing]
      refine .finite _ ?_ ?_ ?_ (.inr ?_)
      · rw [unbiased, mantissa]; omega
      · rw [unbiased]; omega
      · rw [mantissa]; omega
      · rw [unbiased]; omega
  · have large : bits / 2 ^ 52 ≠ 0 := fun none => low (BitVec.eq_of_toNat_eq (exponent.trans none))
    -- The leading bit of the significand is not written down.
    have leading : (1#1 ++ unpackMantissa (word negative bits)).toNat = 2 ^ 52 + bits % 2 ^ 52 := by
      rw [BitVec.toNat_append, ← Nat.shiftLeft_add_eq_or_of_lt (BitVec.isLt _), mantissa]
      rfl
    rw [if_neg low]
    refine .finite _ ?_ ?_ ?_ (.inl ?_)
    · rw [unbiased, leading]; omega
    · rw [unbiased]; omega
    · rw [leading]; omega
    · rw [leading]; omega

/-- Of two finite doubles above zero, the one with the larger exponent is larger, and among equals the one with the
larger significand. -/
theorem compare_parts {significand significand' : Nat} {exponent exponent' : Int}
    (split : (bits : Int) = (exponent + 1074) * 2 ^ 52 + significand)
    (split' : (bits' : Int) = (exponent' + 1074) * 2 ^ 52 + significand') (least : -1074 ≤ exponent)
    (least' : -1074 ≤ exponent') (bound : significand < 2 ^ 53) (bound' : significand' < 2 ^ 53)
    (full : 2 ^ 52 ≤ significand ∨ exponent = -1074) (full' : 2 ^ 52 ≤ significand' ∨ exponent' = -1074) :
    (compare exponent exponent').then (compare significand significand') = compare (bits : Int) bits' := by
  rcases lt_trichotomy exponent exponent' with lower | same | higher
  · have below : (bits : Int) < bits' := by omega
    rw [compare_lt_iff_lt.mpr lower, compare_lt_iff_lt.mpr below]
    rfl
  · have shifted : compare (bits : Int) bits' = compare significand significand' := by
      rcases lt_trichotomy significand significand' with less | equal | more
      · rw [compare_lt_iff_lt.mpr less, compare_lt_iff_lt.mpr (by omega)]
      · rw [compare_eq_iff_eq.mpr equal, compare_eq_iff_eq.mpr (by omega)]
      · rw [compare_gt_iff_gt.mpr more, compare_gt_iff_gt.mpr (by omega)]
    rw [compare_eq_iff_eq.mpr same, shifted]
    rfl
  · have above : (bits' : Int) < bits := by omega
    rw [compare_gt_iff_gt.mpr higher, compare_gt_iff_gt.mpr above]
    rfl

theorem compare_neg_neg (a b : Int) : compare (-a) (-b) = (compare a b).swap := by
  rcases lt_trichotomy a b with less | equal | more
  · rw [compare_lt_iff_lt.mpr less, compare_gt_iff_gt.mpr (by omega)]
    rfl
  · rw [compare_eq_iff_eq.mpr equal, compare_eq_iff_eq.mpr (by omega)]
    rfl
  · rw [compare_gt_iff_gt.mpr more, compare_lt_iff_lt.mpr (by omega)]
    rfl

theorem place_true : place true bits = -bits := rfl

theorem place_false : place false bits = bits := rfl

theorem place_zero : place negative 0 = 0 := by
  cases negative <;> rfl

/-- Finite doubles compare as their places do. -/
theorem compare_decoded {x y : UnpackedFloat} (left : Decoded negative bits x) (right : Decoded negative' bits' y) :
    x.compare y = some (compare (place negative bits) (place negative' bits')) := by
  cases left with
  | zero none =>
    subst none
    cases right with
    | zero none =>
      subst none
      cases negative <;> cases negative' <;> rfl
    | finite positive split least =>
      cases negative' with
      | true =>
        have above : place true bits' < place negative 0 := by rw [place_true, place_zero]; omega
        rw [compare_gt_iff_gt.mpr above]
        rfl
      | false =>
        have below : place negative 0 < place false bits' := by rw [place_false, place_zero]; omega
        rw [compare_lt_iff_lt.mpr below]
        rfl
  | finite positive split least bound full =>
    cases right with
    | zero none =>
      subst none
      cases negative with
      | true =>
        have below : place true bits < place negative' 0 := by rw [place_true, place_zero]; omega
        rw [compare_lt_iff_lt.mpr below]
        rfl
      | false =>
        have above : place negative' 0 < place false bits := by rw [place_false, place_zero]; omega
        rw [compare_gt_iff_gt.mpr above]
        rfl
    | finite positive' split' least' bound' full' =>
      have parts := compare_parts split split' least least' bound bound' full full'
      cases negative with
      | true =>
        cases negative' with
        | true =>
          have mirrored : compare (place true bits) (place true bits') = (compare (bits : Int) bits').swap :=
            compare_neg_neg bits bits'
          rw [mirrored, ← parts]
          rfl
        | false =>
          have below : place true bits < place false bits' := by rw [place_true, place_false]; omega
          rw [compare_lt_iff_lt.mpr below]
          rfl
      | false =>
        cases negative' with
        | true =>
          have above : place true bits' < place false bits := by rw [place_true, place_false]; omega
          rw [compare_gt_iff_gt.mpr above]
          rfl
        | false =>
          have plain : compare (place false bits) (place false bits') = compare (bits : Int) bits' := rfl
          rw [plain, ← parts]
          rfl

theorem isNaN_ofMagnitudeBits (finite : bits < 2047 * 2 ^ 52) :
    Dyadic.isNaN (ofMagnitudeBits negative bits) = false := by
  have kept : (ofMagnitudeBits negative bits).toBits.toNat = bits + if negative then 2 ^ 63 else 0 :=
    (congrArg BitVec.toNat (toBits_ofMagnitudeBits finite)).trans (word_toNat finite)
  have magnitude : Dyadic.magnitudeBits (ofMagnitudeBits negative bits) = bits := by
    rw [Dyadic.magnitudeBits, kept]
    simp only [twoTo, Nat.pow_eq]
    split <;> omega
  rw [Dyadic.isNaN, magnitude, decide_eq_false_iff_not]
  simp only [twoTo, Nat.pow_eq]
  omega

theorem float_lt_iff (x y : Float) : x < y ↔ x.toModel.unpack.compare y.toModel.unpack = some .lt := by
  change decide (x.toModel < y.toModel) = true ↔ _
  rw [decide_eq_true_iff]
  change Float.Model.lt _ _ = true ↔ _
  rw [Float.Model.lt, UnpackedFloat.lt, beq_iff_eq]

theorem ofMagnitudeBits_lt_iff (finite : bits < 2047 * 2 ^ 52) (finite' : bits' < 2047 * 2 ^ 52) :
    ofMagnitudeBits negative bits < ofMagnitudeBits negative' bits' ↔ place negative bits < place negative' bits' := by
  rw [float_lt_iff, compare_decoded (decoded_unpack finite) (decoded_unpack finite'), Option.some_inj,
    compare_lt_iff_lt]

/-- Finite doubles stand in the order of their places. -/
theorem compare?_ofMagnitudeBits (finite : bits < 2047 * 2 ^ 52) (finite' : bits' < 2047 * 2 ^ 52) :
    (Numeric.float (ofMagnitudeBits negative bits)).compare? (.float (ofMagnitudeBits negative' bits')) =
      some (compare (place negative bits) (place negative' bits')) := by
  simp only [Numeric.compare?, isNaN_ofMagnitudeBits finite, isNaN_ofMagnitudeBits finite',
    ofMagnitudeBits_lt_iff finite finite', ofMagnitudeBits_lt_iff finite' finite, Bool.or_false, Bool.false_eq_true,
    if_false]
  rcases lt_trichotomy (place negative bits) (place negative' bits') with less | equal | more
  · rw [if_pos less, compare_lt_iff_lt.mpr less]
  · rw [if_neg (by omega), if_neg (by omega), compare_eq_iff_eq.mpr equal]
  · rw [if_neg (by omega), if_pos more, compare_gt_iff_gt.mpr more]

end

/-- An integer is vast if it is at least half a place above the largest double, or as far below the least one. -/
def Vast (n : Int) : Prop :=
  2 ^ 1024 - 2 ^ 970 ≤ n.natAbs

instance (n : Int) : Decidable (Vast n) :=
  inferInstanceAs (Decidable (_ ≤ _))

/-- The place of the double nearest to an integer, if finite doubles did not end. -/
def placeOf (n : Int) : Int :=
  place (n < 0) (magnitude n.natAbs)

section

variable {m n : Int}

theorem magnitude_pos {n : Nat} (positive : n ≠ 0) : 0 < magnitude n := by
  have lower := (significand_bounds positive).1
  rw [magnitude, if_neg positive]
  omega

theorem placeOf_of_neg (negative : n < 0) : placeOf n = -magnitude n.natAbs := by
  rw [placeOf, decide_eq_true negative, place_true]

theorem placeOf_of_nonneg (positive : 0 ≤ n) : placeOf n = magnitude n.natAbs := by
  rw [placeOf, decide_eq_false (not_lt.mpr positive), place_false]

/-- Rounding keeps the order of integers. -/
theorem placeOf_mono (le : m ≤ n) : placeOf m ≤ placeOf n := by
  by_cases low : m < 0
  · rw [placeOf_of_neg low]
    by_cases low' : n < 0
    · have nearer : magnitude n.natAbs ≤ magnitude m.natAbs := magnitude_mono (by omega)
      rw [placeOf_of_neg low']
      omega
    · rw [placeOf_of_nonneg (by omega)]
      omega
  · have farther : magnitude m.natAbs ≤ magnitude n.natAbs := magnitude_mono (by omega)
    rw [placeOf_of_nonneg (by omega), placeOf_of_nonneg (by omega)]
    omega

/-- Integers up to `2 ^ 53` are not rounded together. -/
theorem placeOf_lt (lt : m < n) (exact : m.natAbs ≤ 2 ^ 53) (exact' : n.natAbs ≤ 2 ^ 53) : placeOf m < placeOf n := by
  by_cases low : m < 0
  · have positive := magnitude_pos (show m.natAbs ≠ 0 by omega)
    rw [placeOf_of_neg low]
    by_cases low' : n < 0
    · have nearer : magnitude n.natAbs < magnitude m.natAbs := magnitude_lt (by omega) exact
      rw [placeOf_of_neg low']
      omega
    · rw [placeOf_of_nonneg (by omega)]
      omega
  · have farther : magnitude m.natAbs < magnitude n.natAbs := magnitude_lt (by omega) exact'
    rw [placeOf_of_nonneg (by omega), placeOf_of_nonneg (by omega)]
    omega

/-- Vast integers are those without a nearest double. -/
theorem floatOfInt?_eq_none_iff : floatOfInt? n = none ↔ Vast n := by
  rw [floatOfInt?, Option.map_eq_none_iff, roundQuotient?_one_eq_none_iff, Vast]

theorem not_vast_of_le (exact : n.natAbs ≤ 2 ^ 53) : ¬ Vast n := by
  rw [Vast]
  omega

theorem magnitude_finite (near : ¬ Vast n) : magnitude n.natAbs < 2047 * 2 ^ 52 :=
  Nat.not_le.mp (mt magnitude_overflow_iff.mp near)

theorem floatOfInt?_of_near (near : ¬ Vast n) :
    floatOfInt? n = some (ofMagnitudeBits (n < 0) (magnitude n.natAbs)) := by
  have rounded : roundQuotient? n.natAbs 1 = some (magnitude n.natAbs) := by
    rw [roundQuotient?_one]
    exact if_pos (magnitude_finite near)
  rw [floatOfInt?, rounded]
  rfl

theorem placeOf_neg_iff : placeOf n < 0 ↔ n < 0 := by
  by_cases low : n < 0
  · have positive := magnitude_pos (show n.natAbs ≠ 0 by omega)
    rw [placeOf_of_neg low]
    omega
  · rw [placeOf_of_nonneg (by omega)]
    omega

theorem natAbs_placeOf : (placeOf n).natAbs = magnitude n.natAbs := by
  by_cases low : n < 0
  · rw [placeOf_of_neg low, Int.natAbs_neg, Int.natAbs_natCast]
  · rw [placeOf_of_nonneg (by omega), Int.natAbs_natCast]

/-- How the doubles nearest to two integers compare. -/
theorem compare?_places (near : ¬ Vast m) (near' : ¬ Vast n) :
    (Numeric.float (ofMagnitudeBits (m < 0) (magnitude m.natAbs))).compare?
      (.float (ofMagnitudeBits (n < 0) (magnitude n.natAbs))) = some (compare (placeOf m) (placeOf n)) :=
  compare?_ofMagnitudeBits (magnitude_finite near) (magnitude_finite near')

/-- Integers share their nearest double exactly where they share its place. -/
theorem floatOfInt?_inj (near : ¬ Vast m) (near' : ¬ Vast n) :
    floatOfInt? m = floatOfInt? n ↔ placeOf m = placeOf n := by
  rw [floatOfInt?_of_near near, floatOfInt?_of_near near', Option.some_inj]
  constructor
  · intro same
    have alike := compare?_places near near'
    rw [same, compare?_places near' near', compare_eq_iff_eq.mpr rfl, Option.some_inj] at alike
    exact compare_eq_iff_eq.mp alike.symm
  · intro same
    have signs : m < 0 ↔ n < 0 := by rw [← placeOf_neg_iff, same, placeOf_neg_iff]
    have magnitudes : magnitude m.natAbs = magnitude n.natAbs := by rw [← natAbs_placeOf, same, natAbs_placeOf]
    simp only [signs, magnitudes]

/-- How the doubles of two integers compare: as the integers, but for those that share a double. -/
theorem compare?_nearest (near : ¬ Vast m) (near' : ¬ Vast n) :
    ∃ x y, floatOfInt? m = some x ∧ floatOfInt? n = some y ∧
      (floatOfInt? m = floatOfInt? n → (Numeric.float x).compare? (.float y) = some .eq) ∧
      (floatOfInt? m ≠ floatOfInt? n → (Numeric.float x).compare? (.float y) = some (compare m n)) := by
  have places := compare?_places near near'
  refine ⟨_, _, floatOfInt?_of_near near, floatOfInt?_of_near near', ?_, ?_⟩
  · intro shared
    rw [places]
    exact congrArg some (compare_eq_iff_eq.mpr ((floatOfInt?_inj near near').mp shared))
  · intro apart
    have distinct := mt (floatOfInt?_inj near near').mpr apart
    rw [places]
    rcases lt_trichotomy m n with less | equal | more
    · have below : placeOf m < placeOf n := lt_of_le_of_ne (placeOf_mono less.le) distinct
      rw [compare_lt_iff_lt.mpr less]
      exact congrArg some (compare_lt_iff_lt.mpr below)
    · exact absurd (congrArg placeOf equal) distinct
    · have above : placeOf n < placeOf m := lt_of_le_of_ne (placeOf_mono more.le) (Ne.symm distinct)
      rw [compare_gt_iff_gt.mpr more]
      exact congrArg some (compare_gt_iff_gt.mpr above)

theorem floatOfInt?_ne (distinct : m ≠ n) (exact : m.natAbs ≤ 2 ^ 53) (exact' : n.natAbs ≤ 2 ^ 53) :
    floatOfInt? m ≠ floatOfInt? n := by
  rw [Ne, floatOfInt?_inj (not_vast_of_le exact) (not_vast_of_le exact')]
  rcases lt_or_gt_of_ne distinct with less | more
  · exact (placeOf_lt less exact exact').ne
  · exact (placeOf_lt more exact' exact).ne'

end

end Stencil.Number
