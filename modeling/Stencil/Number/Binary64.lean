import Stencil.Number.Power

/-!
Double-precision numbers as exact dyadic fractions, and the rounding of exact quotients to them.

`Dyadic` is a natural number times a power of two. Every finite double is one (`Dyadic.ofFloat`), and
`roundQuotient` goes the other way: it gives the double nearest to a quotient of naturals, a tie going
to the even significand.
-/

namespace Stencil.Number

/-- The number `mantissa * 2 ^ exponent`. -/
structure Dyadic where
  mantissa : Nat
  exponent : Int
  deriving DecidableEq, Repr

namespace Dyadic

/-- The sixty-four bits of a double without its sign. -/
def magnitudeBits (x : Float) : Nat :=
  x.toBits.toNat % twoTo 63

/-- Whether the sign bit of a double is set, which tells the two zeros apart. -/
def isNegative (x : Float) : Bool :=
  twoTo 63 ≤ x.toBits.toNat

/-- Whether a double is neither infinite nor not-a-number. -/
def isFinite (x : Float) : Bool :=
  magnitudeBits x < 2047 * twoTo 52

/-- Whether a double is not a number. -/
def isNaN (x : Float) : Bool :=
  2047 * twoTo 52 < magnitudeBits x

/-- The magnitude of a finite double. -/
def ofFloat (x : Float) : Dyadic :=
  let bits := magnitudeBits x
  let biased : Nat := bits / twoTo 52
  let fraction := bits % twoTo 52
  if biased == 0 then ⟨fraction, -1074⟩ else ⟨twoTo 52 + fraction, (biased : Int) - 1075⟩

/-- Numerator and denominator of a dyadic number. -/
def quotient (d : Dyadic) : Nat × Nat :=
  (d.mantissa * twoTo d.exponent.toNat, twoTo (-d.exponent).toNat)

end Dyadic

/-- The infinite double. -/
def infinity : Float :=
  Float.ofBits 0x7FF0000000000000

/-- A double that is not a number. -/
def notANumber : Float :=
  Float.ofBits 0x7FF8000000000000

/-- A double of given magnitude bits and sign. -/
def ofMagnitudeBits (negative : Bool) (bits : Nat) : Float :=
  Float.ofBits (UInt64.ofNat (bits + if negative then twoTo 63 else 0))

/-- A quotient rounded to the nearest natural number, a half going to the even neighbour. -/
def divideToEven (numerator denominator : Nat) : Nat :=
  let below := numerator / denominator
  let twice := 2 * (numerator % denominator)
  if twice < denominator then below
  else if denominator < twice then below + 1
  else below + below % 2

/-- The exponent of the last place that a double near `numerator / denominator` has. -/
def lastPlace (numerator denominator : Nat) : Int :=
  let estimate : Int := numerator.log2 - denominator.log2
  let place := max (estimate - 53) (-1074)
  if numerator * twoTo (-place).toNat / (denominator * twoTo place.toNat) < twoTo 53 then place
  else place + 1

/-- The magnitude bits of the double nearest to `numerator / denominator`. The bits of consecutive
doubles are consecutive naturals, so a significand that rounds up to the next power of two needs no
case of its own. Nothing is given for a quotient too large to be finite. -/
def roundQuotient? (numerator denominator : Nat) : Option Nat :=
  if numerator == 0 then some 0
  else
    let place := lastPlace numerator denominator
    let significand :=
      divideToEven (numerator * twoTo (-place).toNat) (denominator * twoTo place.toNat)
    let bits :=
      if significand < twoTo 52 then significand
      else (place + 1074).toNat * twoTo 52 + significand
    if bits < 2047 * twoTo 52 then some bits else none

/-- The double nearest to an integer, if one is near enough. -/
def floatOfInt? (n : Int) : Option Float :=
  (roundQuotient? n.natAbs 1).map (ofMagnitudeBits (n < 0))

/-- The double nearest to a quotient of integers with a nonzero denominator. Zero over a negative
number is negative zero. -/
def floatOfQuotient? (numerator denominator : Int) : Option Float :=
  (roundQuotient? numerator.natAbs denominator.natAbs).map
    (ofMagnitudeBits ((numerator < 0) != (denominator < 0)))

/-- Compares the exact value of a finite double with an integer. -/
def compareFloatInt (x : Float) (n : Int) : Ordering :=
  let (above, below) := (Dyadic.ofFloat x).quotient
  let signed : Int := if Dyadic.isNegative x then -above else above
  compare signed (n * below)

/-- Whether a finite double is a whole number. -/
def isWhole (x : Float) : Bool :=
  let (above, below) := (Dyadic.ofFloat x).quotient
  above % below == 0

/-- The whole part of a finite double. -/
def truncate (x : Float) : Int :=
  let (above, below) := (Dyadic.ofFloat x).quotient
  if Dyadic.isNegative x then -(above / below : Nat) else (above / below : Nat)

end Stencil.Number
