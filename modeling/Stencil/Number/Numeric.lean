import Stencil.Number.Decimal

/-!
Numbers that are integers of any size or doubles. Comparison is exact even between the two kinds;
arithmetic on a mixed pair first rounds the integer to a double, which can overflow.
-/

namespace Stencil.Number

/-- An integer or a double. -/
inductive Numeric where
  | int (n : Int)
  | float (x : Float)

/-- Why an arithmetic operation has no result. -/
inductive ArithmeticFault where
  | divisionByZero
  | overflow
  deriving DecidableEq, Repr

namespace Numeric

/-- The order of two numbers, if neither is not-a-number. -/
def compare? : Numeric → Numeric → Option Ordering
  | .int m, .int n => some (compare m n)
  | .float x, .float y =>
    if Dyadic.isNaN x || Dyadic.isNaN y then none
    else if x < y then some .lt
    else if y < x then some .gt
    else some .eq
  | .float x, .int n =>
    if Dyadic.isNaN x then none
    else if Dyadic.isFinite x then some (compareFloatInt x n)
    else some (if Dyadic.isNegative x then .lt else .gt)
  | .int m, .float y =>
    if Dyadic.isNaN y then none
    else if Dyadic.isFinite y then some (compareFloatInt y m).swap
    else some (if Dyadic.isNegative y then .gt else .lt)

/-- A number as a double. -/
def toFloat : Numeric → Except ArithmeticFault Float
  | .int n => match floatOfInt? n with
    | some x => .ok x
    | none => .error .overflow
  | .float x => .ok x

/-- Applies an operation on integers to two integers, and one on doubles to any other pair. -/
def arithmetic (onInts : Int → Int → Int) (onFloats : Float → Float → Float) :
    Numeric → Numeric → Except ArithmeticFault Numeric
  | .int m, .int n => .ok (.int (onInts m n))
  | a, b => do
    let x ← a.toFloat
    let y ← b.toFloat
    return .float (onFloats x y)

/-- The sum of two numbers. -/
def add : Numeric → Numeric → Except ArithmeticFault Numeric :=
  arithmetic (· + ·) (· + ·)

/-- The difference of two numbers. -/
def sub : Numeric → Numeric → Except ArithmeticFault Numeric :=
  arithmetic (· - ·) (· - ·)

/-- The product of two numbers. -/
def mul : Numeric → Numeric → Except ArithmeticFault Numeric :=
  arithmetic (· * ·) (· * ·)

/-- The quotient of two numbers, always a double. The quotient of two integers is rounded once, so it
may be a double even where the integers are too large to be doubles themselves. -/
def div : Numeric → Numeric → Except ArithmeticFault Numeric
  | .int m, .int n =>
    if n == 0 then .error .divisionByZero
    else match floatOfQuotient? m n with
      | some x => .ok (.float x)
      | none => .error .overflow
  | a, b => do
    let x ← a.toFloat
    let y ← b.toFloat
    if y == 0 then .error .divisionByZero else .ok (.float (x / y))

/-- Whether a number is zero. -/
def isZero : Numeric → Bool
  | .int n => n == 0
  | .float x => x == 0

end Numeric

/-- The exact decimal value of a double. -/
def Decimal.exactly (x : Float) : Decimal :=
  let negative := Dyadic.isNegative x
  if Dyadic.isNaN x then .nan
  else if !Dyadic.isFinite x then .infinite negative
  else
    let d := Dyadic.ofFloat x
    if 0 ≤ d.exponent then .finite negative (d.mantissa * twoTo d.exponent.toNat) 0
    else .finite negative (d.mantissa * Nat.pow 5 (-d.exponent).toNat) d.exponent

end Stencil.Number
