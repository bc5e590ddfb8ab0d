import Stencil.Number.Binary64

/-!
The shortest decimal text of a double: the fewest significant digits that read back as the same
double and, of those, the nearest to it.
-/

namespace Stencil.Number

/-- Significant digits `digits` with the decimal point after the first of them, times
`10 ^ exponent`. -/
structure Scientific where
  digits : List Char
  exponent : Int
  deriving DecidableEq, Repr

/-- Compares `d * 10 ^ k` with `m * 2 ^ e`. -/
def compareScaled (d : Nat) (k : Int) (m : Nat) (e : Int) : Ordering :=
  compare (d * tenTo k.toNat * twoTo (-e).toNat) (m * twoTo e.toNat * tenTo (-k).toNat)

/-- Whether `d * 10 ^ k` reads back as the double with magnitude `x`. Four times the mantissa makes
room for the ends of the interval, which belong to it when the mantissa is even. Below a power of two
the next double is only half as far away. -/
def readsBack (x : Dyadic) (d : Nat) (k : Int) : Bool :=
  let gapBelow := if x.mantissa == twoTo 52 && -1074 < x.exponent then 1 else 2
  let low := compareScaled d k (4 * x.mantissa - gapBelow) (x.exponent - 2)
  let high := compareScaled d k (4 * x.mantissa + 2) (x.exponent - 2)
  if x.mantissa % 2 == 0 then low != .lt && high != .gt else low == .gt && high == .lt

/-- The exponent of the leading decimal digit of a positive dyadic number. -/
def leadingPlace (x : Dyadic) : Int :=
  let (above, below) := x.quotient
  (Nat.toDigits 10 (above * tenTo 400 / below)).length - 401

/-- The point of the decimal grid with `count` significant digits that reads back as `x` and is
nearest to it, with the exponent of its last digit. -/
def onGrid? (x : Dyadic) (count : Nat) : Option (Nat × Int) :=
  let place := leadingPlace x - count + 1
  let (above, below) := x.quotient
  let numerator := above * tenTo (-place).toNat
  let denominator := below * tenTo place.toNat
  let floor := numerator / denominator
  let remainder := numerator % denominator
  let nearest :=
    if 2 * remainder < denominator then [floor, floor + 1]
    else if denominator < 2 * remainder then [floor + 1, floor]
    else if floor % 2 == 0 then [floor, floor + 1]
    else [floor + 1, floor]
  (nearest.find? fun d => readsBack x d place).map fun d => (d, place)

/-- The shortest digits of a positive dyadic number that comes from a double. -/
def shortest (x : Dyadic) : Scientific :=
  match (List.range 17).findSome? fun i => onGrid? x (i + 1) with
  | none => ⟨['0'], 0⟩
  | some (d, place) =>
    let digits := Nat.toDigits 10 d
    let kept := (digits.reverse.dropWhile (· == '0')).reverse
    ⟨kept, place + digits.length - 1⟩

/-- How a float is laid out: the exponents written positionally, and how the others are written. -/
structure FloatLayout where
  firstPositional : Int
  lastPositional : Int
  exponentDigits : Nat
  deriving DecidableEq, Repr

/-- Digits padded with leading zeros to a given width. -/
def padDigits (width n : Nat) : List Char :=
  let digits := Nat.toDigits 10 n
  List.replicate (width - digits.length) '0' ++ digits

/-- Lays out significant digits. Positional notation always has a fractional part. -/
def FloatLayout.layOut (layout : FloatLayout) (s : Scientific) : List Char :=
  if s.exponent < layout.firstPositional || layout.lastPositional < s.exponent then
    let fraction := s.digits.drop 1
    s.digits.take 1 ++ (if fraction.isEmpty then [] else '.' :: fraction) ++ ['e']
      ++ [if s.exponent < 0 then '-' else '+'] ++ padDigits layout.exponentDigits s.exponent.natAbs
  else if s.exponent < 0 then
    ['0', '.'] ++ List.replicate (s.exponent.natAbs - 1) '0' ++ s.digits
  else
    let whole := s.exponent.toNat + 1
    let fraction := s.digits.drop whole
    s.digits.take whole ++ List.replicate (whole - s.digits.length) '0' ++ ['.']
      ++ (if fraction.isEmpty then ['0'] else fraction)

/-- The text of a finite double. -/
def FloatLayout.text (layout : FloatLayout) (x : Float) : List Char :=
  let magnitude := Dyadic.ofFloat x
  let body :=
    if magnitude.mantissa == 0 then ['0', '.', '0'] else layout.layOut (shortest magnitude)
  if Dyadic.isNegative x then '-' :: body else body

/-- Plain float text: positional from a ten-thousandth up to sixteen whole digits, and at least two
digits in an exponent. -/
def plainLayout : FloatLayout := ⟨-4, 15, 2⟩

/-- Float text in serialised data: positional down to a hundred-thousandth, exponents unpadded. -/
def dataLayout : FloatLayout := ⟨-5, 15, 1⟩

/-- Plain text of any double. -/
def floatText (x : Float) : String :=
  if Dyadic.isNaN x then "nan"
  else if Dyadic.isFinite x then String.ofList (plainLayout.text x)
  else if Dyadic.isNegative x then "-inf"
  else "inf"

end Stencil.Number
