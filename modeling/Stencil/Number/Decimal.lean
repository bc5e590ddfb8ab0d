import Stencil.Number.Shortest

/-!
Decimal arithmetic with twenty-eight significant digits, a half going to the even neighbour. A number
keeps the places it was written with, so that `2.0` and `2` are equal but have different texts.
-/

namespace Stencil.Number

/-- A decimal number `± coefficient * 10 ^ exponent`, or one of the values that are no numbers. -/
inductive Decimal where
  | finite (negative : Bool) (coefficient : Nat) (exponent : Int)
  | infinite (negative : Bool)
  | nan
  deriving DecidableEq, Repr

namespace Decimal

/-- How many significant digits arithmetic keeps. -/
def precision : Nat := 28

/-- The number of decimal digits of a natural number, one for zero. -/
def digitCount (n : Nat) : Nat :=
  (Nat.toDigits 10 n).length

/-- Rounds a coefficient to the digits that arithmetic keeps. -/
def round (negative : Bool) (coefficient : Nat) (exponent : Int) : Decimal :=
  let excess := digitCount coefficient - precision
  if excess == 0 then .finite negative coefficient exponent
  else
    let rounded := divideToEven coefficient (tenTo excess)
    if digitCount rounded ≤ precision then .finite negative rounded (exponent + excess)
    else .finite negative (rounded / 10) (exponent + excess + 1)

/-- The exact decimal value of an integer. -/
def ofInt (n : Int) : Decimal :=
  .finite (n < 0) n.natAbs 0

/-- The decimal number that a double's shortest text spells. -/
def ofFloat (x : Float) : Decimal :=
  let negative := Dyadic.isNegative x
  if Dyadic.isNaN x then .nan
  else if !Dyadic.isFinite x then .infinite negative
  else
    let magnitude := Dyadic.ofFloat x
    if magnitude.mantissa == 0 then .finite negative 0 (-1)
    else
      let s := shortest magnitude
      let positional :=
        plainLayout.firstPositional ≤ s.exponent && s.exponent ≤ plainLayout.lastPositional
      let places : Int := s.digits.length - 1 - s.exponent
      let padded := if positional then max places 1 else places
      let value := s.digits.foldl (fun n c => 10 * n + (c.toNat - 48)) 0
      .finite negative (value * tenTo (padded - places).toNat) (-padded)

/-- The signed coefficient of a number brought to a smaller exponent. -/
def scaledTo (exponent : Int) (negative : Bool) (coefficient : Nat) (own : Int) : Int :=
  let scaled : Int := coefficient * tenTo (own - exponent).toNat
  if negative then -scaled else scaled

/-- The sum of two decimals. Infinities of opposite sign have none. -/
def add? : Decimal → Decimal → Option Decimal
  | .nan, _ | _, .nan => some .nan
  | .infinite a, .infinite b => if a == b then some (.infinite a) else none
  | .infinite a, _ => some (.infinite a)
  | _, .infinite b => some (.infinite b)
  | .finite sa ca ea, .finite sb cb eb =>
    let exponent := min ea eb
    let sum := scaledTo exponent sa ca ea + scaledTo exponent sb cb eb
    let negative := if sum == 0 then sa && sb else sum < 0
    some (round negative sum.natAbs exponent)

/-- The number with the opposite sign. Zero loses its sign. -/
def negate : Decimal → Decimal
  | .nan => .nan
  | .infinite s => .infinite !s
  | .finite s c e => round (!s && c != 0) c e

/-- The number with its sign turned, zero included. -/
def flip : Decimal → Decimal
  | .nan => .nan
  | .infinite s => .infinite !s
  | .finite s c e => .finite (!s) c e

/-- The difference of two decimals. -/
def sub? (a b : Decimal) : Option Decimal :=
  add? a b.flip

/-- The product of two decimals. Zero times infinity has none. -/
def mul? : Decimal → Decimal → Option Decimal
  | .nan, _ | _, .nan => some .nan
  | .infinite a, .infinite b => some (.infinite (a != b))
  | .infinite a, .finite sb cb _ => if cb == 0 then none else some (.infinite (a != sb))
  | .finite sa ca _, .infinite b => if ca == 0 then none else some (.infinite (sa != b))
  | .finite sa ca ea, .finite sb cb eb => some (round (sa != sb) (ca * cb) (ea + eb))

/-- Drops trailing zeros of a coefficient while the exponent is below a bound. -/
def dropZeros (coefficient : Nat) (exponent : Int) : Nat → Nat × Int
  | 0 => (coefficient, exponent)
  | room + 1 =>
    if coefficient % 10 == 0 then dropZeros (coefficient / 10) (exponent + 1) room
    else (coefficient, exponent)

/-- The quotient of two decimals; nothing is given when the divisor is zero or both are infinite. -/
def div? : Decimal → Decimal → Option Decimal
  | .nan, _ | _, .nan => some .nan
  | .infinite _, .infinite _ => none
  | .infinite a, .finite sb _ _ => some (.infinite (a != sb))
  | .finite sa _ _, .infinite b => some (.finite (sa != b) 0 (-1000026))
  | .finite sa ca ea, .finite sb cb eb =>
    if cb == 0 then none
    else if ca == 0 then some (.finite (sa != sb) 0 (ea - eb))
    else
      let shift : Int := digitCount cb - digitCount ca + precision + 1
      let numerator := ca * tenTo shift.toNat
      let denominator := cb * tenTo (-shift).toNat
      let quotient := numerator / denominator
      let exponent := ea - eb - shift
      if numerator % denominator == 0 then
        let (reduced, place) := dropZeros quotient exponent shift.toNat
        some (round (sa != sb) reduced place)
      else
        some (round (sa != sb) (if quotient % 5 == 0 then quotient + 1 else quotient) exponent)

/-- Whether a decimal counts as zero. -/
def isZero : Decimal → Bool
  | .finite _ c _ => c == 0
  | _ => false

/-- The order of two decimals, if both are numbers. -/
def compare? : Decimal → Decimal → Option Ordering
  | .nan, _ | _, .nan => none
  | .infinite a, .infinite b => some (compare b.toNat a.toNat)
  | .infinite a, _ => some (if a then .lt else .gt)
  | _, .infinite b => some (if b then .gt else .lt)
  | .finite sa ca ea, .finite sb cb eb =>
    let exponent := min ea eb
    some (compare (scaledTo exponent sa ca ea) (scaledTo exponent sb cb eb))

/-- The value of a decimal that is a whole number. -/
def toInt? : Decimal → Option Int
  | .finite s c e =>
    let divisor := tenTo (-e).toNat
    if c % divisor == 0 then
      let value : Int := c / divisor * tenTo e.toNat
      some (if s then -value else value)
    else none
  | _ => none

/-- The text of a decimal: positional when that needs no padding on the right and few zeros on the
left, else with an exponent. -/
def text : Decimal → String
  | .nan => "NaN"
  | .infinite s => if s then "-Infinity" else "Infinity"
  | .finite s c e =>
    let digits := Nat.toDigits 10 c
    let left : Int := e + digits.length
    let point : Int := if e ≤ 0 && -6 < left then left else 1
    let mantissa :=
      if point ≤ 0 then '0' :: '.' :: List.replicate point.natAbs '0' ++ digits
      else if digits.length ≤ point then
        digits ++ List.replicate (point.toNat - digits.length) '0'
      else digits.take point.toNat ++ '.' :: digits.drop point.toNat
    let tail :=
      if left == point then []
      else
        let shown := left - point
        'E' :: (if shown < 0 then '-' else '+') :: Nat.toDigits 10 shown.natAbs
    String.ofList ((if s then ['-'] else []) ++ mantissa ++ tail)

end Decimal

end Stencil.Number
