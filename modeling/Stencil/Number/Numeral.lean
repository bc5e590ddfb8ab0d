import Stencil.Number.Binary64
import Stencil.Text.Blank
import Stencil.Text.Case
import Stencil.Text.Digit

/-!
Numbers written as text. White space around a number is ignored, digits of every script count, and a
single underscore may stand between two digits.
-/

namespace Stencil.Number

open Stencil.Text

/-- The most digits that an integer may be written with. -/
def maxIntegerDigits : Nat := 4300

/-- A text with every decimal digit written in ASCII. -/
def normalizeDigits (s : List Char) : List Char :=
  s.map fun c => match digitValue? c with
    | some value => Char.ofNat (48 + value)
    | none => c

/-- Removes the underscores of a text in which each stands between two digits; other texts have no
plain form. The flag says whether the character before was a digit. -/
def dropUnderscores (afterDigit : Bool) : List Char → Option (List Char)
  | [] => some []
  | '_' :: next :: rest =>
    if afterDigit && next.isDigit then (dropUnderscores true rest).map (next :: ·) else none
  | c :: rest => if c == '_' then none else (dropUnderscores c.isDigit rest).map (c :: ·)

/-- The plain form of a number's text: trimmed, ASCII digits, no underscores. -/
def plainForm? (s : List Char) : Option (List Char) :=
  dropUnderscores false (normalizeDigits (strip s))

/-- Splits a sign off the front; `true` stands for minus. -/
def splitSign : List Char → Bool × List Char
  | '-' :: rest => (true, rest)
  | '+' :: rest => (false, rest)
  | s => (false, s)

/-- The value of a text of ASCII digits. -/
def digitsValue (s : List Char) : Nat :=
  s.foldl (fun n c => 10 * n + (c.toNat - 48)) 0

/-- Reads a decimal integer. A text with too many digits is refused. -/
def readInt? (s : List Char) : Option Int := do
  let plain ← plainForm? s
  let (negative, digits) := splitSign plain
  if digits.isEmpty || !digits.all Char.isDigit || maxIntegerDigits < digits.length then none
  else
    let value := digitsValue digits
    some (if negative then -value else value)

/-- The double nearest to `digits * 10 ^ exponent`, infinite if that is too large. -/
def floatOfDecimal (negative : Bool) (digits : Nat) (exponent : Int) : Float :=
  let size : Int := (Nat.toDigits 10 digits).length + exponent
  if digits == 0 || size < -400 then ofMagnitudeBits negative 0
  else if 400 < size then ofMagnitudeBits negative (2047 * twoTo 52)
  else
    match roundQuotient? (digits * tenTo exponent.toNat) (tenTo (-exponent).toNat) with
    | some bits => ofMagnitudeBits negative bits
    | none => ofMagnitudeBits negative (2047 * twoTo 52)

/-- Reads the exponent that may end a number: nothing, or a mark, a sign and digits. -/
def readExponent? : List Char → Option Int
  | [] => some 0
  | mark :: rest =>
    if mark == 'e' || mark == 'E' then
      let (negative, digits) := splitSign rest
      if digits.isEmpty || !digits.all Char.isDigit then none
      else some (if negative then -digitsValue digits else digitsValue digits)
    else none

/-- Reads an unsigned decimal fraction with ASCII digits; digits may be missing on one side of the
point. -/
def readFraction? (negative : Bool) (s : List Char) : Option Float := do
  let whole := s.takeWhile Char.isDigit
  let afterWhole := s.dropWhile Char.isDigit
  let (fraction, tail) := match afterWhole with
    | '.' :: rest => (rest.takeWhile Char.isDigit, rest.dropWhile Char.isDigit)
    | rest => ([], rest)
  if whole.isEmpty && fraction.isEmpty then none
  else
    let exponent ← readExponent? tail
    some (floatOfDecimal negative (digitsValue (whole ++ fraction)) (exponent - fraction.length))

/-- Reads a floating-point number, the words for infinity and not-a-number included. -/
def readFloat? (s : List Char) : Option Float := do
  let plain ← plainForm? s
  let (negative, body) := splitSign plain
  let word := String.ofList (body.map Char.toLower)
  if word == "inf" || word == "infinity" then
    some (ofMagnitudeBits negative (2047 * twoTo 52))
  else if word == "nan" then some notANumber
  else readFraction? negative body

end Stencil.Number
