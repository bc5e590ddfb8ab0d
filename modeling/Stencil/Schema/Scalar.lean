import Stencil.Number.Numeral
import Stencil.Schema.Basic

/-!
Scalars as models take them. A text may stand for a truth value or a number, and a number for another
kind of number where nothing is lost; nothing but a text stands for a text.
-/

namespace Stencil.Schema

open Stencil.Number

/-- Reads a text. -/
def text : Value → Reading String
  | .str s => pure s
  | _ => .refuse .text

/-- The words for true, in small letters. -/
def trueWords : List String := ["1", "t", "y", "on", "yes", "true"]

/-- The words for false, in small letters. -/
def falseWords : List String := ["0", "f", "n", "no", "off", "false"]

/-- The truth value that a word stands for, in any mixture of capital and small letters. -/
def truthWord? (s : String) : Option Bool :=
  let small := String.ofList (s.toList.map Char.toLower)
  if trueWords.contains small then some true
  else if falseWords.contains small then some false
  else none

/-- The truth value that a number stands for: only one and zero do. -/
def truthNumber? (n : Int) : Option Bool :=
  if n == 1 then some true else if n == 0 then some false else none

/-- A truth value that was looked for among the spellings of truth values. -/
def spelledTruth : Option Bool → Reading Bool
  | some b => pure b
  | none => .refuse .truthSpelling

/-- Whether an integer fits into a machine word. -/
def fitsWord (n : Int) : Bool :=
  -twoTo 63 < n && n < twoTo 63

/-- Reads a truth value. Integers that fit no machine word are not looked at. -/
def truth : Value → Reading Bool
  | .bool b => pure b
  | .str s => spelledTruth (truthWord? s)
  | .int n => if fitsWord n then spelledTruth (truthNumber? n) else .refuse .truth
  | .float x =>
    if Dyadic.isFinite x && isWhole x && fitsWord (truncate x) then
      spelledTruth (truthNumber? (truncate x))
    else .refuse .truth
  | _ => .refuse .truth

/-- White space that may surround a number: the information separators do not belong to it. -/
def isPadding (c : Char) : Bool :=
  Text.isBlank c && !(28 ≤ c.toNat && c.toNat ≤ 31)

/-- A text without the white space around it. -/
def trimmed (s : List Char) : List Char :=
  ((s.dropWhile isPadding).reverse.dropWhile isPadding).reverse

/-- A text without its underscores, if none stands at an end or beside another. -/
def joinDigits (s : List Char) : Option (List Char) :=
  go true s
where
  go (atEdge : Bool) : List Char → Option (List Char)
    | [] => if atEdge then none else some []
    | c :: rest =>
      if c == '_' then if atEdge then none else go true rest
      else (go false rest).map (c :: ·)

/-- Whether digits may follow a minus sign, which allows no zeros in front of other digits. -/
def areShort : List Char → Bool
  | '0' :: _ :: _ => false
  | _ => true

/-- The integer that a text spells: an optional sign, digits that underscores may group, and a point
that nothing but zeros follow. -/
def spelledInteger? (s : List Char) : Option Int := do
  let (negative, body) := splitSign (trimmed s)
  let whole := body.takeWhile (· != '.')
  let fraction := (body.dropWhile (· != '.')).drop 1
  let digits ← joinDigits whole
  if digits.all Char.isDigit && fraction.all (· == '0') && (!negative || areShort digits) then
    let n : Int := digitsValue digits
    some (if negative then -n else n)
  else none

/-- The longest text, in bytes, that is read as an integer. -/
def maxIntegerText : Nat := 4300

/-- Reads an integer. -/
def integer : Value → Reading Int
  | .int n => pure n
  | .bool b => pure b.toNat
  | .float x =>
    if !Dyadic.isFinite x then .refuse .infinite
    else if !isWhole x then .refuse .fractional
    else if fitsWord (truncate x) then pure (truncate x)
    else .refuse .integerSize
  | .str s =>
    if maxIntegerText < s.utf8ByteSize then .refuse .integerSize
    else match spelledInteger? s.toList with
      | some n => pure n
      | none => .refuse .integerSpelling
  | _ => .refuse .integer

/-- The number that a text spells in ASCII characters. -/
def spelledFloat? (s : List Char) : Option Float := do
  let plain ← joinDigits (trimmed s)
  if plain.all fun c => c.isAlphanum || c == '+' || c == '-' || c == '.' then readFloat? plain
  else none

/-- Reads a number. -/
def float : Value → Reading Float
  | .float x => pure x
  | .bool b => pure (if b then 1 else 0)
  | .int n => match floatOfInt? n with
    | some x => pure x
    | none => .refuse .number
  | .str s => match spelledFloat? s.toList with
    | some x => pure x
    | none => .refuse .numberSpelling
  | _ => .refuse .number

/-- Reads one half of a pair, which may be missing. -/
def pairItem {α : Type} (read : Value → Reading α) (position : Nat) (items : List Value) :
    Reading α :=
  match items[position]? with
  | some v => (read v).within (toString position)
  | none => (Reading.refuse .required).within (toString position)

/-- Reads a pair. -/
def pair {α : Type} (read : Value → Reading α) : Value → Reading (α × α)
  | .list items =>
    if 2 < items.length then .refuse (.pairSize items.length)
    else Prod.mk <$> pairItem read 0 items <*> pairItem read 1 items
  | _ => .refuse .pair

end Stencil.Schema
