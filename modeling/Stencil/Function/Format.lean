import Stencil.Value.Text

/-!
Numbered placeholders: digits between braces stand for the argument with that number.
-/

namespace Stencil.Function

/-- The number that digits of any script spell. -/
def placeholderNumber (digits : List Char) : Except Failure Nat :=
  if Number.maxIntegerDigits < digits.length then .error .longInteger
  else .ok (Number.digitsValue (Number.normalizeDigits digits))

/-- What a placeholder stands for. One without an argument stays as it is written. -/
def fillPlaceholder (arguments : List Value) (digits : List Char) : Except Failure (List Char) := do
  let index ← placeholderNumber digits
  match arguments[index]? with
  | some v => return (← v.toText).toList
  | none => return '{' :: digits ++ ['}']

/-- Fills the placeholders of a text. `pending` holds the digits read since an opening brace, latest
first, if only digits were read since then. -/
def fill (arguments : List Value) (pending : Option (List Char)) :
    List Char → Except Failure (List Char)
  | [] => .ok (flush pending)
  | c :: rest =>
    if c == '{' then do
      return flush pending ++ (← fill arguments (some []) rest)
    else
      match pending with
      | none => do return c :: (← fill arguments none rest)
      | some digits =>
        if Text.isDecimal c then fill arguments (some (c :: digits)) rest
        else if c == '}' && !digits.isEmpty then do
          let filled ← fillPlaceholder arguments digits.reverse
          return filled ++ (← fill arguments none rest)
        else do return flush pending ++ c :: (← fill arguments none rest)
where
  flush : Option (List Char) → List Char
    | none => []
    | some digits => '{' :: digits.reverse

end Stencil.Function
