import Stencil.Function.Basic
import Stencil.Function.Format
import Stencil.Value.Equality
import Stencil.Value.Number

/-!
The functions that every template can call.
-/

namespace Stencil.Function

open Stencil.Number

/-- A function of one argument. -/
def unary (f : Value → Except Failure Value) : List Value → Except Failure Value
  | [a] => f a
  | _ => .error .argumentCount

/-- A function of two arguments. -/
def binary (f : Value → Value → Except Failure Value) : List Value → Except Failure Value
  | [a, b] => f a b
  | _ => .error .argumentCount

/-- A function on the text of its argument. -/
def onText (f : List Char → List Char) : List Value → Except Failure Value :=
  unary fun a => do return .str (String.ofList (f (← a.toText).toList))

/-- How many items or entries a value has; anything else is measured as text. -/
def length (a : Value) : Except Failure Value :=
  match a with
  | .str s => .ok (.int s.length)
  | .list items => .ok (.int items.length)
  | .map entries => .ok (.int entries.length)
  | _ => do return .int (← a.toText).length

/-- The items of a list with a separator between them; anything else is taken as text. -/
def joinWith (separator a : Value) : Except Failure Value :=
  match a with
  | .list items => do
    let between ← separator.toText
    return .str (between.intercalate (← Value.itemTexts items))
  | _ => do return .str (← a.toText)

/-- Joins a list with commas, or with the separator that is given. -/
def join : List Value → Except Failure Value
  | [a] => joinWith (.str ", ") a
  | [a, separator] => joinWith separator a
  | _ => .error .argumentCount

/-- The first item of a list, nothing for an empty one; anything else is its own first item. -/
def first (a : Value) : Except Failure Value :=
  match a with
  | .list items => .ok (items.headD .null)
  | _ => .ok a

/-- The last item of a list, nothing for an empty one; anything else is its own last item. -/
def last (a : Value) : Except Failure Value :=
  match a with
  | .list items => .ok (items.getLastD .null)
  | _ => .ok a

/-- The number that an operand of arithmetic stands for. -/
def operand (a : Value) : Except Failure Numeric :=
  match a.toNumber? with
  | some n => .ok n
  | none => do .error (.notANumber (← a.inspect))

/-- Arithmetic on two values. The first operand that is no number is the one reported. -/
def arithmetic (f : Numeric → Numeric → Except ArithmeticFault Numeric) (a b : Value) :
    Except Failure Value := do
  let x ← operand a
  let y ← operand b
  match f x y with
  | .ok n => return .ofNumeric n
  | .error fault => .error (.arithmetic fault)

/-- Whether a value gives way to a fallback: missing, false, zero or empty text. -/
def isBlankValue (a : Value) : Bool :=
  match a with
  | .null => true
  | .bool b => !b
  | _ => a == .str "" || a == .int 0

/-- A value, or the fallback where the value is missing, false, zero or empty text. -/
def default (a fallback : Value) : Except Failure Value :=
  .ok (if isBlankValue a then fallback else a)

/-- Fills the numbered placeholders of the first argument with the others. -/
def format : List Value → Except Failure Value
  | [] => .error .argumentCount
  | pattern :: arguments => do
    let text ← pattern.toText
    return .str (String.ofList (← fill arguments none text.toList))

/-- The functions that every template can call, in their fixed order. -/
def builtins : Functions :=
  [ ("upper", ofPure (onText Text.upper)),
    ("lower", ofPure (onText Text.lower)),
    ("capitalize", ofPure (onText Text.capitalize)),
    ("length", ofPure (unary length)),
    ("join", ofPure join),
    ("first", ofPure (unary first)),
    ("last", ofPure (unary last)),
    ("add", ofPure (binary (arithmetic Numeric.add))),
    ("subtract", ofPure (binary (arithmetic Numeric.sub))),
    ("multiply", ofPure (binary (arithmetic Numeric.mul))),
    ("divide", ofPure (binary (arithmetic Numeric.div))),
    ("default", ofPure (binary default)),
    ("format", ofPure format) ]

end Stencil.Function
