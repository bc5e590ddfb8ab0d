import Stencil.Scope
import Stencil.Text.Digit
import Stencil.Value.Number

/-!
The arguments of calls in template text: literals, and names of bindings.
-/

namespace Stencil

/-- Whether a text is a number in digits with an optional sign and fractional part. -/
def isPlainNumber (s : List Char) : Bool :=
  let unsigned := match s with
    | '-' :: rest => rest
    | _ => s
  match unsigned.dropWhile Text.isDecimal with
  | [] => !unsigned.isEmpty
  | '.' :: fraction =>
    !(unsigned.takeWhile Text.isDecimal).isEmpty && !fraction.isEmpty
      && fraction.all Text.isDecimal
  | _ => false

/-- Whether a character is a quote. -/
def isQuote (c : Char) : Bool :=
  c == '"' || c == '\''

/-- The text between quotes of one kind, if a text stands between such quotes. -/
def unquoted? (s : List Char) : Option (List Char) :=
  match s with
  | c :: rest =>
    match rest.getLast? with
    | some d => if isQuote c && c == d then some rest.dropLast else none
    | none => none
  | [] => none

/-- The value that an argument spells. What is no literal stands for itself. -/
def parseLiteral (text : String) : Value :=
  match unquoted? text.toList with
  | some inner => .str (String.ofList inner)
  | none =>
    if text == "true" then .bool true
    else if text == "false" then .bool false
    else if isPlainNumber text.toList then
      match Value.spelledNumber? text with
      | some n => .ofNumeric n
      | none => .null
    else .str text

/-- The value of an argument: that of the binding it names, if there is one, else the literal it
spells. Text that opens with a quote names nothing. -/
def resolveArgument (text : String) (scope : Scope) (host : Host := .plain) :
    Except Failure Value :=
  match text.toList with
  | [] => .ok (parseLiteral text)
  | c :: _ =>
    if isQuote c then .ok (parseLiteral text)
    else do
      match ← scope.lookup text host with
      | some v => return v
      | none => return parseLiteral text

end Stencil
