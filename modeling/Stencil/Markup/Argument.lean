import Stencil.Text.Blank

/-!
The arguments of a call, split at the commas that stand outside quotes.
-/

namespace Stencil.Markup

/-- What a character does to the quote that is open: a quote opens one or closes its own kind. -/
def nextQuote (quote : Option Char) (c : Char) : Option Char :=
  match quote with
  | none => if c == '"' || c == '\'' then some c else none
  | some q => if c == q then none else some q

/-- Cuts a text at the commas outside quotes. There is always a last part, which may be empty. -/
def cutArguments (quote : Option Char) : List Char → List (List Char)
  | [] => [[]]
  | c :: rest =>
    if c == ',' && quote.isNone then [] :: cutArguments none rest
    else
      match cutArguments (nextQuote quote c) rest with
      | [] => [[c]]
      | part :: parts => (c :: part) :: parts

/-- Removes the last of several parts if it is empty. -/
def dropEmptyLast : List (List Char) → List (List Char)
  | [] => []
  | [part] => if part.isEmpty then [] else [part]
  | part :: parts => part :: dropEmptyLast parts

/-- The arguments that a text between parentheses holds. Quotes are kept, blanks around an argument are
not, and an empty last argument does not count. -/
def splitArguments (arguments : String) : List String :=
  (dropEmptyLast ((cutArguments none arguments.toList).map Text.strip)).map String.ofList

end Stencil.Markup
