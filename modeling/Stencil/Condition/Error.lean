import Stencil.Text.Quoted

/-!
Why a condition can be refused.
-/

namespace Stencil.Condition

/-- What is wrong with a condition. -/
inductive Fault where
  /-- A character that starts no lexeme. -/
  | strayCharacter (c : Char)
  /-- A lexeme where none like it can stand, and the offset from which it was read. -/
  | strayLexeme (text : String) (offset : Nat)
  /-- The condition stops where an operand is due. -/
  | unexpectedEnd
  /-- There is no lexeme at all. -/
  | empty
  deriving DecidableEq, Repr

/-- The wording of a fault. -/
def Fault.message : Fault → String
  | .strayCharacter c =>
    "Unexpected character " ++ String.ofList (Text.quote [c]) ++ " in condition"
  | .strayLexeme text offset =>
    "Unexpected " ++ String.ofList (Text.quote text.toList) ++ s!" at offset {offset} in condition"
  | .unexpectedEnd => "Unexpected end of condition"
  | .empty => "Empty condition"

end Stencil.Condition
