import Stencil.Assoc
import Stencil.Pattern.Basic
import Stencil.Pattern.Fault

/-!
The tokens of a pattern's text, and what a reader of patterns keeps in mind.

A token is a character, or a backslash and the character after it. A backslash that ends the text is
refused as soon as it comes next.
-/

namespace Stencil.Pattern

/-- How a token is spelled. -/
inductive Spelling where
  | plain (c : Char)
  | escaped (c : Char)
  | strayBackslash
  deriving DecidableEq, Repr

/-- A token and its offset. -/
structure Token where
  spelling : Spelling
  position : Nat
  deriving DecidableEq, Repr

/-- The text of a token. -/
def Token.text (t : Token) : String :=
  match t.spelling with
  | .plain c => c.toString
  | .escaped c => String.ofList ['\\', c]
  | .strayBackslash => "\\"

/-- The character that a token is, if it is no escape. -/
def Token.plain? (t : Token) : Option Char :=
  match t.spelling with
  | .plain c => some c
  | _ => none

/-- The tokens of a text, the first of which has a given offset. -/
def tokensFrom (position : Nat) : List Char → List Token
  | [] => []
  | '\\' :: c :: rest => ⟨.escaped c, position⟩ :: tokensFrom (position + 2) rest
  | ['\\'] => [⟨.strayBackslash, position⟩]
  | c :: rest => ⟨.plain c, position⟩ :: tokensFrom (position + 1) rest

/-- What a reader of patterns keeps in mind. -/
structure Progress where
  tokens : List Token
  /-- The offset of the end of the text. -/
  finish : Nat
  /-- The switches for the whole pattern. -/
  switches : Switches := {}
  /-- The number of the next group. -/
  nextGroup : Nat := 1
  names : Assoc String Nat := []
  /-- The widths of the groups that are closed. -/
  widths : List (Nat × Width) := []
  /-- Within a look behind, the number of the first group that it could hold. -/
  behind : Option Nat := none
  /-- The groups that choices depend on, and where they are first named. -/
  conditions : List (Nat × Nat) := []
  /-- Whether some look behind has no width of its own. -/
  isUnsized : Bool := false

/-- A reader of part of a pattern. -/
abbrev Reader (α : Type) := StateT Progress (Except Refusal) α

namespace Reader

/-- Refuses the text because of a place in it. -/
def refuse {α : Type} (fault : Fault) (position : Nat) : Reader α :=
  throw ⟨fault, some position⟩

/-- The next token. -/
def peek : Reader (Option Token) := do
  return (← get).tokens.head?

/-- The offset of the next token. -/
def position : Reader Nat := do
  let s ← get
  return match s.tokens with
    | t :: _ => t.position
    | [] => s.finish

/-- Goes on to given tokens. -/
def goTo (tokens : List Token) : Reader Unit := do
  match tokens with
  | ⟨.strayBackslash, position⟩ :: _ => refuse .strayBackslash position
  | _ => modify fun s => { s with tokens }

/-- Takes the next token. -/
def take : Reader (Option Token) := do
  match (← get).tokens with
  | t :: rest => goTo rest; return some t
  | [] => return none

/-- Takes the next token if it is a given character. -/
def accept (c : Char) : Reader Bool := do
  match (← get).tokens with
  | t :: rest => if t.plain? == some c then goTo rest; return true else return false
  | [] => return false

/-- The token that has to come next. -/
def need (fault : Fault) : Reader Token := do
  match ← take with
  | some t => return t
  | none => refuse fault (← position)

/-- Takes as many of the next characters as satisfy a test, up to a number of them. -/
def takeWhile (test : Char → Bool) : Nat → Reader (List Char)
  | 0 => return []
  | n + 1 => do
    match (← get).tokens with
    | ⟨.plain c, _⟩ :: rest =>
      if test c then goTo rest; return c :: (← takeWhile test n) else return []
    | _ => return []

/-- Takes a name up to the character that closes it. -/
def takeName (sort : String) (closer : Char) (name : String) : Nat → Reader String
  | 0 => do refuse (.unterminatedName closer) (← position)
  | room + 1 => do
    match ← take with
    | none =>
      let here ← position
      if name.isEmpty then refuse (.missingName sort) here
      else refuse (.unterminatedName closer) (here - name.length)
    | some t =>
      if t.plain? == some closer then
        if name.isEmpty then refuse (.missingName sort) t.position else return name
      else takeName sort closer (name ++ t.text) room

/-- Takes a name up to the character that closes it. -/
def name (sort : String) (closer : Char) : Reader String := do
  takeName sort closer "" ((← get).tokens.length + 1)

end Reader

end Stencil.Pattern
