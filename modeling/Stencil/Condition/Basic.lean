import Stencil.Condition.Lexeme
import Stencil.Failure
import Stencil.Value.Number

/-!
Conditions and their compilation.

A condition is an operand, or two operands with a comparison between them. An operand is a quoted text,
a number, a truth value, a name, or a call whose arguments are operands again.
-/

namespace Stencil

/-- The comparisons that a condition can make. -/
inductive Comparison where
  | eq
  | ne
  | ge
  | le
  | gt
  | lt
  deriving DecidableEq, Repr

/-- The comparison that a sign stands for. -/
def Comparison.ofSign? (sign : String) : Option Comparison :=
  if sign == "==" then some .eq
  else if sign == "!=" then some .ne
  else if sign == ">=" then some .ge
  else if sign == "<=" then some .le
  else if sign == ">" then some .gt
  else if sign == "<" then some .lt
  else none

namespace Condition

/-- An operand of a condition. -/
inductive Operand where
  | literal (v : Value)
  | reference (path : String)
  | call (name : String) (arguments : List Operand)
  deriving Inhabited

/-- The rest of a list of lexemes after at least one of them. -/
abbrev Shorter (lexemes : List Lexeme) := { rest : List Lexeme // rest.length < lexemes.length }

/-- A lexeme that stands where none like it can. -/
def stray {α : Type} (t : Lexeme) : Except Fault α :=
  .error (.strayLexeme t.text t.offset)

/-- The value that a quoted text stands for. -/
def unquote (text : String) : Value :=
  .str (String.ofList (text.toList.drop 1).dropLast)

/-- The value that the spelling of a number stands for. -/
def numberLiteral (text : String) : Value :=
  match Value.spelledNumber? text with
  | some n => .ofNumeric n
  | none => .null

mutual

/-- Reads an operand. -/
def readOperand (lexemes : List Lexeme) : Except Fault (Operand × Shorter lexemes) :=
  match lexemes with
  | [] => .error .unexpectedEnd
  | t :: rest =>
    match t.kind with
    | .string => .ok (.literal (unquote t.text), ⟨rest, by simp⟩)
    | .number => .ok (.literal (numberLiteral t.text), ⟨rest, by simp⟩)
    | .name =>
      if t.text == "true" then .ok (.literal (.bool true), ⟨rest, by simp⟩)
      else if t.text == "false" then .ok (.literal (.bool false), ⟨rest, by simp⟩)
      else
        match rest with
        | [] => .ok (.reference t.text, ⟨[], by simp⟩)
        | p :: inside =>
          if p.kind == .leftParen then
            match readArguments inside with
            | .error fault => .error fault
            | .ok (arguments, ⟨after, shorter⟩) =>
              .ok (.call t.text arguments, ⟨after, by simp only [List.length_cons]; omega⟩)
          else .ok (.reference t.text, ⟨p :: inside, by simp⟩)
    | _ => stray t
termination_by 2 * lexemes.length
decreasing_by
  simp only [List.length_cons]
  omega

/-- Reads arguments up to a closing parenthesis. -/
def readArguments (lexemes : List Lexeme) : Except Fault (List Operand × Shorter lexemes) :=
  match lexemes with
  | [] => .error .unexpectedEnd
  | t :: rest =>
    if t.kind == .rightParen then .ok ([], ⟨rest, by simp⟩) else readMoreArguments (t :: rest)
termination_by 2 * lexemes.length + 2

/-- Reads at least one argument and those after it, up to a closing parenthesis. -/
def readMoreArguments (lexemes : List Lexeme) : Except Fault (List Operand × Shorter lexemes) :=
  match readOperand lexemes with
  | .error fault => .error fault
  | .ok (_, ⟨[], _⟩) => .error .unexpectedEnd
  | .ok (argument, ⟨t :: rest, shorter⟩) =>
    have closer : rest.length < lexemes.length := by
      simp only [List.length_cons] at shorter
      omega
    match t.kind with
    | .rightParen => .ok ([argument], ⟨rest, closer⟩)
    | .comma =>
      match readMoreArguments rest with
      | .error fault => .error fault
      | .ok (arguments, ⟨after, shorter⟩) => .ok (argument :: arguments, ⟨after, by omega⟩)
    | _ => stray t
termination_by 2 * lexemes.length + 1

end

end Condition

/-- A compiled condition. -/
structure Condition where
  expression : String
  left : Condition.Operand
  comparison : Option (Comparison × Condition.Operand)

namespace Condition

/-- Reads what can follow the first operand: nothing, or a comparison and a second operand. -/
def readComparison : List Lexeme → Except Fault (Option (Comparison × Operand) × List Lexeme)
  | [] => .ok (none, [])
  | t :: rest =>
    match t.kind, Comparison.ofSign? t.text with
    | .operator, some sign => do
      let (right, after) ← readOperand rest
      return (some (sign, right), after.1)
    | _, _ => .ok (none, t :: rest)

/-- Reads the lexemes of a condition. -/
def ofLexemes (lexemes : List Lexeme) : Except Fault (Operand × Option (Comparison × Operand)) := do
  if lexemes.isEmpty then throw .empty
  let (left, after) ← readOperand lexemes
  let (comparison, rest) ← readComparison after.1
  match rest with
  | [] => return (left, comparison)
  | t :: _ => stray t

/-- Compiles a condition. -/
def compile (expression : String) : Except Failure Condition :=
  match lex expression >>= ofLexemes with
  | .ok (left, comparison) => .ok ⟨expression, left, comparison⟩
  | .error fault => .error (.condition fault expression)

mutual

/-- The paths that an operand refers to, from left to right. -/
def Operand.references : Operand → List String
  | .literal _ => []
  | .reference path => [path]
  | .call _ arguments => referencesOf arguments

/-- The paths that several operands refer to. -/
def referencesOf : List Operand → List String
  | [] => []
  | operand :: rest => operand.references ++ referencesOf rest

end

mutual

/-- The functions that an operand calls, outer ones first. -/
def Operand.calls : Operand → List String
  | .literal _ | .reference _ => []
  | .call name arguments => name :: callsOf arguments

/-- The functions that several operands call. -/
def callsOf : List Operand → List String
  | [] => []
  | operand :: rest => operand.calls ++ callsOf rest

end

/-- A list without the repetitions of earlier items. -/
def distinct (names : List String) : List String :=
  names.foldl (fun kept name => if kept.contains name then kept else kept ++ [name]) []

/-- The operands of a condition. -/
def operands (c : Condition) : List Operand :=
  c.left :: c.comparison.toList.map Prod.snd

/-- The paths that a condition refers to. -/
def references (c : Condition) : List String :=
  distinct (referencesOf c.operands)

/-- The functions that a condition calls. -/
def functionNames (c : Condition) : List String :=
  distinct (callsOf c.operands)

end Condition

end Stencil
