import Stencil.Formula.Term
import Stencil.Formula.Token

/-!
The grammar of formulas.

Operators bind from weakest to strongest: `or`, `and`, `not`, comparisons with `in`, sums, products,
a minus sign. Comparisons do not chain. Members, items and calls can follow names, texts, lists and
parentheses, but not bare numbers and truth values.
-/

namespace Stencil.Formula

/-- How strongly `or` binds. -/
def orLevel : Nat := 1

/-- How strongly `and` binds. -/
def andLevel : Nat := 2

/-- How strongly `not` binds. -/
def notLevel : Nat := 3

/-- How strongly comparisons bind. -/
def comparisonLevel : Nat := 4

/-- How strongly sums bind. -/
def sumLevel : Nat := 5

/-- How strongly products bind. -/
def productLevel : Nat := 6

/-- How strongly a minus sign binds. -/
def signLevel : Nat := 7

/-- The operation that a sign between two operands stands for, and how strongly it binds. -/
def operation? : String → Option (Nat × (Formula → Formula → Formula))
  | "or" => some (orLevel, .or)
  | "and" => some (andLevel, .and)
  | "==" => some (comparisonLevel, .binary .equal)
  | "!=" => some (comparisonLevel, .binary .different)
  | "<" => some (comparisonLevel, .binary .less)
  | "<=" => some (comparisonLevel, .binary .lessOrEqual)
  | ">" => some (comparisonLevel, .binary .greater)
  | ">=" => some (comparisonLevel, .binary .greaterOrEqual)
  | "=~" => some (comparisonLevel, .binary (.fits false false))
  | "=~~" => some (comparisonLevel, .binary (.fits true false))
  | "!~" => some (comparisonLevel, .binary (.fits false true))
  | "!~~" => some (comparisonLevel, .binary (.fits true true))
  | "in" => some (comparisonLevel, .binary .within)
  | "+" => some (sumLevel, .binary .plus)
  | "-" => some (sumLevel, .binary .minus)
  | "*" => some (productLevel, .binary .times)
  | "/" => some (productLevel, .binary .dividedBy)
  | _ => none

/-- The value of a word that stands for a value, and whether members can be looked up on it. -/
def constant? : String → Option (Value × Bool)
  | "true" => some (.bool true, false)
  | "false" => some (.bool false, false)
  | "inf" => some (.decimal (.infinite false), false)
  | "nan" => some (.decimal .nan, true)
  | "null" => some (.null, true)
  | _ => none

/-- Whether a comparison comes next. -/
def comparisonFollows : List Token → Bool
  | .sign s :: _ => match operation? s with
    | some (level, _) => level == comparisonLevel
    | none => false
  | _ => false

/-- The tokens after a sign that has to come next. -/
def expect (s : String) : List Token → Option (List Token)
  | t :: rest => if t == .sign s then some rest else none
  | [] => none

mutual

/-- Reads a formula whose operators bind at least as strongly as a level says. The last number bounds
the steps. -/
def readFormula (level : Nat) : Nat → List Token → Option (Formula × List Token)
  | 0, _ => none
  | _ + 1, [] => none
  | room + 1, t :: rest =>
    match t with
    | .sign "not" => do
      let (operand, after) ← readFormula notLevel room rest
      readTail level (.not operand) room after
    | .sign "-" => do
      let (operand, after) ← readFormula signLevel room rest
      readTail level (.negative operand) room after
    | _ => do
      let (operand, after) ← readOperand room (t :: rest)
      readTail level operand room after

/-- Reads the operators that may follow an operand, with their right operands. -/
def readTail (level : Nat) (left : Formula) : Nat → List Token → Option (Formula × List Token)
  | 0, _ => none
  | room + 1, .sign "not" :: .sign "in" :: rest =>
    if notLevel < level then some (left, .sign "not" :: .sign "in" :: rest)
    else do
      let (right, after) ← readFormula (comparisonLevel + 1) room rest
      if comparisonFollows after then none
      else readTail level (.not (.binary .within left right)) room after
  | room + 1, .sign s :: rest =>
    match operation? s with
    | none => some (left, .sign s :: rest)
    | some (own, build) =>
      if own < level then some (left, .sign s :: rest)
      else do
        let (right, after) ← readFormula (own + 1) room rest
        if own == comparisonLevel && comparisonFollows after then none
        else readTail level (build left right) room after
  | _ + 1, rest => some (left, rest)

/-- Reads an operand. -/
def readOperand : Nat → List Token → Option (Formula × List Token)
  | 0, _ => none
  | _ + 1, [] => none
  | room + 1, t :: rest =>
    match t with
    | .number d => some (.literal (.decimal d), rest)
    | .text s => readLinks (.literal (.str s)) room rest
    | .name s => readLinks (.name s) room rest
    | .function s => readLinks (.function s) room rest
    | .remark => none
    | .sign "(" => do
      let (inside, after) ← readFormula 0 room rest
      readLinks inside room (← expect ")" after)
    | .sign "[" => do
      let (items, after) ← readItems "]" room rest
      readLinks (.list items) room after
    | .sign s =>
      match constant? s with
      | some (v, true) => readLinks (.literal v) room rest
      | some (v, false) => some (.literal v, rest)
      | none => none

/-- Reads the members, items and calls that may follow an operand. -/
def readLinks (object : Formula) : Nat → List Token → Option (Formula × List Token)
  | 0, _ => none
  | room + 1, .sign "." :: .name s :: rest => readLinks (.member object s) room rest
  | room + 1, .sign "[" :: rest => do
    let (key, after) ← readFormula 0 room rest
    readLinks (.item object key) room (← expect "]" after)
  | room + 1, .sign "(" :: rest => do
    let (arguments, after) ← readItems ")" room rest
    readLinks (.call object arguments) room after
  | _ + 1, rest => some (object, rest)

/-- Reads formulas with commas between them up to a closing bracket. A comma may follow the last. -/
def readItems (closer : String) : Nat → List Token → Option (List Formula × List Token)
  | 0, _ => none
  | room + 1, s =>
    match expect closer s with
    | some rest => some ([], rest)
    | none => do
      let (first, after) ← readFormula 0 room s
      match expect "," after with
      | some rest => do
        let (others, after) ← readItems closer room rest
        return (first :: others, after)
      | none => return ([first], ← expect closer after)

end

/-- The formula that tokens spell. A remark may follow it. -/
def ofTokens (tokens : List Token) : Option Formula :=
  match readFormula 0 (8 * tokens.length + 8) tokens with
  | some (formula, []) | some (formula, [.remark]) => some formula
  | _ => none

/-- The formula that a text spells. -/
def parse (text : String) : Except RuleStage Formula := do
  let s := text.toList
  match ofTokens (← tokens false (s.length + 1) s) with
  | some formula => return formula
  | none => throw .grammar

end Stencil.Formula
