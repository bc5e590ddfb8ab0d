import Stencil.Condition.Error
import Stencil.Markup.Name
import Stencil.Text.Digit

/-!
The lexemes of conditions.
-/

namespace Stencil.Condition

/-- The kinds of lexemes. -/
inductive LexemeKind where
  | string
  | number
  | operator
  | name
  | leftParen
  | rightParen
  | comma
  deriving DecidableEq, Repr

/-- A lexeme, its spelling, and the offset from which it was read. Blanks before it lie between that
offset and the spelling. -/
structure Lexeme where
  kind : LexemeKind
  text : String
  offset : Nat
  deriving DecidableEq, Repr

/-- Whether a number may end before a text: it must not run into a letter or an underscore. -/
def endsNumber : List Char → Bool
  | [] => true
  | c :: _ => !Markup.isNameStart c

/-- Reads the digits of a number. Where they would run into a letter, the last one is left out. -/
def readDigits? (s : List Char) : Option (List Char × List Char) :=
  let digits := s.takeWhile Text.isDecimal
  let rest := s.dropWhile Text.isDecimal
  if digits.isEmpty then none
  else if endsNumber rest then some (digits, rest)
  else
    match digits.dropLast, digits.getLast? with
    | kept, some c => if kept.isEmpty then none else some (kept, c :: rest)
    | _, none => none

/-- Reads an unsigned number with an optional fractional part. -/
def readUnsigned? (s : List Char) : Option (List Char × List Char) :=
  match s.dropWhile Text.isDecimal with
  | '.' :: afterPoint =>
    let digits := s.takeWhile Text.isDecimal
    match readDigits? afterPoint with
    | some (fraction, rest) =>
      if digits.isEmpty then none else some (digits ++ '.' :: fraction, rest)
    | none => readDigits? s
  | _ => readDigits? s

/-- Reads a number. -/
def readNumber? : List Char → Option (List Char × List Char)
  | '-' :: s => (readUnsigned? s).map fun (text, rest) => ('-' :: text, rest)
  | s => readUnsigned? s

/-- Reads a text in quotes; the quotes belong to the spelling. -/
def readString? : List Char → Option (List Char × List Char)
  | c :: s =>
    if c == '"' || c == '\'' then
      match s.dropWhile (· != c) with
      | q :: rest => some (c :: s.takeWhile (· != c) ++ [q], rest)
      | [] => none
    else none
  | [] => none

/-- Reads an operator or a bracket. -/
def readSign? : List Char → Option (LexemeKind × List Char × List Char)
  | '=' :: '=' :: rest => some (.operator, ['=', '='], rest)
  | '!' :: '=' :: rest => some (.operator, ['!', '='], rest)
  | '>' :: '=' :: rest => some (.operator, ['>', '='], rest)
  | '<' :: '=' :: rest => some (.operator, ['<', '='], rest)
  | '>' :: rest => some (.operator, ['>'], rest)
  | '<' :: rest => some (.operator, ['<'], rest)
  | '(' :: rest => some (.leftParen, ['('], rest)
  | ')' :: rest => some (.rightParen, [')'], rest)
  | ',' :: rest => some (.comma, [','], rest)
  | _ => none

/-- Reads the lexeme at the start of a text. -/
def readLexeme? (s : List Char) : Option (LexemeKind × List Char × List Char) :=
  ((readString? s).map fun (text, rest) => (.string, text, rest))
    <|> ((readNumber? s).map fun (text, rest) => (.number, text, rest))
    <|> readSign? s
    <|> ((Markup.readPath? s).map fun (text, rest) => (.name, text, rest))

/-- Cuts a text without blanks at its end into lexemes; `offset` is where the text starts. -/
def lexFrom (offset : Nat) (s : List Char) : Except Fault (List Lexeme) :=
  match s.dropWhile Text.isBlank with
  | [] => .ok []
  | c :: cs =>
    match readLexeme? (c :: cs) with
    | some (kind, text, rest) =>
      if rest.length < s.length then do
        let others ← lexFrom (offset + (s.length - rest.length)) rest
        return ⟨kind, String.ofList text, offset⟩ :: others
      else .error (.strayCharacter c)
    | none => .error (.strayCharacter c)
termination_by s.length

/-- The lexemes of a condition. -/
def lex (expression : String) : Except Fault (List Lexeme) :=
  lexFrom 0 (Text.stripEnd expression.toList)

end Stencil.Condition
