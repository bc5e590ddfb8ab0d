import Stencil.Failure
import Stencil.Number.Numeral
import Stencil.Pattern.Escape

/-!
The tokens of formulas, the expressions that rules may carry.
-/

namespace Stencil.Formula

/-- A token of a formula. -/
inductive Token where
  | number (d : Number.Decimal)
  | text (s : String)
  | name (s : String)
  | function (s : String)
  /-- A sign, a bracket, or a word with a meaning of its own. -/
  | sign (s : String)
  | remark
  deriving DecidableEq, Repr

/-- The words with a meaning of their own. -/
def reservedWords : List String :=
  ["true", "false", "inf", "nan", "null", "and", "in", "or", "not", "for", "if", "elif", "else",
    "while"]

/-- The signs and brackets, no sign before one that it starts with. -/
def signs : List String :=
  ["=~~", "=~", "==", "!~~", "!~", "!=", "<=", "<", ">=", ">", "+", "-", "*", "/", "(", ")", "[",
    "]", ","]

/-- Whether a character can start a name. -/
def isNameStart (c : Char) : Bool :=
  c.isAlpha || c == '_'

/-- Whether a character can continue a name. -/
def isNameChar (c : Char) : Bool :=
  c.isAlphanum || c == '_'

/-- What is left of a text after a sign it starts with. -/
def afterSign (s : List Char) : Option (String × List Char) :=
  signs.findSome? fun sign =>
    if sign.toList.isPrefixOf s then some (sign, s.drop sign.length) else none

/-- The exponent that a number may end with, and the rest. -/
def readExponent : List Char → Int × List Char
  | mark :: rest =>
    if mark == 'e' || mark == 'E' then
      let (negative, digits) := Number.splitSign rest
      let written := digits.takeWhile Char.isDigit
      if written.isEmpty then (0, mark :: rest)
      else
        let size : Int := Number.digitsValue written
        (if negative then -size else size, digits.dropWhile Char.isDigit)
    else (0, mark :: rest)
  | [] => (0, [])

/-- A number in decimal notation. It keeps the places that it was written with. -/
def readDecimal (s : List Char) : Number.Decimal × List Char :=
  let whole := s.takeWhile Char.isDigit
  let (fraction, tail) := match s.dropWhile Char.isDigit with
    | '.' :: rest => (rest.takeWhile Char.isDigit, rest.dropWhile Char.isDigit)
    | rest => ([], rest)
  let (exponent, after) := readExponent tail
  (.finite false (Number.digitsValue (whole ++ fraction)) (exponent - fraction.length), after)

/-- A number in a base of its own, if digits of that base follow. -/
def readInBase? (base : Nat) (isDigit : Char → Bool) (s : List Char) :
    Option (Number.Decimal × List Char) :=
  let digits := s.takeWhile isDigit
  if digits.isEmpty then none
  else some (.ofInt (Pattern.digitsIn base digits), s.dropWhile isDigit)

/-- A number, which starts with a digit or with a point before one. -/
def readNumber (s : List Char) : Number.Decimal × List Char :=
  let based := match s with
    | '0' :: 'b' :: rest => readInBase? 2 (fun c => c == '0' || c == '1') rest
    | '0' :: 'o' :: rest => readInBase? 8 Pattern.isOctalDigit rest
    | '0' :: 'x' :: rest => readInBase? 16 Pattern.isHexDigit rest
    | _ => none
  based.getD (readDecimal s)

/-- The characters up to a closing quote, escapes unread, and the rest after the quote. -/
def readQuoted? (mark : Char) : List Char → Option (List Char × List Char)
  | [] => none
  | '\\' :: c :: rest =>
    if c == '\n' then none
    else (readQuoted? mark rest).map fun (inside, after) => ('\\' :: c :: inside, after)
  | c :: rest =>
    if c == mark then some ([], rest)
    else if c == '\n' || c == '\\' then none
    else (readQuoted? mark rest).map fun (inside, after) => (c :: inside, after)

/-- The text that digits of an escape stand for, if they are as many as they should be. -/
def fromCode? (width : Nat) (digits : List Char) : Option Char :=
  let code := Pattern.digitsIn 16 digits
  if digits.length == width && code.isValidChar then some (Char.ofNat code) else none

/-- The character that a hexadecimal escape of a given width stands for, and the rest. -/
def readCode? (width : Nat) (s : List Char) : Option (Char × List Char) :=
  (fromCode? width ((s.take width).takeWhile Pattern.isHexDigit)).map fun c => (c, s.drop width)

/-- The characters that an escape stands for, its backslash left out, and the rest. An escape without
a meaning stands for itself. -/
def readEscape? : List Char → Option (List Char × List Char)
  | [] => none
  | c :: rest =>
    match c with
    | 'x' => (readCode? 2 rest).map fun (d, after) => ([d], after)
    | 'u' => (readCode? 4 rest).map fun (d, after) => ([d], after)
    | 'U' => (readCode? 8 rest).map fun (d, after) => ([d], after)
    | 'N' => none
    | '\\' | '\'' | '"' => some ([c], rest)
    | _ =>
      match Pattern.controlEscape? c with
      | some code => some ([Char.ofNat code], rest)
      | none =>
        if Pattern.isOctalDigit c then
          let more := (rest.take 2).takeWhile Pattern.isOctalDigit
          some ([Char.ofNat (Pattern.digitsIn 8 (c :: more))], rest.drop more.length)
        else some (['\\', c], rest)

/-- The text between quotes with its escapes read. The number bounds how many characters there are. -/
def unescape? : Nat → List Char → Option (List Char)
  | 0, _ => some []
  | _ + 1, [] => some []
  | room + 1, '\\' :: rest =>
    match readEscape? rest with
    | some (meant, after) => (unescape? room after).map (meant ++ ·)
    | none => none
  | room + 1, c :: rest => (unescape? room rest).map (c :: ·)

/-- The token of a quoted text whose opening quote is left out, and the rest. -/
def quotedToken (mark : Char) (s : List Char) : Except RuleStage (Token × List Char) :=
  match readQuoted? mark s with
  | none => .error .grammar
  | some (inside, after) =>
    match unescape? (inside.length + 1) inside with
    | some text => .ok (.text (String.ofList text), after)
    | none => .error .folding

/-- The token of a word. -/
def wordToken (word : List Char) : Token :=
  let text := String.ofList word
  if reservedWords.contains text then .sign text else .name text

/-- Whether a remark that starts here runs to the end of the text. -/
def isLastLine (s : List Char) : Bool :=
  match s.dropWhile (· != '\n') with
  | [] | ['\n'] => true
  | _ => false

/-- Reads the next token of a text that does not start with white space. Whether something other than
white space stands before it decides about a point. -/
def readToken (attached : Bool) (s : List Char) : Except RuleStage (Token × List Char) :=
  match s with
  | [] => .error .grammar
  | 's' :: '"' :: rest => quotedToken '"' rest
  | 's' :: '\'' :: rest => quotedToken '\'' rest
  | '"' :: rest => quotedToken '"' rest
  | '\'' :: rest => quotedToken '\'' rest
  | '#' :: rest =>
    if isLastLine rest then .ok (.remark, rest.dropWhile (· != '\n')) else .error .grammar
  | '.' :: c :: rest =>
    if c.isDigit then
      let (d, after) := readNumber s
      .ok (.number d, after)
    else if attached && isNameStart c then .ok (.sign ".", c :: rest)
    else .error .grammar
  | '$' :: c :: rest =>
    if isNameStart c then
      .ok (.function (String.ofList (c :: rest.takeWhile isNameChar)), rest.dropWhile isNameChar)
    else .error .grammar
  | c :: rest =>
    if c.isDigit then
      let (d, after) := readNumber s
      .ok (.number d, after)
    else if isNameStart c then
      .ok (wordToken (c :: rest.takeWhile isNameChar), rest.dropWhile isNameChar)
    else
      match afterSign s with
      | some (sign, after) => .ok (.sign sign, after)
      | none => .error .grammar

/-- Whether a character may stand between tokens. -/
def isGap (c : Char) : Bool :=
  c == ' ' || c == '\t' || c == '\n'

/-- The tokens of a text. The number bounds how many characters there are. -/
def tokens (attached : Bool) : Nat → List Char → Except RuleStage (List Token)
  | 0, _ => .ok []
  | _ + 1, [] => .ok []
  | room + 1, c :: rest =>
    if isGap c then tokens false room rest
    else do
      let (token, after) ← readToken attached (c :: rest)
      return token :: (← tokens true room after)

end Stencil.Formula
