import Stencil.Number.Numeral
import Stencil.Pattern.Token

/-!
Escapes in patterns. An escape stands for a character, for all characters of a kind, for an anchor, or
for the text of a group; in a set of characters only the first two are meant.
-/

namespace Stencil.Pattern

open Reader

/-- What an escape stands for. -/
inductive Escape where
  | code (code : Nat)
  | kind (sort : CharKind) (negated : Bool)
  | anchor (place : Anchor)
  | group (number : Nat)

/-- The kind of characters that an escape stands for. -/
def kindEscape? : Char → Option (CharKind × Bool)
  | 'd' => some (.digit, false)
  | 'D' => some (.digit, true)
  | 's' => some (.blank, false)
  | 'S' => some (.blank, true)
  | 'w' => some (.word, false)
  | 'W' => some (.word, true)
  | _ => none

/-- The anchor that an escape stands for. -/
def anchorEscape? (ascii : Bool) : Char → Option Anchor
  | 'A' => some .start
  | 'b' => some (.edge ascii)
  | 'B' => some (.noEdge ascii)
  | 'Z' => some .finish
  | _ => none

/-- The control character that an escape stands for. -/
def controlEscape? : Char → Option Nat
  | 'a' => some 7
  | 'b' => some 8
  | 'f' => some 12
  | 'n' => some 10
  | 'r' => some 13
  | 't' => some 9
  | 'v' => some 11
  | _ => none

/-- Whether a character is a hexadecimal digit. -/
def isHexDigit (c : Char) : Bool :=
  c.isDigit || ('a' ≤ c && c ≤ 'f') || ('A' ≤ c && c ≤ 'F')

/-- Whether a character is an octal digit. -/
def isOctalDigit (c : Char) : Bool :=
  '0' ≤ c && c ≤ '7'

/-- The value of digits in a base up to sixteen. -/
def digitsIn (base : Nat) (digits : List Char) : Nat :=
  digits.foldl (fun n c =>
    base * n + if c.isDigit then c.toNat - 48 else c.toLower.toNat - 87) 0

/-- Reads an escape of so many hexadecimal digits. -/
def hexEscape (t : Token) (count : Nat) : Reader Escape := do
  let digits ← takeWhile isHexDigit count
  let text := t.text ++ String.ofList digits
  if digits.length != count then refuse (.incompleteEscape text) t.position
  else
    let code := digitsIn 16 digits
    if 0x110000 ≤ code then refuse (.badEscape text) t.position else return .code code

/-- Reads an escape of a character by name. No names are known. -/
def namedEscape (t : Token) : Reader Escape := do
  if ← accept '\x7b' then
    let characterName ← name "character name" '\x7d'
    refuse (.unknownCharacter characterName) t.position
  else refuse .missingBrace (← position)

/-- Reads the rest of an escape of octal digits after the first. -/
def octalEscape (t : Token) (digits : List Char) : Reader Escape := do
  let code := digitsIn 8 digits
  if 0o377 < code then refuse (.largeOctal ("\\" ++ String.ofList digits)) t.position
  else return .code code

/-- Reads the rest of an escape that means the same in a set and outside. -/
def commonEscape (t : Token) (c : Char) : Reader Escape := do
  match c with
  | 'x' => hexEscape t 2
  | 'u' => hexEscape t 4
  | 'U' => hexEscape t 8
  | 'N' => namedEscape t
  | _ => if c.isAlpha then refuse (.badEscape t.text) t.position else return .code c.toNat

/-- Reads the rest of an escape in a set of characters. -/
def setEscape (t : Token) (c : Char) : Reader Escape := do
  match controlEscape? c, kindEscape? c with
  | some code, _ => return .code code
  | none, some (sort, negated) => return .kind sort negated
  | none, none =>
    if isOctalDigit c then octalEscape t (c :: (← takeWhile isOctalDigit 2))
    else if c.isDigit then refuse (.badEscape t.text) t.position
    else commonEscape t c

/-- Checks that a group can be referred to from within a look behind. -/
def checkBehind (number : Nat) : Reader Unit := do
  let s ← get
  match s.behind with
  | none => return ()
  | some first =>
    if (s.widths.lookup number).isNone then refuse .openGroup (← position)
    else if first ≤ number then refuse .groupBehind (← position)

/-- The reference to the group whose number an escape spells. -/
def groupEscape (t : Token) (digits : List Char) : Reader Escape := do
  let number := digitsIn 10 digits
  let s ← get
  if number < s.nextGroup then
    if (s.widths.lookup number).isNone then refuse .openGroup t.position
    checkBehind number
    return .group number
  else refuse (.noGroup number) (t.position + 1)

/-- Reads the rest of an escape that starts with a digit other than zero: three octal digits stand for
a character, anything else for a group. -/
def numberEscape (t : Token) (c : Char) : Reader Escape := do
  match ← takeWhile Char.isDigit 1 with
  | [] => groupEscape t [c]
  | second :: _ =>
    if isOctalDigit c && isOctalDigit second then
      match ← takeWhile isOctalDigit 1 with
      | [] => groupEscape t [c, second]
      | third :: _ => octalEscape t [c, second, third]
    else groupEscape t [c, second]

/-- Reads the rest of an escape outside of a set of characters. -/
def plainEscape (switches : Switches) (t : Token) (c : Char) : Reader Escape := do
  match kindEscape? c, anchorEscape? switches.ascii c, controlEscape? c with
  | some (sort, negated), _, _ => return .kind sort negated
  | none, some place, _ => return .anchor place
  | none, none, some code => return .code code
  | none, none, none =>
    if c == '0' then return .code (digitsIn 8 (c :: (← takeWhile isOctalDigit 2)))
    else if c.isDigit then numberEscape t c
    else commonEscape t c

end Stencil.Pattern
