import Stencil.Number.Numeral
import Stencil.Value.Basic

/-!
Keys, texts, numbers and dates of TOML. A reader gives what it read and the rest of the text.
-/

namespace Stencil.Toml

open Stencil.Number

/-- Why a document cannot be read. -/
inductive Fault where
  | malformed
  /-- An integer has too many digits. -/
  | longInteger
  deriving DecidableEq, Repr

/-- Whether a character is a space or tab. -/
def isSpace (c : Char) : Bool :=
  c == ' ' || c == '\t'

/-- Skips spaces and tabs. -/
def skipSpace (s : List Char) : List Char :=
  s.dropWhile isSpace

/-- Control characters, which are not allowed anywhere. A tab is no control character here. -/
def isControl (c : Char) : Bool :=
  (c.toNat < 32 || c.toNat == 127) && c != '\t'

/-- Whether a character may be part of a key without quotes. -/
def isKeyChar (c : Char) : Bool :=
  c.isAlphanum || c == '-' || c == '_'

/-- Puts a character in front of what was read. -/
def consRead (c : Char) : Except Fault (List Char × List Char) → Except Fault (List Char × List Char)
  | .ok (cs, rest) => .ok (c :: cs, rest)
  | .error e => .error e

/-- The character with a given code, if there is one. -/
def scalarValue? (code : Nat) : Option Char :=
  if code ≤ 0xD7FF || (0xE000 ≤ code && code ≤ 0x10FFFF) then some (Char.ofNat code) else none

/-- The value of a hexadecimal digit. -/
def hexValue? (c : Char) : Option Nat :=
  if c.isDigit then some (c.toNat - 48)
  else if 'a' ≤ c && c ≤ 'f' then some (c.toNat - 87)
  else if 'A' ≤ c && c ≤ 'F' then some (c.toNat - 55)
  else none

/-- The character that an escape of one letter stands for. -/
def escaped? : Char → Option Char
  | 'b' => some '\x08'
  | 't' => some '\t'
  | 'n' => some '\n'
  | 'f' => some '\x0c'
  | 'r' => some '\r'
  | '"' => some '"'
  | '\\' => some '\\'
  | _ => none

/-- Where the reader of a text in double quotes is. -/
inductive QuoteMode where
  | plain
  /-- After a backslash. -/
  | escape
  /-- After a backslash and spaces, before the line break that has to follow. -/
  | gap
  /-- After an escaped line break: white space is dropped. -/
  | joining
  /-- Inside the digits of a character code. -/
  | code (left value : Nat)

/-- Orders the modes in which no character has to be read. -/
def QuoteMode.rank : QuoteMode → Nat
  | .joining => 1
  | _ => 0

/-- Reads two double quotes. -/
def twoQuotes? : List Char → Option (List Char)
  | '"' :: '"' :: rest => some rest
  | _ => none

/-- Reads the rest of a text in double quotes. A text of several lines ends at three quotes. -/
def quoted (multiline : Bool) (mode : QuoteMode) (s : List Char) : Except Fault (List Char × List Char) :=
  match mode, s with
  | _, [] => .error .malformed
  | .plain, c :: rest =>
    if c == '"' then
      if !multiline then .ok ([], rest)
      else match twoQuotes? rest with
        | some after => .ok ([], after)
        | none => consRead c (quoted multiline .plain rest)
    else if c == '\\' then quoted multiline .escape rest
    else if isControl c && !(multiline && c == '\n') then .error .malformed
    else consRead c (quoted multiline .plain rest)
  | .escape, c :: rest =>
    if multiline && isSpace c then quoted multiline .gap rest
    else if multiline && c == '\n' then quoted multiline .joining rest
    else if c == 'u' then quoted multiline (.code 4 0) rest
    else if c == 'U' then quoted multiline (.code 8 0) rest
    else match escaped? c with
      | some e => consRead e (quoted multiline .plain rest)
      | none => .error .malformed
  | .gap, c :: rest =>
    if isSpace c then quoted multiline .gap rest
    else if c == '\n' then quoted multiline .joining rest
    else .error .malformed
  | .joining, c :: rest =>
    if isSpace c || c == '\n' then quoted multiline .joining rest
    else quoted multiline .plain (c :: rest)
  | .code left value, c :: rest =>
    match hexValue? c with
    | none => .error .malformed
    | some digit =>
      let code := 16 * value + digit
      if left ≤ 1 then
        match scalarValue? code with
        | some e => consRead e (quoted multiline .plain rest)
        | none => .error .malformed
      else quoted multiline (.code (left - 1) code) rest
termination_by 2 * s.length + mode.rank
decreasing_by all_goals simp_wf; try simp only [QuoteMode.rank]; try omega

/-- Reads the rest of a text in single quotes on one line. -/
def literal (s : List Char) : Except Fault (List Char × List Char) :=
  let body := s.takeWhile (· != '\'')
  match s.dropWhile (· != '\'') with
  | _ :: rest => if body.any isControl then .error .malformed else .ok (body, rest)
  | [] => .error .malformed

/-- Reads the rest of a text in triple single quotes. -/
def literalLines : List Char → Except Fault (List Char × List Char)
  | '\'' :: '\'' :: '\'' :: rest => .ok ([], rest)
  | c :: rest =>
    if isControl c && c != '\n' then .error .malformed else consRead c (literalLines rest)
  | [] => .error .malformed

/-- Takes up to two more quotes after the closing ones into a text of several lines. -/
def withExtraQuotes (mark : Char) : Except Fault (List Char × List Char) → Except Fault (List Char × List Char)
  | .ok (body, a :: b :: rest) =>
    if a == mark && b == mark then .ok (body ++ [a, b], rest)
    else if a == mark then .ok (body ++ [a], b :: rest)
    else .ok (body, a :: b :: rest)
  | .ok (body, [a]) => if a == mark then .ok (body ++ [a], []) else .ok (body, [a])
  | step => step

/-- Drops the line break at the start of a text of several lines. -/
def dropFirstBreak : List Char → List Char
  | '\n' :: rest => rest
  | s => s

/-- Reads one part of a key. -/
def keyPart : List Char → Except Fault (String × List Char)
  | '\'' :: rest => do
    let (body, rest) ← literal rest
    return (String.ofList body, rest)
  | '"' :: rest => do
    let (body, rest) ← quoted false .plain rest
    return (String.ofList body, rest)
  | s =>
    let body := s.takeWhile isKeyChar
    if body.isEmpty then .error .malformed
    else .ok (String.ofList body, s.dropWhile isKeyChar)

/-- Reads a key of parts with points between them, at most `room` of them, and the spaces after it. -/
def keyParts (room : Nat) (s : List Char) : Except Fault (List String × List Char) := do
  let (part, rest) ← keyPart s
  match room, skipSpace rest with
  | room + 1, '.' :: rest => do
    let (parts, rest) ← keyParts room (skipSpace rest)
    return (part :: parts, rest)
  | _, rest => return ([part], rest)

/-- Reads a key and the spaces after it. -/
def key (s : List Char) : Except Fault (List String × List Char) :=
  keyParts s.length s

/-- Reads digits after a first one; single underscores may stand between them. -/
def groupedTail (isDigit : Char → Bool) : List Char → List Char × List Char
  | '_' :: c :: rest =>
    if isDigit c then
      let (digits, after) := groupedTail isDigit rest
      (c :: digits, after)
    else ([], '_' :: c :: rest)
  | c :: rest =>
    if isDigit c then
      let (digits, after) := groupedTail isDigit rest
      (c :: digits, after)
    else ([], c :: rest)
  | [] => ([], [])

/-- Reads digits, of which there must be at least one. -/
def grouped? (isDigit : Char → Bool) : List Char → Option (List Char × List Char)
  | c :: rest =>
    if isDigit c then
      let (digits, after) := groupedTail isDigit rest
      some (c :: digits, after)
    else none
  | [] => none

/-- The value of digits in a given base. -/
def valueInBase (base : Nat) (digits : List Char) : Nat :=
  digits.foldl (fun n c => base * n + (hexValue? c).getD 0) 0

/-- Reads the digits of an integer in another base. -/
def basedInteger? (base : Nat) (s : List Char) : Option (Value × List Char) := do
  let (digits, rest) ← grouped? (fun c => (hexValue? c).any (· < base)) s
  some (.int (valueInBase base digits), rest)

/-- Reads the digits before the point of a decimal number. Only zero itself starts with a zero. -/
def wholePart? : List Char → Option (List Char × List Char)
  | '0' :: rest => some (['0'], rest)
  | s => grouped? Char.isDigit s

/-- Reads a point and the digits after it, if they are there. -/
def fractionPart : List Char → List Char × List Char
  | '.' :: rest => (grouped? Char.isDigit rest).getD ([], '.' :: rest)
  | s => ([], s)

/-- Reads an exponent, if it is there. -/
def exponentPart : List Char → Option Int × List Char
  | [] => (none, [])
  | mark :: rest =>
    if mark == 'e' || mark == 'E' then
      let (negative, unsigned) := splitSign rest
      match grouped? Char.isDigit unsigned with
      | some (digits, after) =>
        let n : Int := digitsValue digits
        (some (if negative then -n else n), after)
      | none => (none, mark :: rest)
    else (none, mark :: rest)

/-- Reads a decimal number. -/
def decimalNumber? (s : List Char) : Option (Except Fault (Value × List Char)) := do
  let (negative, unsigned) := splitSign s
  let (whole, afterWhole) ← wholePart? unsigned
  let (fraction, afterFraction) := fractionPart afterWhole
  let (exponent, rest) := exponentPart afterFraction
  if fraction.isEmpty && exponent.isNone then
    let n : Int := digitsValue whole
    if maxIntegerDigits < whole.length then some (.error .longInteger)
    else some (.ok (.int (if negative then -n else n), rest))
  else
    let x := floatOfDecimal negative (digitsValue (whole ++ fraction))
      (exponent.getD 0 - fraction.length)
    some (.ok (.float x, rest))

/-- Reads a number. -/
def number? (s : List Char) : Option (Except Fault (Value × List Char)) :=
  let based := match s with
    | '0' :: 'x' :: rest => basedInteger? 16 rest
    | '0' :: 'b' :: rest => basedInteger? 2 rest
    | '0' :: 'o' :: rest => basedInteger? 8 rest
    | _ => none
  match based with
  | some found => some (.ok found)
  | none => decimalNumber? s

/-- Reads the words for infinity and not-a-number. -/
def specialNumber? (s : List Char) : Option (Value × List Char) :=
  let (negative, unsigned) := splitSign s
  match unsigned with
  | 'i' :: 'n' :: 'f' :: rest => some (.float (if negative then -infinity else infinity), rest)
  | 'n' :: 'a' :: 'n' :: rest => some (.float notANumber, rest)
  | _ => none

/-- Reads a number of exactly `count` digits. -/
def fixedDigits? : Nat → List Char → Option (Nat × List Char)
  | count, s =>
    let digits := s.take count
    if digits.length == count && digits.all Char.isDigit then
      some (digitsValue digits, s.drop count)
    else none

/-- Reads one given character. -/
def char? (c : Char) : List Char → Option (List Char)
  | d :: rest => if c == d then some rest else none
  | [] => none

/-- Reads the fraction of a second, if there is one, in microseconds. -/
def microseconds : List Char → Nat × List Char
  | '.' :: rest =>
    let digits := rest.takeWhile Char.isDigit
    if digits.isEmpty then (0, '.' :: rest)
    else
      let six := (digits ++ List.replicate 6 '0').take 6
      (digitsValue six, rest.dropWhile Char.isDigit)
  | s => (0, s)

/-- Reads a time of day. -/
def clock? (s : List Char) : Option (Clock × List Char) := do
  let (hour, s) ← fixedDigits? 2 s
  let (minute, s) ← fixedDigits? 2 (← char? ':' s)
  let (second, s) ← fixedDigits? 2 (← char? ':' s)
  let (fraction, rest) := microseconds s
  let clock : Clock := ⟨hour, minute, second, fraction⟩
  if clock.isValid then some (clock, rest) else none

/-- Reads a distance from universal time in minutes, if there is one. -/
def offset (s : List Char) : Option Int × List Char :=
  match s with
  | [] => (none, [])
  | mark :: rest =>
    if mark == 'Z' || mark == 'z' then (some 0, rest)
    else if mark == '+' || mark == '-' then
      let read := do
        let (hours, s) ← fixedDigits? 2 rest
        let (minutes, s) ← fixedDigits? 2 (← char? ':' s)
        if hours < 24 && minutes < 60 then
          let total : Int := 60 * hours + minutes
          some (if mark == '-' then -total else total, s)
        else none
      match read with
      | some (minutes, after) => (some minutes, after)
      | none => (none, mark :: rest)
    else (none, mark :: rest)

/-- Reads the time that may follow a date. -/
def timeAfterDate? : List Char → Option (Clock × Option Int × List Char)
  | mark :: rest =>
    if mark == 'T' || mark == 't' || mark == ' ' then do
      let (clock, rest) ← clock? rest
      let (shift, rest) := offset rest
      some (clock, shift, rest)
    else none
  | [] => none

/-- Reads a date, with a time if one follows. The date has to exist. -/
def date? (s : List Char) : Option (Except Fault (Value × List Char)) := do
  let (year, s) ← fixedDigits? 4 s
  let (month, s) ← fixedDigits? 2 (← char? '-' s)
  let (day, rest) ← fixedDigits? 2 (← char? '-' s)
  if month < 1 || 12 < month || day < 1 || 31 < day then none
  else
    let date : Date := ⟨year, month, day⟩
    if !date.isValid then some (.error .malformed)
    else match timeAfterDate? rest with
      | some (clock, shift, rest) => some (.ok (.temporal (.dateTime date clock shift), rest))
      | none => some (.ok (.temporal (.date date), rest))

/-- Reads a number, date or time. -/
def scalar (s : List Char) : Except Fault (Value × List Char) :=
  match date? s with
  | some step => step
  | none =>
    match clock? s with
    | some (clock, rest) => .ok (.temporal (.time clock), rest)
    | none =>
      match number? s with
      | some step => step
      | none =>
        match specialNumber? s with
        | some found => .ok found
        | none => .error .malformed

end Stencil.Toml
