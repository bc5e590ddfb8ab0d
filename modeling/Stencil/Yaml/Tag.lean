import Stencil.Number.Numeral
import Stencil.Value.Temporal
import Stencil.Yaml.Token

/-!
Kinds of nodes. A tag says of what kind a node is; a plain scalar without a tag shows its kind by its
spelling.
-/

namespace Stencil.Yaml

open Stencil.Number

/-- The kind of a node. -/
inductive Tag where
  | null
  | bool
  | int
  | float
  | timestamp
  | text
  | sequence
  | mapping
  /-- The key whose value is merged into the mapping it stands in. -/
  | merge
  /-- The key of a default value. -/
  | default
  | unknown
  deriving DecidableEq, Repr

/-- The words for truth values, in small letters. -/
def truthWords : List (String × Bool) :=
  [("yes", true), ("no", false), ("true", true), ("false", false), ("on", true), ("off", false)]

/-- The spellings of a word that is written in small letters, with a capital, or in capitals. -/
def spellings (word : String) : List String :=
  let capitals := word.toList.map Char.toUpper
  [word, String.ofList (capitals.take 1 ++ word.toList.drop 1), String.ofList capitals]

/-- Whether a text is one of the spellings of a word. -/
def isSpelling (words : List String) (s : String) : Bool :=
  (words.flatMap spellings).contains s

/-- Whether a character is a digit or an underscore. -/
def isGrouped (c : Char) : Bool :=
  c.isDigit || c == '_'

/-- Whether a text starts with a digit and goes on with digits and underscores. -/
def isGroupedNumber : List Char → Bool
  | c :: rest => c.isDigit && rest.all isGrouped
  | [] => false

/-- Whether an exponent, with a sign that must be there, follows, or nothing. -/
def isExponent : List Char → Bool
  | [] => true
  | mark :: sign :: digits =>
    (mark == 'e' || mark == 'E') && (sign == '+' || sign == '-') && !digits.isEmpty
      && digits.all Char.isDigit
  | _ => false

/-- Splits a text at every colon. -/
def splitColons : List Char → List Char × List (List Char)
  | [] => ([], [])
  | c :: rest =>
    let (part, parts) := splitColons rest
    if c == ':' then ([], part :: parts) else (c :: part, parts)

/-- Whether a text is a number from zero to fifty-nine. -/
def isSixtieth : List Char → Bool
  | [a] => a.isDigit
  | [a, b] => '0' ≤ a && a ≤ '5' && b.isDigit
  | _ => false

/-- Whether a text has parts between colons of which each counts sixtieths of the one before. -/
def isSexagesimal (first : List Char → Bool) (s : List Char) : Bool :=
  let (head, parts) := splitColons s
  !parts.isEmpty && first head && parts.all isSixtieth

/-- Whether a text spells a number with a point. -/
def isFloat (s : List Char) : Bool :=
  let unsigned := (splitSign s).2
  let whole := unsigned.takeWhile (· != '.')
  match unsigned.dropWhile (· != '.') with
  | [] => false
  | _ :: after =>
    let word := String.ofList after
    (isGroupedNumber whole && isExponent (after.dropWhile isGrouped))
      || (s.head? == some '.'
        && (isGroupedNumber (after.takeWhile isGrouped) && isExponent (after.dropWhile isGrouped)
          || ["nan", "NaN", "NAN"].contains word))
      || (whole.isEmpty && ["inf", "Inf", "INF"].contains word)
      || (isSexagesimal isGroupedNumber whole && after.all isGrouped)

/-- Whether a text that is not empty has fitting characters only. -/
def isRun (p : Char → Bool) (s : List Char) : Bool :=
  !s.isEmpty && s.all p

/-- Whether a text is a number that does not start with a zero, apart from zero itself. -/
def isDecimal (s : List Char) : Bool :=
  isGroupedNumber s && s.head? != some '0'

/-- Whether a text spells an integer: decimal, binary, octal, hexadecimal, or in sixtieths. -/
def isInt (s : List Char) : Bool :=
  match (splitSign s).2 with
  | '0' :: 'b' :: digits => isRun (fun c => c == '0' || c == '1' || c == '_') digits
  | '0' :: 'x' :: digits => isRun (fun c => (hexValue? c).isSome || c == '_') digits
  | ['0'] => true
  | '0' :: digits => digits.all fun c => '0' ≤ c && c ≤ '7' || c == '_'
  | unsigned => isDecimal unsigned || isSexagesimal isDecimal unsigned

/-- A date and time as it is written. -/
structure Stamp where
  date : Date
  clock : Option Clock
  offset : Option Int

/-- Reads up to `most` digits, at least `least`. -/
def digits? (least most : Nat) (s : List Char) : Option (Nat × List Char) :=
  let run := (s.take most).takeWhile Char.isDigit
  if run.length < least then none else some (digitsValue run, s.drop run.length)

/-- Reads one given character. -/
def char? (c : Char) : List Char → Option (List Char)
  | d :: rest => if c == d then some rest else none
  | [] => none

/-- Reads the fraction of a second, if there is one, in microseconds. -/
def microseconds : List Char → Nat × List Char
  | '.' :: rest =>
    let run := rest.takeWhile Char.isDigit
    (digitsValue ((run ++ List.replicate 6 '0').take 6), rest.dropWhile Char.isDigit)
  | s => (0, s)

/-- Reads a distance from universal time in minutes, or nothing, up to the end of the text. -/
def offset? (s : List Char) : Option (Option Int) :=
  match s with
  | [] => some none
  | ['Z'] => some (some 0)
  | mark :: rest =>
    if mark != '+' && mark != '-' then none
    else do
      let (hours, rest) ← digits? 1 2 rest
      let minutes ← match rest with
        | [] => some 0
        | ':' :: rest => do
          let (minutes, rest) ← digits? 2 2 rest
          if rest.isEmpty then some minutes else none
        | _ => none
      let total : Int := 60 * hours + minutes
      some (some (if mark == '-' then -total else total))

/-- The time of day that follows a date, up to the end of the text. -/
def stampTime? (s : List Char) : Option (Clock × Option Int) := do
  let s ← match s with
    | 'T' :: rest => some rest
    | 't' :: rest => some rest
    | c :: rest => if isSpace c then some (rest.dropWhile isSpace) else none
    | [] => none
  let (hour, s) ← digits? 1 2 s
  let (minute, s) ← digits? 2 2 (← char? ':' s)
  let (second, s) ← digits? 2 2 (← char? ':' s)
  let (fraction, s) := microseconds s
  let offset ← offset? (s.dropWhile isSpace)
  some (⟨hour, minute, second, fraction⟩, offset)

/-- Reads a whole text as a date, with a time or without. White space at the end belongs to a time
only if a distance from universal time follows it. -/
def stamp? (s : List Char) : Option Stamp := do
  let (year, s) ← digits? 4 4 s
  let (month, s) ← digits? 1 2 (← char? '-' s)
  let (day, s) ← digits? 1 2 (← char? '-' s)
  if s.isEmpty then some ⟨⟨year, month, day⟩, none, none⟩
  else
    let (clock, offset) ← stampTime? s
    some ⟨⟨year, month, day⟩, some clock, offset⟩

/-- Whether a text spells a date, whose month and day have two digits unless a time follows. -/
def isTimestamp (s : List Char) : Bool :=
  match stamp? s with
  | some stamp => stamp.clock.isSome || s.length == 10
  | none => false

/-- The kind that the spelling of a plain scalar shows. -/
def Tag.ofPlain (s : String) : Tag :=
  let cs := s.toList
  if isSpelling (truthWords.map Prod.fst) s then .bool
  else if isFloat cs then .float
  else if isInt cs then .int
  else if s == "<<" then .merge
  else if s == "" || s == "~" || isSpelling ["null"] s then .null
  else if isTimestamp cs then .timestamp
  else if s == "=" then .default
  else .text

/-- The kind that a full tag names. -/
def Tag.ofName (name : String) : Tag :=
  let words : List (String × Tag) :=
    [ ("null", .null), ("bool", .bool), ("int", .int), ("float", .float),
      ("timestamp", .timestamp), ("str", .text), ("seq", .sequence), ("map", .mapping),
      ("merge", .merge), ("value", .default) ]
  let beginning := "tag:yaml.org,2002:"
  if beginning.toList.isPrefixOf name.toList then
    (words.lookup (String.ofList (name.toList.drop beginning.length))).getD .unknown
  else .unknown

/-- The full tag that a written one stands for. The kind is left open by a lone exclamation mark. -/
def TagName.full? (name : TagName) : Except Fault String :=
  match name.handle with
  | none => .ok name.suffix
  | some "!" => .ok ("!" ++ name.suffix)
  | some "!!" => .ok ("tag:yaml.org,2002:" ++ name.suffix)
  | some _ => .error .malformed

end Stencil.Yaml
