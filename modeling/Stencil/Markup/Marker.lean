import Stencil.Markup.Kind
import Stencil.Markup.Name

/-!
Markers, the pieces of template text with a meaning of their own, and their recognition.

At a given place at most one marker can start; the readers below are tried in turn, so a doubly braced
form wins over a singly braced one.
-/

namespace Stencil.Markup

/-- A marker without its exact spelling. -/
inductive Marker where
  | ifOpen (condition : String)
  | ifElse
  | ifClose
  | eachOpen (array item : String)
  | eachClose
  | regionOpen (kind : RegionKind) (name : String)
  | regionClose (kind : RegionKind)
  /-- A function call with the text between its parentheses. -/
  | call (name arguments : String)
  | slot (path : String)
  deriving DecidableEq, Repr

namespace Marker

/-- Two opening braces. -/
def opening : List Char := ['{', '{']

/-- Two closing braces. -/
def closing : List Char := ['}', '}']

/-- Reads a marker whose spelling is fixed. -/
def fixed? (marker : Marker) (word : String) (s : List Char) : Option (Marker × List Char) := do
  let rest ← expect (opening ++ word.toList ++ closing) s
  some (marker, rest)

/-- Reads the opening of a conditional. The condition runs up to the first closing brace and must be
set off by a blank; the blanks around it are no part of it. -/
def ifOpen? (s : List Char) : Option (Marker × List Char) := do
  let body ← expect (opening ++ "#if".toList) s
  let inside := body.takeWhile (· != '}')
  let rest ← expect closing (body.dropWhile (· != '}'))
  match inside with
  | c :: _ :: _ =>
    if Text.isBlank c then some (.ifOpen (String.ofList (Text.strip inside)), rest) else none
  | _ => none

/-- Reads the opening of a loop. -/
def eachOpen? (s : List Char) : Option (Marker × List Char) := do
  let s ← expect (opening ++ "#each".toList) s
  let (array, s) ← readPath? (← skipBlanks? s)
  let s ← expect "as".toList (← skipBlanks? s)
  let (item, s) ← readName? (← skipBlanks? s)
  let rest ← expect closing (s.dropWhile Text.isBlank)
  some (.eachOpen (String.ofList array) (String.ofList item), rest)

/-- Reads the opening of a region of a given kind. -/
def regionOpen? (kind : RegionKind) (s : List Char) : Option (Marker × List Char) := do
  let s ← expect (opening ++ '#' :: kind.word.toList) s
  let (name, s) ← readRegionName? (← skipBlanks? s)
  let rest ← expect closing (s.dropWhile Text.isBlank)
  some (.regionOpen kind (String.ofList name), rest)

/-- Reads the text of a call's arguments up to the first closing parenthesis that is followed by two
braces. The arguments stand on one line. -/
def readArguments? (s : List Char) : Option (List Char × List Char) :=
  match expect (')' :: closing) s with
  | some rest => some ([], rest)
  | none =>
    match s with
    | [] => none
    | c :: cs =>
      if c == '\n' then none
      else (readArguments? cs).map fun (arguments, rest) => (c :: arguments, rest)

/-- Reads a function call. -/
def call? (s : List Char) : Option (Marker × List Char) := do
  let (name, s) ← readName? (← expect opening s)
  let (arguments, rest) ← readArguments? (← expect ['('] s)
  some (.call (String.ofList name) (String.ofList arguments), rest)

/-- Reads a variable between given braces. -/
def slot? (before after s : List Char) : Option (Marker × List Char) := do
  let (path, s) ← readPath? (← expect before s)
  let rest ← expect after s
  some (.slot (String.ofList path), rest)

/-- Reads the marker at the start of a text, if there is one. -/
def read? (s : List Char) : Option (Marker × List Char) :=
  ifOpen? s
    <|> fixed? .ifElse "#else" s
    <|> fixed? .ifClose "/if" s
    <|> eachOpen? s
    <|> fixed? .eachClose "/each" s
    <|> regionOpen? .block s
    <|> regionOpen? .sect s
    <|> fixed? (.regionClose .block) "/block" s
    <|> fixed? (.regionClose .sect) "/section" s
    <|> call? s
    <|> slot? opening closing s
    <|> slot? ['{'] ['}'] s

end Marker

/-- A marker and its exact spelling. -/
structure Token where
  marker : Marker
  spelling : String
  deriving DecidableEq, Repr

/-- A piece of template text: literal text up to the next marker, or a marker. -/
inductive Piece where
  | text (s : List Char)
  | token (t : Token)
  deriving DecidableEq, Repr

/-- The length of a piece in characters. -/
def Piece.length : Piece → Nat
  | .text s => s.length
  | .token t => t.spelling.length

/-- Puts a character of literal text in front of pieces. -/
def Piece.cons (c : Char) : List Piece → List Piece
  | .text s :: rest => .text (c :: s) :: rest
  | pieces => .text [c] :: pieces

/-- Cuts template text into its pieces. -/
def scan (s : List Char) : List Piece :=
  match s with
  | [] => []
  | c :: cs =>
    match Marker.read? (c :: cs) with
    | some (marker, rest) =>
      if rest.length < (c :: cs).length then
        .token ⟨marker, String.ofList ((c :: cs).take ((c :: cs).length - rest.length))⟩ :: scan rest
      else Piece.cons c (scan cs)
    | none => Piece.cons c (scan cs)
termination_by s.length
decreasing_by
  all_goals simp only [List.length_cons] at *
  all_goals omega

end Stencil.Markup
