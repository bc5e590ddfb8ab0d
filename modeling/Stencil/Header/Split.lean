import Stencil.Yaml.Read

/-!
Headers: data in front of the text of a file, between lines of dashes.

A header starts with the dashes that a file starts with and ends at the next line that starts with
dashes. A file whose header is no map of data has no header, and all of it is text.
-/

namespace Stencil.Header

/-- The dashes around a header. -/
def dashes : List Char := ['-', '-', '-']

/-- Splits a text at the first line break that dashes follow. -/
def splitAtDashes : List Char → Option (List Char × List Char)
  | [] => none
  | '\n' :: '-' :: '-' :: '-' :: rest => some ([], rest)
  | c :: rest => (splitAtDashes rest).map fun (before, after) => (c :: before, after)

/-- Splits the text of a file into that of its header, without blanks around it, and the text after the
header. -/
def split (s : List Char) : Option (List Char × List Char) :=
  match s with
  | '-' :: '-' :: '-' :: rest =>
    (splitAtDashes rest).map fun (header, body) =>
      (Text.strip header, body.dropWhile (· == '\n'))
  | _ => none

/-- The fields of a header. -/
abbrev Fields := Assoc Value Value

/-- A file: the fields of its header, if it has one, and its text. -/
structure Document where
  header : Option Fields
  body : String

/-- Separates the header of a file from its text, the header being data that `load` can read. -/
def parseWith (load : String → Except Failure (Option Value)) (content : String) :
    Except Failure Document := do
  match split content.toList with
  | none => return ⟨none, content⟩
  | some (header, body) =>
    match ← load (String.ofList header) with
    | some (.map fields) => return ⟨some fields, String.ofList body⟩
    | _ => return ⟨none, content⟩

/-- Separates the header of a file, which is written in YAML, from its text. -/
def parse (content : String) : Except Failure Document :=
  parseWith Yaml.read content

end Stencil.Header
