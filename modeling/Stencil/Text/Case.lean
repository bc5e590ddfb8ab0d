import Stencil.Text.CaseTable

/-!
Full case mappings. A mapping may lengthen a text (`ß` has the capital form `SS`), and the small form
of a capital sigma depends on its neighbours.
-/

namespace Stencil.Text

/-- The single-character counterpart that a table of runs gives, the character itself by default. -/
def mapCase (runs : List CaseRun) (c : Char) : Char :=
  match runs.findSome? fun run => run.apply? c.toNat with
  | some code => Char.ofNat code
  | none => c

/-- The capital form of a character, which may be several characters long. -/
def upperChar (c : Char) : List Char :=
  if c.toNat < 128 then [c.toUpper]
  else
    match upperExpansions.lookup c.toNat with
    | some codes => codes.map Char.ofNat
    | none => [mapCase upperRuns c]

/-- The small form of a character on its own, as a single character. -/
def foldChar (c : Char) : Char :=
  if c.toNat < 128 then c.toLower
  else if c == 'İ' then 'i'
  else mapCase lowerRuns c

/-- Whether a text, read away from a sigma, reaches a cased character before any other that counts. -/
def reachesCased (s : List Char) : Bool :=
  match s.dropWhile fun c => inRanges caseIgnorableRanges c.toNat with
  | [] => false
  | c :: _ => inRanges casedRanges c.toNat

/-- The small form of a character between what stands `before` it, nearest first, and `after` it. A
capital sigma at the end of a word has a form of its own. -/
def lowerChar (before : List Char) (c : Char) (after : List Char) : List Char :=
  if c == 'Σ' then [if reachesCased before && !reachesCased after then 'ς' else 'σ']
  else if c == 'İ' then ['i', '\u0307']
  else [foldChar c]

/-- The small form of a text that follows `before`, which is given nearest first. -/
def lowerAfter (before : List Char) : List Char → List Char
  | [] => []
  | c :: rest => lowerChar before c rest ++ lowerAfter (c :: before) rest

/-- The capital form of a text. -/
def upper (s : List Char) : List Char :=
  s.flatMap upperChar

/-- The small form of a text. -/
def lower (s : List Char) : List Char :=
  lowerAfter [] s

/-- A text with the capital form of its first character. -/
def capitalize : List Char → List Char
  | [] => []
  | c :: rest => upperChar c ++ rest

end Stencil.Text
