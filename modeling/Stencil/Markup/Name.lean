import Stencil.Text.Blank

/-!
The small pieces that markers are made of: fixed spellings, blanks, names and dotted paths. A reader
gives what it read and the rest of the text, or nothing if the text starts differently.
-/

namespace Stencil.Markup

/-- Whether a character can start a name. -/
def isNameStart (c : Char) : Bool :=
  c.isAlpha || c == '_'

/-- Whether a character can continue a name. -/
def isNameChar (c : Char) : Bool :=
  c.isAlphanum || c == '_'

/-- Whether a character can continue the name of a region. -/
def isRegionChar (c : Char) : Bool :=
  isNameChar c || c == '.' || c == '-'

/-- Reads a fixed spelling and gives the rest. -/
def expect : List Char → List Char → Option (List Char)
  | [], s => some s
  | p :: ps, c :: cs => if p == c then expect ps cs else none
  | _ :: _, [] => none

/-- Skips blanks, of which there must be at least one. -/
def skipBlanks? : List Char → Option (List Char)
  | c :: rest => if Text.isBlank c then some (rest.dropWhile Text.isBlank) else none
  | [] => none

/-- Reads a name: a letter or underscore, then letters, digits and underscores. -/
def readName? : List Char → Option (List Char × List Char)
  | c :: rest =>
    if isNameStart c then some (c :: rest.takeWhile isNameChar, rest.dropWhile isNameChar) else none
  | [] => none

/-- Reads what can follow the first character of a path: name characters, and dots that are followed
by one. -/
def readPathTail : List Char → List Char × List Char
  | [] => ([], [])
  | '.' :: c :: rest =>
    if isNameChar c then
      let (tail, after) := readPathTail rest
      ('.' :: c :: tail, after)
    else ([], '.' :: c :: rest)
  | c :: rest =>
    if isNameChar c then
      let (tail, after) := readPathTail rest
      (c :: tail, after)
    else ([], c :: rest)

/-- Reads a dotted path, whose first segment is a name. -/
def readPath? : List Char → Option (List Char × List Char)
  | c :: rest =>
    if isNameStart c then
      let (tail, after) := readPathTail rest
      some (c :: tail, after)
    else none
  | [] => none

/-- Reads the name of a region. -/
def readRegionName? : List Char → Option (List Char × List Char)
  | c :: rest =>
    if isNameChar c then some (c :: rest.takeWhile isRegionChar, rest.dropWhile isRegionChar)
    else none
  | [] => none

/-- Whether a whole text is a dotted path. -/
def isPath (s : List Char) : Bool :=
  match readPath? s with
  | some (_, []) => true
  | _ => false

/-- Whether a whole text can name a region. -/
def isRegionName (s : List Char) : Bool :=
  match readRegionName? s with
  | some (_, []) => true
  | _ => false

end Stencil.Markup
