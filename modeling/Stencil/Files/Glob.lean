import Stencil.Files.Folder

/-!
Patterns for file names: `*` stands for any characters, `?` for one, a bracket for one of a set, and
the part `**` for folders at any depth.
-/

namespace Stencil.Glob

/-- A run of characters of a bracket. -/
structure CharRun where
  first : Char
  last : Char
  deriving DecidableEq, Repr

/-- A piece of a pattern for a name. -/
inductive Piece where
  | exact (c : Char)
  | anyChar
  | anyText
  | oneOf (negated : Bool) (runs : List CharRun)
  deriving DecidableEq, Repr

/-- The runs that the inside of a bracket spells. -/
def charRuns : List Char → List CharRun
  | a :: '-' :: b :: rest => ⟨a, b⟩ :: charRuns rest
  | c :: rest => ⟨c, c⟩ :: charRuns rest
  | [] => []

/-- Splits a text after an opening bracket into the inside of the bracket and the rest. A closing
bracket at the start belongs to the inside. -/
def splitBracket (s : List Char) : Option (Bool × List Char × List Char) :=
  let (negated, body) := match s with
    | '!' :: rest => (true, rest)
    | rest => (false, rest)
  match body with
  | [] => none
  | first :: rest =>
    match rest.dropWhile (· != ']') with
    | _ :: after => some (negated, first :: rest.takeWhile (· != ']'), after)
    | [] => none

/-- The pieces of a pattern for a name. A bracket that is not closed stands for itself. -/
def pieces (s : List Char) : List Piece :=
  match s with
  | [] => []
  | '*' :: rest => .anyText :: pieces rest
  | '?' :: rest => .anyChar :: pieces rest
  | '[' :: rest =>
    match splitBracket rest with
    | some (negated, inside, after) =>
      if after.length < rest.length then .oneOf negated (charRuns inside) :: pieces after
      else .exact '[' :: pieces rest
    | none => .exact '[' :: pieces rest
  | c :: rest => .exact c :: pieces rest
termination_by s.length

/-- Whether one character fits a piece. -/
def Piece.admits (c : Char) : Piece → Bool
  | .exact d => c == d
  | .anyChar | .anyText => true
  | .oneOf negated runs => (runs.any fun run => run.first ≤ c && c ≤ run.last) != negated

/-- Whether a name fits pieces. -/
def fits : List Piece → List Char → Bool
  | [], s => s.isEmpty
  | .anyText :: rest, [] => fits rest []
  | .anyText :: rest, c :: cs => fits rest (c :: cs) || fits (.anyText :: rest) cs
  | _ :: _, [] => false
  | piece :: rest, c :: cs => piece.admits c && fits rest cs
termination_by pattern s => pattern.length + s.length

/-- The folders at a path and below it, itself first. -/
def foldersBelow (folder : Folder) (names : List String) : List (List String) :=
  let inside := folder.files.keys.flatMap fun file =>
    if names.isPrefixOf file then
      (List.range (file.length - names.length)).map fun i => file.take (names.length + i)
    else []
  names :: (inside.filter (· != names)).eraseDups

/-- The names that lie directly in a folder. -/
def childNames (folder : Folder) (names : List String) : List String :=
  (folder.files.keys.filterMap fun file =>
    if names.isPrefixOf file then file[names.length]? else none).eraseDups

/-- The paths that the parts of a pattern lead to from a path. -/
def expand (folder : Folder) (foldersOnly : Bool) :
    List String → List String → List (List String)
  | [], names =>
    if !foldersOnly || folder.hasFolder names then [names] else []
  | part :: rest, names =>
    if !folder.hasFolder names then []
    else if part == "**" then
      ((foldersBelow folder names).flatMap fun below => expand folder foldersOnly rest below).eraseDups
    else
      let pattern := pieces part.toList
      let fitting := (childNames folder names).filter fun name => fits pattern name.toList
      fitting.flatMap fun name => expand folder foldersOnly rest (names ++ [name])

/-- The order of paths: name by name. -/
def pathLe : List String → List String → Bool
  | [], _ => true
  | _ :: _, [] => false
  | a :: as, b :: bs => if a == b then pathLe as bs else a < b

/-- The paths in a folder that a pattern fits, sorted. A pattern has to have parts, may not start at
the root, and has `**` only as a part of its own. -/
def paths (folder : Folder) (pattern : String) : Except Failure (List (List String)) :=
  let parts := pathParts pattern
  if pattern.startsWith "/" then .error (.badFilePattern .absolute)
  else if parts.isEmpty then .error (.badFilePattern .empty)
  else if parts.any fun part => part != "**" && 1 < (part.splitOn "**").length then
    .error (.badFilePattern .misplacedStars)
  else .ok ((expand folder (pattern.endsWith "/") parts []).mergeSort pathLe)

end Stencil.Glob
