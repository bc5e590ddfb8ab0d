import Stencil.Assoc
import Stencil.Failure

/-!
Folders of text files, and paths into them.

A path is a list of names below the folder. Folders inside exist exactly where files lie in them.
-/

namespace Stencil

/-- A folder: how messages name it, and its files by their paths. -/
structure Folder where
  root : String
  files : Assoc (List String) String

/-- The parts of a written path. Empty parts and single points have no meaning. -/
def pathParts (text : String) : List String :=
  ((text.splitOn "/").filter fun part => part != "" && part != ".")

/-- A place that a path leads to: inside of a folder, or so many levels above it and down again. -/
structure Place where
  above : Nat
  names : List String
  deriving DecidableEq, Repr

namespace Place

/-- The place one level up. -/
def up (p : Place) : Place :=
  if p.names.isEmpty then { p with above := p.above + 1 } else { p with names := p.names.dropLast }

/-- The place that a part of a path leads to. -/
def enter (p : Place) (part : String) : Place :=
  if part == ".." then p.up else { p with names := p.names ++ [part] }

end Place

namespace Folder

/-- The written form of a path in the folder. -/
def written (folder : Folder) (names : List String) : String :=
  "/".intercalate (folder.root :: names)

/-- Whether a path leads to a folder. -/
def hasFolder (folder : Folder) (names : List String) : Bool :=
  names.isEmpty || folder.files.keys.any fun file => names.isPrefixOf file && names != file

/-- Whether a path leads to a file. -/
def hasFile (folder : Folder) (names : List String) : Bool :=
  folder.files.has names

/-- Follows the parts of a path, which must run through folders that exist. -/
def follow (folder : Folder) (p : Place) : List String → Except FileFault Place
  | [] => .ok p
  | part :: rest =>
    if 0 < p.above || folder.hasFolder p.names then follow folder (p.enter part) rest
    else if folder.hasFile p.names then .error .notDirectory
    else .error .notFound

/-- The text of the file at a place. Nothing is known of what lies above the folder. -/
def readPlace (folder : Folder) (p : Place) : Except FileFault String :=
  if 0 < p.above then .error (if p.names.isEmpty then .isDirectory else .notFound)
  else
    match folder.files.get? p.names with
    | some text => .ok text
    | none => .error (if folder.hasFolder p.names then .isDirectory else .notFound)

/-- The text of the file at a place. -/
def readAt (folder : Folder) (p : Place) : Except Failure String :=
  (folder.readPlace p).mapError .file

/-- The text of the file that a path leads to. -/
def read (folder : Folder) (path : List String) : Except Failure String :=
  (folder.follow ⟨0, []⟩ path >>= folder.readPlace).mapError .file

/-- Whether a path leads to anything. -/
def exists? (folder : Folder) (path : List String) : Bool :=
  match folder.follow ⟨0, []⟩ path with
  | .ok p => 0 < p.above && p.names.isEmpty
      || p.above == 0 && (folder.hasFile p.names || folder.hasFolder p.names)
  | .error _ => false

/-- The place that a path written in a file leads to from the folder of that file. Parts that lead
nowhere are taken at their word, so `a/..` is where it starts from. -/
def resolve (parent : List String) (text : String) : Place :=
  (pathParts text).foldl Place.enter (parent.foldl Place.enter ⟨0, []⟩)

/-- The written form of a place. -/
def writtenPlace (folder : Folder) (p : Place) : String :=
  "/".intercalate (folder.root :: List.replicate p.above ".." ++ p.names)

end Folder

/-- A text with every kind of line break written as a line feed. -/
def unifyBreaks : List Char → List Char
  | '\r' :: '\n' :: rest => '\n' :: unifyBreaks rest
  | '\r' :: rest => '\n' :: unifyBreaks rest
  | c :: rest => c :: unifyBreaks rest
  | [] => []

end Stencil
