import Stencil.Markup.Kind

/-!
Why template text can be refused, and where.
-/

namespace Stencil.Markup

/-- A block that is open: its kind and the offset of its opening marker. -/
structure OpenBlock where
  kind : BlockKind
  start : Nat
  deriving DecidableEq, Repr

/-- What is wrong with the markers of a template. -/
inductive Fault where
  /-- An else marker outside of a conditional, or a second one. -/
  | strayElse
  /-- A loop whose item would hide its own array. -/
  | itemHidesArray (name : String)
  /-- A closing marker that does not fit the innermost open block. -/
  | strayClose (kind : BlockKind) (inside : Option OpenBlock)
  /-- A block that is still open at the end. -/
  | unclosed (block : OpenBlock)
  deriving DecidableEq, Repr

/-- A fault and the offset of the marker to blame. -/
structure MarkupError where
  fault : Fault
  position : Nat
  deriving DecidableEq, Repr

/-- The opening marker of a kind of block, without its details. -/
def BlockKind.opening (kind : BlockKind) : String :=
  "\x7b\x7b#" ++ kind.word ++ "\x7d\x7d"

/-- The closing marker of a kind of block. -/
def BlockKind.closing (kind : BlockKind) : String :=
  "\x7b\x7b/" ++ kind.word ++ "\x7d\x7d"

/-- The wording of a fault. -/
def Fault.message : Fault → String
  | .strayElse => "Unexpected \x7b\x7b#else\x7d\x7d outside of an \x7b\x7b#if\x7d\x7d block"
  | .itemHidesArray name => s!"Loop item name '{name}' must differ from the array name"
  | .strayClose kind none => "Unexpected " ++ kind.closing
  | .strayClose kind (some block) =>
    "Unexpected " ++ kind.closing ++ " while " ++ block.kind.opening
      ++ s!" at offset {block.start} is open"
  | .unclosed block =>
    "Unclosed " ++ block.kind.opening ++ s!" at offset {block.start}; expected "
      ++ block.kind.closing

end Stencil.Markup
