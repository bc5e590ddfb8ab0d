import Stencil.Markup.Kind

/-!
How markers are written.
-/

namespace Stencil.Markup

/-- A marker with a given inside. -/
def spellMarker (inside : String) : String :=
  "\x7b\x7b" ++ inside ++ "\x7d\x7d"

/-- A block of a kind: its opening marker with the details, its body, and its closing marker. -/
def spellBlock (kind : BlockKind) (details body : String) : String :=
  spellMarker ("#" ++ kind.word ++ " " ++ details) ++ body ++ spellMarker ("/" ++ kind.word)

/-- A named region. -/
def spellRegion (kind : RegionKind) (name body : String) : String :=
  spellBlock (.region kind) name body

/-- A variable in single braces. -/
def spellSlot (path : String) : String :=
  "\x7b" ++ path ++ "\x7d"

end Stencil.Markup
