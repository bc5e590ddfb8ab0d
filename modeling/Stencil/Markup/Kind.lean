/-!
The kinds of blocks that template text can open.
-/

namespace Stencil.Markup

/-- The two kinds of named regions: a block is replaced by a child template, a section may also be
extended. -/
inductive RegionKind where
  | block
  | sect
  deriving DecidableEq, Repr, Inhabited

/-- The word that a marker uses for a kind of region. -/
def RegionKind.word : RegionKind → String
  | .block => "block"
  | .sect => "section"

/-- The kinds of blocks that are opened by one marker and closed by another. -/
inductive BlockKind where
  | conditional
  | loop
  | region (kind : RegionKind)
  deriving DecidableEq, Repr, Inhabited

/-- The word that opens and closes a kind of block. -/
def BlockKind.word : BlockKind → String
  | .conditional => "if"
  | .loop => "each"
  | .region kind => kind.word

end Stencil.Markup
