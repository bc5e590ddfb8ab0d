/-!
Parts of texts.
-/

namespace Stencil.Text

/-- Whether a text occurs in another. -/
def isPart (part : List Char) : List Char → Bool
  | [] => part.isEmpty
  | c :: rest => part.isPrefixOf (c :: rest) || isPart part rest

end Stencil.Text
