/-!
Escaping for hypertext: the characters that could open a tag, an entity or an attribute value are
written as entities.
-/

namespace Stencil.Text

/-- The escaped form of a character. -/
def escapeChar : Char → List Char
  | '&' => ['&', 'a', 'm', 'p', ';']
  | '<' => ['&', 'l', 't', ';']
  | '>' => ['&', 'g', 't', ';']
  | '"' => ['&', 'q', 'u', 'o', 't', ';']
  | '\'' => ['&', '#', 'x', '2', '7', ';']
  | c => [c]

/-- The escaped form of a text. -/
def escape (s : List Char) : List Char :=
  s.flatMap escapeChar

end Stencil.Text
