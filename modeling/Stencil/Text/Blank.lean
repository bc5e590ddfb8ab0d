/-!
White space: which characters are blank, trimming, and collapsing runs of blanks to single spaces.
-/

namespace Stencil.Text

/-- White space: the Unicode separators, the ASCII controls from tab to carriage return, the four
information separators and the next-line control. The zero-width space is not blank. -/
def isBlank (c : Char) : Bool :=
  let code := c.toNat
  (9 ≤ code && code ≤ 13) || (28 ≤ code && code ≤ 32) || code == 0x85 || code == 0xA0
    || code == 0x1680 || (0x2000 ≤ code && code ≤ 0x200A) || code == 0x2028 || code == 0x2029
    || code == 0x202F || code == 0x205F || code == 0x3000

/-- Drops the blanks at the start. -/
def stripStart (s : List Char) : List Char :=
  s.dropWhile isBlank

/-- Drops the blanks at the end. -/
def stripEnd (s : List Char) : List Char :=
  (s.reverse.dropWhile isBlank).reverse

/-- Drops the blanks at both ends. -/
def strip (s : List Char) : List Char :=
  stripEnd (stripStart s)

/-- Writes every run of blanks as a single space. The space stands where the run ends. -/
def squeeze : List Char → List Char
  | [] => []
  | c :: rest =>
    if isBlank c then
      match rest with
      | [] => [' ']
      | next :: _ => if isBlank next then squeeze rest else ' ' :: squeeze rest
    else c :: squeeze rest

/-- Collapses the white space of a text: single spaces between words, none at the ends. -/
def collapse (s : List Char) : List Char :=
  strip (squeeze s)

end Stencil.Text
