import Stencil.Text.Visible

/-!
Quoted text, as messages show it: in single quotes unless only double quotes avoid an escape, with
escapes for the quote, the backslash and every character that is not visible.
-/

namespace Stencil.Text

/-- The hexadecimal digits of a number, padded with zeros to a given width. -/
def hexDigits (width n : Nat) : List Char :=
  let digits := Nat.toDigits 16 n
  List.replicate (width - digits.length) '0' ++ digits

/-- The quote that surrounds a quoted text. -/
def quoteFor (s : List Char) : Char :=
  if s.contains '\'' && !s.contains '"' then '"' else '\''

/-- A character between quotes of a given kind. -/
def quoteChar (mark c : Char) : List Char :=
  if c == mark || c == '\\' then ['\\', c]
  else if c == '\n' then ['\\', 'n']
  else if c == '\r' then ['\\', 'r']
  else if c == '\t' then ['\\', 't']
  else if isVisible c then [c]
  else if c.toNat < 0x100 then '\\' :: 'x' :: hexDigits 2 c.toNat
  else if c.toNat < 0x10000 then '\\' :: 'u' :: hexDigits 4 c.toNat
  else '\\' :: 'U' :: hexDigits 8 c.toNat

/-- A text in quotes. -/
def quote (s : List Char) : List Char :=
  let mark := quoteFor s
  mark :: s.flatMap (quoteChar mark) ++ [mark]

end Stencil.Text
