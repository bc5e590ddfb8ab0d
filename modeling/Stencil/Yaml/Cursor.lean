import Stencil.Failure

/-!
Places in a YAML text. A cursor knows the text that is left and the line and column it has come to,
which decide about nesting.
-/

namespace Stencil.Yaml

/-- Why a text cannot be read. -/
inductive Fault where
  /-- It does not follow the grammar, or names something unknown. -/
  | malformed
  /-- It follows the grammar, but a value in it fails for a reason of its own. -/
  | failure (f : Failure)
  deriving DecidableEq, Repr

/-- Whether a character ends a line. -/
def isBreak (c : Char) : Bool :=
  c == '\n' || c == '\r' || c == '\u0085' || c == '\u2028' || c == '\u2029'

/-- Whether a character is a space or tab. -/
def isSpace (c : Char) : Bool :=
  c == ' ' || c == '\t'

/-- Whether a text ends or a line break follows. -/
def atBreak : Option Char → Bool
  | some c => isBreak c
  | none => true

/-- Whether a text ends or white space follows. -/
def atGap : Option Char → Bool
  | some c => isSpace c || isBreak c
  | none => true

/-- Whether a character may stand in a YAML text at all. -/
def isPrintable (c : Char) : Bool :=
  let code := c.toNat
  code == 9 || code == 10 || code == 13 || (0x20 ≤ code && code ≤ 0x7E) || code == 0x85
    || (0xA0 ≤ code && code ≤ 0xD7FF) || (0xE000 ≤ code && code ≤ 0xFFFD) || 0x10000 ≤ code

/-- A place in a text. -/
structure Cursor where
  rest : List Char
  line : Nat := 0
  column : Nat := 0
  /-- How many characters lie before it. -/
  index : Nat := 0

namespace Cursor

/-- The next character. -/
def next (c : Cursor) : Option Char :=
  c.rest.head?

/-- The place one character on. A byte order mark has no width. -/
def advance (c : Cursor) : Cursor :=
  match c.rest with
  | [] => c
  | ch :: rest =>
    if isBreak ch && !(ch == '\r' && rest.head? == some '\n') then
      ⟨rest, c.line + 1, 0, c.index + 1⟩
    else ⟨rest, c.line, if ch == '\uFEFF' then c.column else c.column + 1, c.index + 1⟩

/-- The place so many characters on. -/
def skip : Nat → Cursor → Cursor
  | 0, c => c
  | n + 1, c => skip n c.advance

/-- The characters from a place on that fit, and the place after them. -/
def span (p : Char → Bool) (c : Cursor) : List Char × Cursor :=
  let run := c.rest.takeWhile p
  (run, c.skip run.length)

/-- The place after the spaces that follow. -/
def skipSpaces (c : Cursor) : Cursor :=
  (c.span (· == ' ')).2

/-- The place after the comment that may follow. -/
def skipComment (c : Cursor) : Cursor :=
  if c.next == some '#' then (c.span fun ch => !isBreak ch).2 else c

/-- A line break in its usual form, and the place after it. -/
def lineBreak? (c : Cursor) : Option (Char × Cursor) :=
  match c.rest with
  | '\r' :: '\n' :: _ => some ('\n', c.skip 2)
  | ch :: _ =>
    if ch == '\u2028' || ch == '\u2029' then some (ch, c.advance)
    else if isBreak ch then some ('\n', c.advance)
    else none
  | [] => none

/-- Whether a line that separates documents starts here. -/
def atSeparator (c : Cursor) : Bool :=
  match c.rest with
  | '-' :: '-' :: '-' :: rest => atGap rest.head?
  | '.' :: '.' :: '.' :: rest => atGap rest.head?
  | _ => false

end Cursor

end Stencil.Yaml
