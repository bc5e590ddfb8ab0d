import Stencil.Yaml.Cursor

/-!
Scalars of YAML: plain, in quotes, and as blocks of lines. A line break inside a scalar becomes a
space, and an empty line a line break, except where a block keeps its lines.
-/

namespace Stencil.Yaml

/-- What a folded line break leaves: a space, unless empty lines follow or the break is a special one. -/
def foldBreak (mark : Char) (empty : List Char) : List Char :=
  if mark != '\n' then mark :: empty else if empty.isEmpty then [' '] else empty

/-! ### Plain scalars -/

/-- Whether a character has a meaning of its own inside brackets. -/
def isFlowMark (c : Char) : Bool :=
  c == ',' || c == '[' || c == ']' || c == '{' || c == '}'

/-- The characters of a plain scalar up to the next white space or mark. -/
def plainRun (inFlow : Bool) : List Char → List Char
  | [] => []
  | c :: rest =>
    let ends := isSpace c || isBreak c
      || (c == ':' && (atGap rest.head? || (inFlow && rest.head?.any isFlowMark)))
      || (inFlow && (isFlowMark c || c == '?'))
    if ends then [] else c :: plainRun inFlow rest

/-- The empty lines after a line break inside a plain scalar. Nothing is given where a separator of
documents follows. -/
def plainBreaks : Nat → Cursor → Option (List Char × Cursor)
  | 0, c => some ([], c)
  | room + 1, c =>
    match c.skipSpaces.lineBreak? with
    | none => some ([], c.skipSpaces)
    | some (mark, c) =>
      if c.atSeparator then none
      else do
        let (marks, c) ← plainBreaks room c
        some (mark :: marks, c)

/-- White space inside or after a plain scalar: the text it stands for inside, the place after it, and
whether it had a line break. No text is given where the scalar has to end. -/
def plainGap (c : Cursor) : List Char × Cursor × Bool :=
  let (blanks, after) := c.span (· == ' ')
  match after.lineBreak? with
  | none => (blanks, after, false)
  | some (mark, c) =>
    if c.atSeparator then ([], c, true)
    else match plainBreaks c.rest.length c with
      | some (marks, c) => (foldBreak mark marks, c, true)
      | none => ([], c, true)

/-- Reads a plain scalar: its text, the place after it and the white space that follows, and whether
that had a line break. -/
def plainScalar (inFlow : Bool) (indent : Int) :
    Nat → List Char → Bool → Cursor → List Char × Cursor × Bool
  | 0, _, broke, c => ([], c, broke)
  | room + 1, gap, broke, c =>
    let run := if c.next == some '#' then [] else plainRun inFlow c.rest
    if run.isEmpty then ([], c, broke)
    else
      let (following, after, broke) := plainGap (c.skip run.length)
      if following.isEmpty || after.next == some '#' || (!inFlow && (after.column : Int) < indent) then
        (gap ++ run, after, broke)
      else
        let (text, c, broke) := plainScalar inFlow indent room following broke after
        (gap ++ run ++ text, c, broke)

/-! ### Scalars in quotes -/

/-- The character that an escape of one letter stands for. -/
def escaped? : Char → Option Char
  | '0' => some '\x00'
  | 'a' => some '\x07'
  | 'b' => some '\x08'
  | 't' => some '\t'
  | '\t' => some '\t'
  | 'n' => some '\n'
  | 'v' => some '\x0b'
  | 'f' => some '\x0c'
  | 'r' => some '\r'
  | 'e' => some '\x1b'
  | ' ' => some ' '
  | '"' => some '"'
  | '\\' => some '\\'
  | '/' => some '/'
  | 'N' => some '\u0085'
  | '_' => some '\u00a0'
  | 'L' => some '\u2028'
  | 'P' => some '\u2029'
  | _ => none

/-- How many digits an escape by code has. -/
def codeLength? : Char → Option Nat
  | 'x' => some 2
  | 'u' => some 4
  | 'U' => some 8
  | _ => none

/-- The value of a hexadecimal digit. -/
def hexValue? (c : Char) : Option Nat :=
  if c.isDigit then some (c.toNat - 48)
  else if 'a' ≤ c && c ≤ 'f' then some (c.toNat - 87)
  else if 'A' ≤ c && c ≤ 'F' then some (c.toNat - 55)
  else none

/-- The value of hexadecimal digits. -/
def hexNumber? : List Char → Option Nat
  | digits => digits.foldlM (fun n c => do return 16 * n + (← hexValue? c)) 0

/-- The empty lines after a line break in quotes. A separator of documents may not stand there. -/
def quotedBreaks : Nat → Cursor → Except Fault (List Char × Cursor)
  | 0, c => .ok ([], c)
  | room + 1, c =>
    if c.atSeparator then .error .malformed
    else
      let after := (c.span isSpace).2
      match after.lineBreak? with
      | none => .ok ([], after)
      | some (mark, c) => do
        let (marks, c) ← quotedBreaks room c
        return (mark :: marks, c)

/-- Reads an escape after its backslash. -/
def escape (c : Cursor) : Except Fault (List Char × Cursor) :=
  match c.rest with
  | [] => .error .malformed
  | ch :: rest =>
    match escaped? ch, codeLength? ch with
    | some e, _ => .ok ([e], c.advance)
    | none, some length =>
      let digits := rest.take length
      match hexNumber? digits with
      | some code =>
        if digits.length < length then .error .malformed
        else if 0x10FFFF < code then .error (.failure .impossibleScalar)
        else .ok ([Char.ofNat code], c.skip (length + 1))
      | none => .error .malformed
    | none, none =>
      match c.lineBreak? with
      | some (_, after) => quotedBreaks after.rest.length after
      | none => .error .malformed

/-- White space inside quotes: a line break is folded, anything else kept. -/
def quotedGap (c : Cursor) : Except Fault (List Char × Cursor) := do
  let (blanks, after) := c.span isSpace
  match after.next, after.lineBreak? with
  | none, _ => throw .malformed
  | _, none => return (blanks, after)
  | _, some (mark, c) =>
    let (marks, c) ← quotedBreaks c.rest.length c
    return (foldBreak mark marks, c)

/-- Reads a scalar up to its closing quote. -/
def quotedScalar (mark : Char) : Nat → Cursor → Except Fault (List Char × Cursor)
  | 0, _ => .error .malformed
  | room + 1, c =>
    match c.rest with
    | [] => .error .malformed
    | ch :: rest =>
      if ch == mark then
        if mark == '\'' && rest.head? == some '\'' then do
          let (text, c) ← quotedScalar mark room (c.skip 2)
          return (ch :: text, c)
        else .ok ([], c.advance)
      else do
        let (piece, c) ←
          if isSpace ch || isBreak ch then quotedGap c
          else if mark == '"' && ch == '\\' then escape c.advance
          else pure ([ch], c.advance)
        let (text, c) ← quotedScalar mark room c
        return (piece ++ text, c)

/-! ### Blocks of lines -/

/-- What a block does with the line breaks at its end. -/
inductive Chomp where
  | clip
  | strip
  | keep
  deriving DecidableEq, Repr

/-- Reads a sign that says what to do with the line breaks at the end. -/
def chomp? (c : Cursor) : Option (Chomp × Cursor) :=
  match c.next with
  | some '+' => some (.keep, c.advance)
  | some '-' => some (.strip, c.advance)
  | _ => none

/-- Reads a digit that says how far a block is indented. -/
def indentDigit? (c : Cursor) : Except Fault (Option Nat × Cursor) :=
  match c.next with
  | some ch =>
    if ch == '0' then .error .malformed
    else if ch.isDigit then .ok (some (ch.toNat - 48), c.advance)
    else .ok (none, c)
  | none => .ok (none, c)

/-- Reads the header of a block: what to do at its end, and how far it is indented. -/
def blockHeader (c : Cursor) : Except Fault (Chomp × Option Nat × Cursor) := do
  let (chomp, depth, c) ← match chomp? c with
    | some (chomp, c) => do
      let (depth, c) ← indentDigit? c
      pure (chomp, depth, c)
    | none => do
      let (depth, after) ← indentDigit? c
      match depth, chomp? after with
      | some depth, some (chomp, c) => pure (chomp, some depth, c)
      | _, _ => pure (Chomp.clip, depth, after)
  if c.next != some ' ' && !atBreak c.next then throw .malformed
  let c := c.skipSpaces.skipComment
  if !atBreak c.next then throw .malformed
  return (chomp, depth, ((c.lineBreak?).map (·.2)).getD c)

/-- Finds how far the first line of a block with text in it is indented, counting spaces only. -/
def blockIndent : Nat → Nat → Cursor → List Char × Nat × Cursor
  | 0, deepest, c => ([], deepest, c)
  | room + 1, deepest, c =>
    let after := c.skipSpaces
    let deepest := max deepest after.column
    match after.lineBreak? with
    | none => ([], deepest, after)
    | some (mark, c) =>
      let (marks, deepest, c) := blockIndent room deepest c
      (mark :: marks, deepest, c)

/-- The place after at most so many spaces that the column stays within the indentation. -/
def skipIndent (indent : Nat) (c : Cursor) : Cursor :=
  let blanks := c.rest.takeWhile (· == ' ')
  c.skip (min blanks.length (indent - c.column))

/-- The empty lines inside a block, and the place after the indentation of the next line. -/
def blockBreaks (indent : Nat) : Nat → Cursor → List Char × Cursor
  | 0, c => ([], c)
  | room + 1, c =>
    let after := skipIndent indent c
    match after.lineBreak? with
    | none => ([], after)
    | some (mark, c) =>
      let (marks, c) := blockBreaks indent room c
      (mark :: marks, c)

/-- Whether a line of a block starts with white space, which keeps it from being folded. -/
def startsBlank (c : Cursor) : Bool :=
  c.next.any isSpace

/-- What lies between two lines of a block. -/
def between (folded : Bool) (mark : Option Char) (bothFlush : Bool) (marks : List Char) : List Char :=
  if folded && mark == some '\n' && bothFlush then
    if marks.isEmpty then [' '] else []
  else mark.toList

/-- Reads the lines of a block from the start of a line's text on, after given empty lines. -/
def blockLines (folded : Bool) (chomp : Chomp) (indent : Nat) :
    Nat → List Char → Cursor → List Char × Cursor
  | 0, _, c => ([], c)
  | room + 1, marks, c =>
    let flush := !startsBlank c
    let (text, after) := c.span fun ch => !isBreak ch
    let (mark, after) := match after.lineBreak? with
      | some (mark, after) => (some mark, after)
      | none => (none, after)
    let (following, after) := blockBreaks indent after.rest.length after
    if after.column == indent && after.next.isSome then
      let glue := between folded mark (flush && !startsBlank after) following
      let (tail, c) := blockLines folded chomp indent room following after
      (marks ++ text ++ glue ++ tail, c)
    else
      let tail := match chomp with
        | .strip => []
        | .clip => mark.toList
        | .keep => mark.toList ++ following
      (marks ++ text ++ tail, after)

/-- Reads a block of lines after its mark. The parent's indentation bounds its own. -/
def blockScalar (folded : Bool) (parent : Int) (c : Cursor) : Except Fault (List Char × Cursor) := do
  let (chomp, depth, c) ← blockHeader c
  let least := max (parent + 1) 1
  let (marks, indent, c) := match depth with
    | some depth =>
      let indent := (least + depth - 1).toNat
      let (marks, c) := blockBreaks indent c.rest.length c
      (marks, indent, c)
    | none =>
      let (marks, deepest, c) := blockIndent c.rest.length 0 c
      (marks, max least.toNat deepest, c)
  if c.column == indent && c.next.isSome then
    return blockLines folded chomp indent c.rest.length marks c
  else
    return (if chomp == .keep then marks else [], c)

end Stencil.Yaml
