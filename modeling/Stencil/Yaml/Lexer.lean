import Stencil.Assoc
import Stencil.Yaml.Token

/-!
From the text to tokens.

A colon can turn out to stand after a key that was read before; until then every token that could start
such a key is remembered, one for each level of brackets. In front of the first key of a mapping, and of
the first dash of a sequence, stands the token that opens it; tokens that close are put where a line
starts further left.
-/

namespace Stencil.Yaml

/-- A token that may turn out to be a key. -/
structure Candidate where
  /-- How many tokens stand before it. -/
  position : Nat
  /-- Whether the line makes no sense unless it is one. -/
  needed : Bool
  line : Nat
  column : Nat
  index : Nat

/-- How far a text has been read. -/
structure Lexer where
  cursor : Cursor
  /-- The tokens so far, the last one first. -/
  tokens : List Token := []
  /-- How many brackets are open. -/
  depth : Nat := 0
  /-- The indentation of the innermost open block, and of those around it. -/
  indent : Int := -1
  indents : List Int := []
  /-- Whether a key may start at the place reached. -/
  allowsKey : Bool := true
  /-- The candidates for keys by their level of brackets. -/
  candidates : Assoc Nat Candidate := []

namespace Lexer

/-- Whether the place reached is inside brackets. -/
def inFlow (l : Lexer) : Bool :=
  l.depth != 0

/-- Adds a token. -/
def push (l : Lexer) (t : Token) : Lexer :=
  { l with tokens := t :: l.tokens }

/-- Adds a token that is spelled by so many characters. -/
def take (l : Lexer) (length : Nat) (t : Token) : Lexer :=
  { l.push t with cursor := l.cursor.skip length }

/-- Puts a token in front of those that stand from a position on. -/
def insertAt (l : Lexer) (position : Nat) (t : Token) : Lexer :=
  let later := l.tokens.length - position
  { l with tokens := l.tokens.take later ++ t :: l.tokens.drop later }

/-- Gives up the candidate of the current level. -/
def dropCandidate (l : Lexer) : Except Fault Lexer :=
  match l.candidates.get? l.depth with
  | some candidate =>
    if candidate.needed then .error .malformed
    else .ok { l with candidates := l.candidates.erase l.depth }
  | none => .ok l

/-- The longest distance between the start of a key and its colon. -/
def maxKeyLength : Nat := 1024

/-- Whether a candidate can no longer become a key, being on another line or too far away. -/
def isStale (l : Lexer) (candidate : Candidate) : Bool :=
  candidate.line != l.cursor.line || maxKeyLength < l.cursor.index - candidate.index

/-- Gives up the candidates that can no longer become keys. -/
def dropStale (l : Lexer) : Except Fault Lexer :=
  if l.candidates.any fun (_, candidate) => l.isStale candidate && candidate.needed then
    .error .malformed
  else
    .ok { l with candidates := l.candidates.filter fun (_, candidate) => !l.isStale candidate }

/-- Remembers the next token as a candidate for a key, where one may start. -/
def remember (l : Lexer) : Except Fault Lexer := do
  if !l.allowsKey then return l
  let l ← l.dropCandidate
  let c := l.cursor
  let candidate : Candidate := {
    position := l.tokens.length
    needed := !l.inFlow && l.indent == c.column
    line := c.line
    column := c.column
    index := c.index }
  return { l with candidates := l.candidates.set l.depth candidate }

/-- Closes the blocks that are indented further than a column. -/
def unwind (column : Int) : Nat → Lexer → Lexer
  | 0, l => l
  | room + 1, l =>
    if l.indent ≤ column then l
    else
      unwind column room
        { l.push .blockEnd with indent := l.indents.headD (-1), indents := l.indents.drop 1 }

/-- Closes the blocks that end at the column reached. Brackets make indentation meaningless. -/
def settle (l : Lexer) : Lexer :=
  if l.inFlow then l else unwind l.cursor.column (l.indents.length + 1) l

/-- Opens a block at a column, unless one is open there; the token that opens it goes to a position. -/
def openBlock (l : Lexer) (column : Nat) (position : Nat) (t : Token) : Lexer :=
  if l.indent < column then
    { l.insertAt position t with indents := l.indent :: l.indents, indent := column }
  else l

/-- Skips white space and comments. After a line break a key may start, except inside brackets. -/
def skipGap : Nat → Lexer → Lexer
  | 0, l => l
  | room + 1, l =>
    let after := l.cursor.skipSpaces.skipComment
    match after.lineBreak? with
    | some (_, c) => skipGap room { l with cursor := c, allowsKey := l.allowsKey || !l.inFlow }
    | none => { l with cursor := after }

/-- A line between documents, which closes everything. -/
def separator (l : Lexer) (t : Token) : Except Fault Lexer := do
  let l ← (unwind (-1) (l.indents.length + 1) l).dropCandidate
  return { l.take 3 t with allowsKey := false }

/-- A bracket that opens. -/
def openFlow (l : Lexer) (t : Token) : Except Fault Lexer := do
  let l ← l.remember
  return { l.take 1 t with depth := l.depth + 1, allowsKey := true }

/-- A bracket that closes. -/
def closeFlow (l : Lexer) (t : Token) : Except Fault Lexer := do
  if !l.inFlow then throw .malformed
  let l ← l.dropCandidate
  return { l.take 1 t with depth := l.depth - 1, allowsKey := false }

/-- A comma. -/
def comma (l : Lexer) : Except Fault Lexer := do
  let l ← l.dropCandidate
  return { l.take 1 .comma with allowsKey := true }

/-- Makes room for a mark that starts an item or key of a block, where one may start. -/
def enterBlock (l : Lexer) (t : Token) : Except Fault Lexer :=
  if l.inFlow then .ok l
  else if !l.allowsKey then .error .malformed
  else .ok (l.openBlock l.cursor.column l.tokens.length t)

/-- A dash in front of an item. -/
def item (l : Lexer) : Except Fault Lexer := do
  let l ← (← l.enterBlock .blockSequence).dropCandidate
  return { l.take 1 .item with allowsKey := true }

/-- A question mark in front of a key. -/
def key (l : Lexer) : Except Fault Lexer := do
  let l ← (← l.enterBlock .blockMapping).dropCandidate
  return { l.take 1 .key with allowsKey := !l.inFlow }

/-- A colon, which makes a key of the candidate there may be. -/
def value (l : Lexer) : Except Fault Lexer :=
  match l.candidates.get? l.depth with
  | some candidate =>
    let l := { l with candidates := l.candidates.erase l.depth }
    let l := l.insertAt candidate.position .key
    let l := if l.inFlow then l else l.openBlock candidate.column candidate.position .blockMapping
    .ok { l.take 1 .value with allowsKey := false }
  | none => do
    let l ← (← l.enterBlock .blockMapping).dropCandidate
    return { l.take 1 .value with allowsKey := !l.inFlow }

/-- An anchor or alias. -/
def named (l : Lexer) (make : String → Token) : Except Fault Lexer := do
  let l ← l.remember
  let (name, c) ← anchorName l.cursor.advance
  return { l.push (make name) with cursor := c, allowsKey := false }

/-- A tag. -/
def tag (l : Lexer) : Except Fault Lexer := do
  let l ← l.remember
  let (name, c) ← tagName l.cursor.advance
  return { l.push (.tag name) with cursor := c, allowsKey := false }

/-- A block of lines. -/
def block (l : Lexer) (folded : Bool) : Except Fault Lexer := do
  let l ← l.dropCandidate
  let (text, c) ← blockScalar folded l.indent l.cursor.advance
  return { l.push (.scalar (String.ofList text) false) with cursor := c, allowsKey := true }

/-- A scalar in quotes. -/
def quoted (l : Lexer) (mark : Char) : Except Fault Lexer := do
  let l ← l.remember
  let (text, c) ← quotedScalar mark l.cursor.rest.length l.cursor.advance
  return { l.push (.scalar (String.ofList text) false) with cursor := c, allowsKey := false }

/-- A plain scalar. A key may start after it if it ends with a line. -/
def plain (l : Lexer) : Except Fault Lexer := do
  let l ← l.remember
  let (text, c, broke) :=
    plainScalar l.inFlow (l.indent + 1) l.cursor.rest.length [] false l.cursor
  return { l.push (.scalar (String.ofList text) true) with cursor := c, allowsKey := broke }

/-- Marks that a plain scalar cannot start with. -/
def isMark (c : Char) : Bool :=
  "-?:,[]\x7b\x7d#&*!|>'\"%@`".toList.contains c

/-- Whether a plain scalar starts with a character, given the one after it. -/
def startsPlain (l : Lexer) (c : Char) (after : Option Char) : Bool :=
  (!isMark c && !isSpace c && !isBreak c)
    || (!atGap after && (c == '-' || (!l.inFlow && (c == '?' || c == ':'))))

/-- Reads the next token, whose first character is given. Directives are refused: they would need a
line of dashes after them, which a header cannot hold. -/
def token (l : Lexer) (c : Char) : Except Fault Lexer :=
  let after := l.cursor.rest[1]?
  if l.cursor.column == 0 && c == '%' then .error .malformed
  else if l.cursor.column == 0 && l.cursor.atSeparator then
    l.separator (if c == '-' then .documentStart else .documentEnd)
  else if c == '[' then l.openFlow .flowSequence
  else if c == '{' then l.openFlow .flowMapping
  else if c == ']' then l.closeFlow .flowSequenceEnd
  else if c == '}' then l.closeFlow .flowMappingEnd
  else if c == ',' then l.comma
  else if c == '-' && atGap after then l.item
  else if c == '?' && (l.inFlow || atGap after) then l.key
  else if c == ':' && (l.inFlow || atGap after) then l.value
  else if c == '*' then l.named .alias
  else if c == '&' then l.named .anchor
  else if c == '!' then l.tag
  else if c == '|' && !l.inFlow then l.block false
  else if c == '>' && !l.inFlow then l.block true
  else if c == '\'' || c == '"' then l.quoted c
  else if l.startsPlain c after then l.plain
  else .error .malformed

/-- Reads at most so many tokens, and closes everything at the end. -/
def run : Nat → Lexer → Except Fault (List Token)
  | 0, _ => .error .malformed
  | room + 1, l => do
    let l ← (skipGap (l.cursor.rest.length + 1) l).dropStale
    let l := l.settle
    match l.cursor.next with
    | none =>
      let l ← (unwind (-1) (l.indents.length + 1) l).dropCandidate
      return l.tokens.reverse
    | some c => run room (← l.token c)

end Lexer

/-- The tokens of a text. -/
def tokens (source : String) : Except Fault (List Token) :=
  let s := source.toList
  if !s.all isPrintable then .error .malformed
  else
    let start : Cursor := match s with
      | '\uFEFF' :: rest => { rest, index := 1 }
      | rest => { rest }
    Lexer.run (s.length + 1) { cursor := start }

end Stencil.Yaml
