import Stencil.Yaml.Scalar

/-!
Tokens of YAML. Nesting that the text shows by indentation is shown by tokens that open and close.
-/

namespace Stencil.Yaml

/-- The kind of a node as its tag gives it: a handle, which may be missing, and the rest. -/
structure TagName where
  handle : Option String
  suffix : String
  deriving DecidableEq, Repr

/-- A token. -/
inductive Token where
  | documentStart
  | documentEnd
  | blockSequence
  | blockMapping
  | blockEnd
  | flowSequence
  | flowSequenceEnd
  | flowMapping
  | flowMappingEnd
  /-- The dash in front of an item. -/
  | item
  /-- The comma between items inside brackets. -/
  | comma
  | key
  | value
  | anchor (name : String)
  | alias (name : String)
  | tag (name : TagName)
  | scalar (text : String) (plain : Bool)
  deriving DecidableEq, Repr

/-- Whether a character may be part of the name of an anchor. -/
def isAnchorChar (c : Char) : Bool :=
  c.isAlphanum || c == '-' || c == '_'

/-- Whether a character may be part of the rest of a tag. -/
def isTagChar (c : Char) : Bool :=
  c.isAlphanum || "-;/?:@&=+$,_.!~*'()[]%".toList.contains c

/-- Reads the name of an anchor or alias after its mark. -/
def anchorName (c : Cursor) : Except Fault (String × Cursor) :=
  let (name, after) := c.span isAnchorChar
  let ends := atGap after.next || after.next.any fun ch => "?:,]\x7d%@\x60".toList.contains ch
  if name.isEmpty || !ends then .error .malformed else .ok (String.ofList name, after)

/-- Replaces escapes in the rest of a tag by the bytes they stand for. -/
def tagBytes : List Char → Option (List UInt8)
  | [] => some []
  | '%' :: a :: b :: rest => do
    let byte ← hexNumber? [a, b]
    let tail ← tagBytes rest
    some (UInt8.ofNat byte :: tail)
  | c :: rest =>
    if c == '%' then none
    else do
      let tail ← tagBytes rest
      some (UInt8.ofNat c.toNat :: tail)

/-- Reads the rest of a tag. -/
def tagSuffix (c : Cursor) : Except Fault (String × Cursor) :=
  let (written, after) := c.span isTagChar
  if written.isEmpty then .error .malformed
  else
    match tagBytes written with
    | none => .error .malformed
    | some bytes =>
      match String.fromUTF8? (ByteArray.mk bytes.toArray) with
      | some text => .ok (text, after)
      | none => .error .malformed

/-- Whether another exclamation mark follows before the end of the word, so that the tag has a handle
of its own. -/
def hasHandle (c : Cursor) : Bool :=
  (c.rest.takeWhile fun ch => ch != ' ' && !isBreak ch).contains '!'

/-- Reads a handle between exclamation marks, the first of which has been read. -/
def tagHandle (c : Cursor) : Except Fault (String × Cursor) :=
  if c.next == some ' ' then .ok ("!", c)
  else
    let (name, after) := c.span isAnchorChar
    if after.next == some '!' then .ok ("!" ++ String.ofList name ++ "!", after.advance)
    else .error .malformed

/-- Reads a tag after its first exclamation mark. White space has to follow it. -/
def tagName (c : Cursor) : Except Fault (TagName × Cursor) := do
  let (name, after) ←
    if c.next == some '<' then do
      let (suffix, after) ← tagSuffix c.advance
      if after.next != some '>' then throw .malformed
      pure (TagName.mk none suffix, after.advance)
    else if atGap c.next then pure (TagName.mk none "!", c)
    else if hasHandle c then do
      let (handle, after) ← tagHandle c
      let (suffix, after) ← tagSuffix after
      pure (TagName.mk (some handle) suffix, after)
    else do
      let (suffix, after) ← tagSuffix c
      pure (TagName.mk (some "!") suffix, after)
  if after.next == some ' ' || atBreak after.next then return (name, after) else throw .malformed

end Stencil.Yaml
