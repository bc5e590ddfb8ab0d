import Stencil.Failure
import Stencil.Value.Basic

/-!
Values written as data in JSON: compactly, indented, or in ASCII.

The compact and indented forms take maps with text keys and integers that fit sixty-four bits, nested no
deeper than `maxNesting`, and leave characters beyond ASCII as they are.
-/

namespace Stencil

open Stencil.Number

namespace Text

/-- A character inside a JSON string. -/
def jsonChar (c : Char) : List Char :=
  if c == '"' || c == '\\' then ['\\', c]
  else if c == '\n' then ['\\', 'n']
  else if c == '\r' then ['\\', 'r']
  else if c == '\t' then ['\\', 't']
  else if c == '\x08' then ['\\', 'b']
  else if c == '\x0c' then ['\\', 'f']
  else if c.toNat < 32 then '\\' :: 'u' :: hexDigits 4 c.toNat
  else [c]

/-- A JSON string. -/
def jsonString (s : String) : String :=
  String.ofList ('"' :: s.toList.flatMap jsonChar ++ ['"'])

/-- A character inside a JSON string of ASCII characters; one beyond sixteen bits takes two escapes. -/
def asciiJsonChar (c : Char) : List Char :=
  let code := c.toNat
  if code < 127 then jsonChar c
  else if code == 127 then [c]
  else if code < 0x10000 then '\\' :: 'u' :: hexDigits 4 code
  else
    let offset := code - 0x10000
    '\\' :: 'u' :: hexDigits 4 (0xD800 + offset / 0x400)
      ++ '\\' :: 'u' :: hexDigits 4 (0xDC00 + offset % 0x400)

/-- A JSON string of ASCII characters. -/
def asciiJsonString (s : String) : String :=
  String.ofList ('"' :: s.toList.flatMap asciiJsonChar ++ ['"'])

end Text

/-- The text of an opaque thing. -/
def Opaque.text : Opaque → String
  | .method => "<method>"
  | .kindOf name => s!"<class '{name}'>"
  | .foreign name => s!"<{name}>"

namespace Value

/-- A float as data. What is no finite number has no spelling and becomes null. -/
def jsonFloat (x : Float) : String :=
  if Dyadic.isFinite x then String.ofList (dataLayout.text x) else "null"

/-- A value other than a list or map as data. -/
def jsonScalar : Value → Except Failure String
  | .null => .ok "null"
  | .bool b => .ok (if b then "true" else "false")
  | .int n => if -twoTo 63 ≤ n && n < twoTo 64 then .ok (toString n) else .error .unserializable
  | .float x => .ok (jsonFloat x)
  | .str s => .ok (Text.jsonString s)
  | .decimal d => .ok (Text.jsonString d.text)
  | .temporal t => .ok (Text.jsonString (t.textWith "T"))
  | .thing o => .ok (Text.jsonString o.text)
  | .list _ | .map _ => .error .unserializable

/-- The key of an entry as data. Only texts can be keys. -/
def jsonKey : Value → Except Failure String
  | .str s => .ok (Text.jsonString s)
  | _ => .error .unserializable

/-- How many lists and maps may stand one in another in data. -/
def maxNesting : Nat := 254

/-- Refuses a list or map inside too many others. -/
def checkNesting (depth : Nat) : Except Failure Unit :=
  if depth < maxNesting then .ok () else .error .unserializable

mutual

/-- The compact form of a value that stands at a given depth. -/
def compactAt (depth : Nat) : Value → Except Failure String
  | .list items => do
    checkNesting depth
    let parts ← compactItems (depth + 1) items
    return "[" ++ ",".intercalate parts ++ "]"
  | .map entries => do
    checkNesting depth
    let parts ← compactEntries (depth + 1) entries
    return "\x7b" ++ ",".intercalate parts ++ "\x7d"
  | v => jsonScalar v

/-- The compact forms of the items of a list. -/
def compactItems (depth : Nat) : List Value → Except Failure (List String)
  | [] => .ok []
  | item :: rest => do
    let head ← compactAt depth item
    let tail ← compactItems depth rest
    return head :: tail

/-- The compact forms of the entries of a map. -/
def compactEntries (depth : Nat) : List (Value × Value) → Except Failure (List String)
  | [] => .ok []
  | (key, value) :: rest => do
    let name ← jsonKey key
    let head ← compactAt depth value
    let tail ← compactEntries depth rest
    return (name ++ ":" ++ head) :: tail

end

/-- The compact form of a value. -/
def compact (v : Value) : Except Failure String :=
  v.compactAt 0

/-- A line break followed by an indentation. -/
def newLine (depth : Nat) : String :=
  "\n" ++ String.ofList (List.replicate (2 * depth) ' ')

/-- Parts between brackets, each on a line of its own; nothing between them is written tightly. -/
def bracketed (opening closing : String) (depth : Nat) (parts : List String) : String :=
  if parts.isEmpty then opening ++ closing
  else
    opening ++ newLine (depth + 1) ++ ("," ++ newLine (depth + 1)).intercalate parts
      ++ newLine depth ++ closing

mutual

/-- The indented form of a value that stands at a given depth. -/
def indented (depth : Nat) : Value → Except Failure String
  | .list items => do
    checkNesting depth
    let parts ← indentedItems (depth + 1) items
    return bracketed "[" "]" depth parts
  | .map entries => do
    checkNesting depth
    let parts ← indentedEntries (depth + 1) entries
    return bracketed "\x7b" "\x7d" depth parts
  | v => jsonScalar v

/-- The indented forms of the items of a list. -/
def indentedItems (depth : Nat) : List Value → Except Failure (List String)
  | [] => .ok []
  | item :: rest => do
    let head ← indented depth item
    let tail ← indentedItems depth rest
    return head :: tail

/-- The indented forms of the entries of a map. -/
def indentedEntries (depth : Nat) : List (Value × Value) → Except Failure (List String)
  | [] => .ok []
  | (key, value) :: rest => do
    let name ← jsonKey key
    let head ← indented depth value
    let tail ← indentedEntries depth rest
    return (name ++ ": " ++ head) :: tail

end

end Value

end Stencil
