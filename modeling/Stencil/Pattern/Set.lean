import Stencil.Pattern.Escape

/-!
Sets of characters in square brackets.
-/

namespace Stencil.Pattern

open Reader

/-- The part of a set that an escape stands for. -/
def Escape.item : Escape → SetItem
  | .code n => .range n n
  | .kind sort negated => .kind sort negated
  | .anchor _ | .group _ => .range 0 0

/-- Reads the part of a set that starts with a token. -/
def setItem (t : Token) : Reader SetItem := do
  match t.spelling with
  | .plain c => return .range c.toNat c.toNat
  | .escaped c => return (← setEscape t c).item
  | .strayBackslash => refuse .strayBackslash t.position

/-- The range from one part of a set to another, which both have to be single characters. -/
def rangeBetween : SetItem → SetItem → Option SetItem
  | .range first _, .range last _ => if first ≤ last then some (.range first last) else none
  | _, _ => none

/-- Reads the parts of a set up to its closing bracket. A bracket that comes first is a part. -/
def setItems (start : Nat) (items : List SetItem) : Nat → Reader (List SetItem)
  | 0 => refuse .unterminatedSet start
  | room + 1 => do
    match ← take with
    | none => refuse .unterminatedSet start
    | some t =>
      if t.plain? == some ']' && !items.isEmpty then return items
      else
        let item ← setItem t
        if ← accept '-' then
          match ← take with
          | none => refuse .unterminatedSet start
          | some last =>
            if last.plain? == some ']' then return items ++ [item, .range 45 45]
            else
              match rangeBetween item (← setItem last) with
              | some range => setItems start (items ++ [range]) room
              | none =>
                let width := t.text.length + 1 + last.text.length
                refuse (.badRange t.text last.text) ((← position) - width)
        else setItems start (items ++ [item]) room

/-- Reads a set of characters after its opening bracket. -/
def charSet (switches : Switches) (start : Nat) : Reader CharSet := do
  let negated ← accept '^'
  let items ← setItems start [] ((← get).tokens.length + 1)
  return { items, negated, ignoresCase := switches.ignoresCase, ascii := switches.ascii }

/-- The set of a single character. -/
def single (switches : Switches) (code : Nat) : CharSet :=
  { items := [.range code code], negated := false
    ignoresCase := switches.ignoresCase, ascii := switches.ascii }

/-- The set of all characters of a kind, or of all others. -/
def allOf (switches : Switches) (sort : CharKind) (negated : Bool) : CharSet :=
  { items := [.kind sort negated], negated := false
    ignoresCase := false, ascii := switches.ascii }

/-- The set that a point stands for. -/
def pointSet (switches : Switches) : CharSet :=
  { items := if switches.pointFitsAll then [] else [.range 10 10], negated := true
    ignoresCase := false, ascii := switches.ascii }

end Stencil.Pattern
