import Stencil.Yaml.Lexer
import Stencil.Yaml.Tag

/-!
From tokens to a tree. A name that stands for a node which was written before is replaced by that node.
-/

namespace Stencil.Yaml

/-- A node of a document. -/
inductive Node where
  | scalar (tag : Tag) (text : String)
  | sequence (tag : Tag) (items : List Node)
  | mapping (tag : Tag) (entries : List (Node × Node))

/-- The tokens that are left, and the nodes that have been given names. -/
structure Reader where
  tokens : List Token
  anchors : Assoc String Node := []
  /-- The names that have been given, those of unfinished nodes included. -/
  used : List String := []

/-- A node and the state after it. -/
abbrev Outcome := Except Fault (Node × Reader)

/-- The scalar that stands where nothing is written. -/
def Node.nothing : Node := .scalar .null ""

/-- What may stand in front of a node: its name, and its full tag. -/
structure Properties where
  anchor : Option String := none
  tag : Option String := none

/-- Reads what stands in front of a node. -/
def readProperties (tokens : List Token) : Except Fault (Properties × List Token) := do
  match tokens with
  | .anchor a :: .tag t :: rest => return (⟨some a, some (← t.full?)⟩, rest)
  | .tag t :: .anchor a :: rest => return (⟨some a, some (← t.full?)⟩, rest)
  | .anchor a :: rest => return (⟨some a, none⟩, rest)
  | .tag t :: rest => return (⟨none, some (← t.full?)⟩, rest)
  | rest => return ({}, rest)

/-- The kind of a scalar. -/
def scalarTag (tag : Option String) (plain : Bool) (text : String) : Tag :=
  match tag with
  | some "!" => .ofPlain text
  | some name => .ofName name
  | none => if plain then .ofPlain text else .text

/-- The kind of a collection. -/
def collectionTag (tag : Option String) (usual : Tag) : Tag :=
  match tag with
  | some "!" => usual
  | some name => .ofName name
  | none => usual

/-- Gives a name to a node. -/
def Reader.bind (r : Reader) (anchor : Option String) (node : Node) : Reader :=
  match anchor with
  | some name => { r with anchors := r.anchors.set name node }
  | none => r

/-- Notes a name that a node is going to have. No two nodes have the same name. -/
def Reader.reserve (r : Reader) (anchor : Option String) : Except Fault Reader :=
  match anchor with
  | some name =>
    if r.used.contains name then .error .malformed else .ok { r with used := name :: r.used }
  | none => .ok r

/-- Where a node stands: inside brackets, in a block, or in a block mapping, whose values may be
sequences that are not indented. -/
inductive Position where
  | flow
  | block
  | blockValue
  deriving DecidableEq, Repr

mutual

/-- Reads a node. -/
def readNode (room : Nat) (position : Position) (r : Reader) : Outcome :=
  match room, r.tokens with
  | 0, _ => .error .malformed
  | _, .alias name :: rest =>
    match r.anchors.get? name with
    | some node => .ok (node, { r with tokens := rest })
    | none => .error .malformed
  | room + 1, tokens => do
    let (properties, rest) ← readProperties tokens
    let r ← { r with tokens := rest }.reserve properties.anchor
    let (node, r) ← readContent room position properties r
    return (node, r.bind properties.anchor node)

/-- Reads a node after what stands in front of it. -/
def readContent (room : Nat) (position : Position) (p : Properties) (r : Reader) : Outcome :=
  match room, r.tokens with
  | 0, _ => .error .malformed
  | room + 1, .item :: _ =>
    if position == .blockValue then do
      let (items, r) ← readLooseItems room r
      return (.sequence (collectionTag p.tag .sequence) items, r)
    else readEmpty p r
  | _, .scalar text plain :: rest =>
    .ok (.scalar (scalarTag p.tag plain text) text, { r with tokens := rest })
  | room + 1, .flowSequence :: rest => do
    let (items, r) ← readFlowItems room true { r with tokens := rest }
    return (.sequence (collectionTag p.tag .sequence) items, r)
  | room + 1, .flowMapping :: rest => do
    let (entries, r) ← readFlowEntries room true { r with tokens := rest }
    return (.mapping (collectionTag p.tag .mapping) entries, r)
  | room + 1, .blockSequence :: rest =>
    if position == .flow then readEmpty p r
    else do
      let (items, r) ← readItems room { r with tokens := rest }
      return (.sequence (collectionTag p.tag .sequence) items, r)
  | room + 1, .blockMapping :: rest =>
    if position == .flow then readEmpty p r
    else do
      let (entries, r) ← readEntries room { r with tokens := rest }
      return (.mapping (collectionTag p.tag .mapping) entries, r)
  | _, _ => readEmpty p r

/-- A node that consists of its name or tag alone. -/
def readEmpty (p : Properties) (r : Reader) : Outcome :=
  if p.anchor.isSome || p.tag.isSome then .ok (.scalar (scalarTag p.tag true "") "", r)
  else .error .malformed

/-- Reads a node, or nothing if one of the given tokens follows. -/
def readUnless (room : Nat) (position : Position) (ends : List Token) (r : Reader) : Outcome :=
  match room with
  | 0 => .error .malformed
  | room + 1 =>
    if r.tokens.head?.any ends.contains then .ok (.nothing, r) else readNode room position r

/-- Reads the items of a block sequence and its end. -/
def readItems (room : Nat) (r : Reader) : Except Fault (List Node × Reader) :=
  match room, r.tokens with
  | 0, _ => .error .malformed
  | room + 1, .item :: rest => do
    let (node, r) ← readUnless room .block [.item, .blockEnd] { r with tokens := rest }
    let (nodes, r) ← readItems room r
    return (node :: nodes, r)
  | _, .blockEnd :: rest => .ok ([], { r with tokens := rest })
  | _, _ => .error .malformed

/-- Reads the items of a sequence that is not indented. -/
def readLooseItems (room : Nat) (r : Reader) : Except Fault (List Node × Reader) :=
  match room, r.tokens with
  | 0, _ => .error .malformed
  | room + 1, .item :: rest => do
    let (node, r) ← readUnless room .block [.item, .key, .value, .blockEnd] { r with tokens := rest }
    let (nodes, r) ← readLooseItems room r
    return (node :: nodes, r)
  | _, _ => .ok ([], r)

/-- Reads the entries of a block mapping and its end. -/
def readEntries (room : Nat) (r : Reader) : Except Fault (List (Node × Node) × Reader) :=
  match room, r.tokens with
  | 0, _ => .error .malformed
  | room + 1, .key :: rest => do
    let (key, r) ← readUnless room .blockValue [.key, .value, .blockEnd] { r with tokens := rest }
    let (value, r) ← readValue room .blockValue [.key, .value, .blockEnd] r
    let (entries, r) ← readEntries room r
    return ((key, value) :: entries, r)
  | _, .blockEnd :: rest => .ok ([], { r with tokens := rest })
  | _, _ => .error .malformed

/-- Reads the value after a key, nothing if there is none. -/
def readValue (room : Nat) (position : Position) (ends : List Token) (r : Reader) : Outcome :=
  match room, r.tokens with
  | 0, _ => .error .malformed
  | room + 1, .value :: rest => readUnless room position ends { r with tokens := rest }
  | _, _ => .ok (.nothing, r)

/-- Reads the items of a sequence in brackets and the closing bracket. An item may be a mapping with a
single entry. -/
def readFlowItems (room : Nat) (first : Bool) (r : Reader) : Except Fault (List Node × Reader) :=
  match room, r.tokens with
  | 0, _ => .error .malformed
  | _, .flowSequenceEnd :: rest => .ok ([], { r with tokens := rest })
  | room + 1, tokens => do
    let rest ← match first, tokens with
      | true, tokens => pure tokens
      | false, .comma :: rest => pure rest
      | false, _ => throw .malformed
    match rest with
    | .flowSequenceEnd :: rest => return ([], { r with tokens := rest })
    | .key :: rest =>
      let (key, r) ←
        readUnless room .flow [.value, .comma, .flowSequenceEnd] { r with tokens := rest }
      let (value, r) ← readValue room .flow [.comma, .flowSequenceEnd] r
      let (nodes, r) ← readFlowItems room false r
      return (.mapping .mapping [(key, value)] :: nodes, r)
    | rest =>
      let (node, r) ← readNode room .flow { r with tokens := rest }
      let (nodes, r) ← readFlowItems room false r
      return (node :: nodes, r)

/-- Reads the entries of a mapping in braces and the closing brace. -/
def readFlowEntries (room : Nat) (first : Bool) (r : Reader) :
    Except Fault (List (Node × Node) × Reader) :=
  match room, r.tokens with
  | 0, _ => .error .malformed
  | _, .flowMappingEnd :: rest => .ok ([], { r with tokens := rest })
  | room + 1, tokens => do
    let rest ← match first, tokens with
      | true, tokens => pure tokens
      | false, .comma :: rest => pure rest
      | false, _ => throw .malformed
    match rest with
    | .flowMappingEnd :: rest => return ([], { r with tokens := rest })
    | .key :: rest =>
      let (key, r) ←
        readUnless room .flow [.value, .comma, .flowMappingEnd] { r with tokens := rest }
      let (value, r) ← readValue room .flow [.comma, .flowMappingEnd] r
      let (entries, r) ← readFlowEntries room false r
      return ((key, value) :: entries, r)
    | rest =>
      let (key, r) ← readNode room .flow { r with tokens := rest }
      let (entries, r) ← readFlowEntries room false r
      return ((key, .nothing) :: entries, r)

end

/-- Whether nothing but the end of a document follows. -/
def endsDocument (tokens : List Token) : Bool :=
  tokens.all (· == .documentEnd)

/-- The tree of a text with a single document, or nothing for a text without one. -/
def readDocument (source : String) : Except Fault (Option Node) := do
  let all ← tokens source
  let room := 4 * all.length + 8
  match all with
  | [] => return none
  | [.documentStart] => return some .nothing
  | .documentStart :: rest =>
    let (node, r) ← readUnless room .block [.documentStart, .documentEnd] { tokens := rest }
    if endsDocument r.tokens then return some node else throw .malformed
  | tokens =>
    let (node, r) ← readNode room .block { tokens }
    if endsDocument r.tokens then return some node else throw .malformed

end Stencil.Yaml
