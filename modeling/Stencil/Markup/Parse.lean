import Stencil.Markup.Argument
import Stencil.Markup.Error
import Stencil.Markup.Node

/-!
Reading template text as a tree.

The pieces of the text are taken one after another. The blocks that are open form a stack of frames;
a closing marker turns the innermost frame into a node of the one around it.
-/

namespace Stencil.Markup

/-- Which kinds of markers are markers; those of the others are literal text. -/
structure Features where
  conditionals : Bool := true
  loops : Bool := true
  deriving DecidableEq, Repr

/-- The details of a block that a closing marker is due for. -/
inductive Opening where
  | conditional (condition : String)
  | loop (array item : String)
  | region (kind : RegionKind) (name : String)
  deriving DecidableEq, Repr

/-- The kind of block that an opening marker opens. -/
def Opening.kind : Opening → BlockKind
  | .conditional _ => .conditional
  | .loop _ _ => .loop
  | .region kind _ => .region kind

/-- An open block. `nodes` is what was read since the last marker of the block, latest first;
`accepted` is the branch before the else marker, once that has been read. -/
structure Frame where
  opening : Opening
  start : Nat
  bodyStart : Nat
  accepted : Option (List Node)
  nodes : List Node

/-- The open block that messages speak of. -/
def Frame.block (frame : Frame) : OpenBlock :=
  ⟨frame.opening.kind, frame.start⟩

/-- How far the text has been read: the offset reached, the nodes outside of all open blocks (latest
first), and the open blocks (innermost first). -/
structure Progress where
  position : Nat
  outer : List Node
  frames : List Frame

/-- Adds literal text to nodes that are listed latest first, joining it to text that is already
there. -/
def appendText (s : String) (nodes : List Node) : List Node :=
  if s.isEmpty then nodes
  else
    match nodes with
    | .text t :: rest => .text (t ++ s) :: rest
    | _ => .text s :: nodes

namespace Progress

/-- Changes the nodes of the innermost block. -/
def modify (p : Progress) (change : List Node → List Node) : Progress :=
  match p.frames with
  | [] => { p with outer := change p.outer }
  | frame :: rest => { p with frames := { frame with nodes := change frame.nodes } :: rest }

/-- Adds a node to the innermost block. -/
def push (p : Progress) (node : Node) : Progress :=
  p.modify (node :: ·)

/-- Adds literal text to the innermost block. -/
def text (p : Progress) (s : String) : Progress :=
  p.modify (appendText s)

/-- Opens a block with a marker of a given length. -/
def enter (p : Progress) (opening : Opening) (length : Nat) : Progress :=
  { p with frames := ⟨opening, p.position, p.position + length, none, []⟩ :: p.frames }

/-- Moves past a piece of text. -/
def advance (p : Progress) (length : Nat) : Progress :=
  { p with position := p.position + length }

end Progress

/-- The node that a block becomes when its closing marker begins at `bodyEnd` and ends at `stop`. -/
def Frame.close (frame : Frame) (bodyEnd stop : Nat) : Node :=
  let nodes := frame.nodes.reverse
  match frame.opening with
  | .conditional condition =>
    match frame.accepted with
    | some accepted => .conditional condition accepted nodes
    | none => .conditional condition nodes []
  | .loop array item => .loop array item nodes
  | .region kind name => .region kind name ⟨frame.start, frame.bodyStart, bodyEnd, stop⟩ nodes

/-- Reads a closing marker of a given kind and length. -/
def Progress.leave (p : Progress) (kind : BlockKind) (length : Nat) :
    Except MarkupError Progress :=
  match p.frames with
  | [] => .error ⟨.strayClose kind none, p.position⟩
  | frame :: rest =>
    if frame.opening.kind == kind then
      .ok (Progress.push { p with frames := rest } (frame.close p.position (p.position + length)))
    else .error ⟨.strayClose kind (some frame.block), p.position⟩

/-- Reads an else marker. -/
def Progress.turn (p : Progress) : Except MarkupError Progress :=
  match p.frames with
  | ⟨.conditional condition, start, bodyStart, none, nodes⟩ :: rest =>
    .ok { p with
      frames := ⟨.conditional condition, start, bodyStart, some nodes.reverse, []⟩ :: rest }
  | _ => .error ⟨.strayElse, p.position⟩

/-- Whether the features at hand treat a marker as literal text. -/
def Features.ignores (features : Features) : Marker → Bool
  | .ifOpen _ | .ifElse | .ifClose => !features.conditionals
  | .eachOpen _ _ | .eachClose => !features.loops
  | _ => false

/-- Reads a marker. -/
def Progress.token (p : Progress) (t : Token) : Except MarkupError Progress :=
  let length := t.spelling.length
  match t.marker with
  | .ifOpen condition => .ok (p.enter (.conditional condition) length)
  | .ifElse => p.turn
  | .ifClose => p.leave .conditional length
  | .eachOpen array item =>
    if item == array then .error ⟨.itemHidesArray item, p.position⟩
    else .ok (p.enter (.loop array item) length)
  | .eachClose => p.leave .loop length
  | .regionOpen kind name => .ok (p.enter (.region kind name) length)
  | .regionClose kind => p.leave (.region kind) length
  | .call name arguments => .ok (p.push (.call name (splitArguments arguments) t.spelling))
  | .slot path => .ok (p.push (.slot path t.spelling))

/-- Reads a piece of text. -/
def Progress.piece (features : Features) (p : Progress) (piece : Piece) :
    Except MarkupError Progress := do
  let next ← match piece with
    | .text s => .ok (p.text (String.ofList s))
    | .token t => if features.ignores t.marker then .ok (p.text t.spelling) else p.token t
  return next.advance piece.length

/-- Ends the reading, which no block may outlast. -/
def Progress.finish (p : Progress) : Except MarkupError (List Node) :=
  match p.frames with
  | [] => .ok p.outer.reverse
  | frame :: _ => .error ⟨.unclosed frame.block, frame.start⟩

/-- Reads pieces of text as a tree. -/
def ofPieces (features : Features) (pieces : List Piece) : Except MarkupError (List Node) := do
  let p ← pieces.foldlM (Progress.piece features) ⟨0, [], []⟩
  p.finish

/-- Reads template text as a tree. -/
def parse (features : Features) (source : String) : Except MarkupError (List Node) :=
  ofPieces features (scan source.toList)

end Stencil.Markup
