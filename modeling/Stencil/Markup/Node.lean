import Stencil.Markup.Marker

/-!
Template text as a tree.
-/

namespace Stencil.Markup

/-- Where a region lies: the offsets of its opening marker, of its body's two ends, and of the end of
its closing marker. -/
structure Span where
  start : Nat
  bodyStart : Nat
  bodyEnd : Nat
  stop : Nat
  deriving DecidableEq, Repr

/-- A part of a template. Variables and calls keep their exact spelling. -/
inductive Node where
  | text (s : String)
  | slot (path spelling : String)
  | call (name : String) (arguments : List String) (spelling : String)
  | conditional (condition : String) (accepted rejected : List Node)
  | loop (array item : String) (body : List Node)
  | region (kind : RegionKind) (name : String) (span : Span) (body : List Node)
  deriving Inhabited

/-- A region without its contents. -/
structure Region where
  kind : RegionKind
  name : String
  span : Span
  deriving DecidableEq, Repr

mutual

/-- The regions of a node, outer ones before the ones inside them. -/
def Node.regions : Node → List Region
  | .region kind name span body => ⟨kind, name, span⟩ :: regionsOf body
  | .conditional _ accepted rejected => regionsOf accepted ++ regionsOf rejected
  | .loop _ _ body => regionsOf body
  | _ => []

/-- The regions of several nodes in the order of the text. -/
def regionsOf : List Node → List Region
  | [] => []
  | node :: rest => node.regions ++ regionsOf rest

end

end Stencil.Markup
