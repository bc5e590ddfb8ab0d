import Stencil.Assoc
import Stencil.Markup.Parse

/-!
Putting new bodies into the regions of template text. The markers stay, so a spliced text can be
spliced again.
-/

namespace Stencil.Markup

/-- The part of a text between two offsets. -/
def slice (s : List Char) (start stop : Nat) : List Char :=
  (s.drop start).take (stop - start)

/-- The body of a region within its text. -/
def Region.body (source : List Char) (r : Region) : String :=
  String.ofList (slice source r.span.bodyStart r.span.bodyEnd)

/-- The regions of template text in the order of the text. -/
def findRegions (source : String) : Except MarkupError (List Region) := do
  let nodes ← parse {} source
  return regionsOf nodes

/-- The regions of one kind in template text. -/
def findRegionsOf (kind : RegionKind) (source : String) : Except MarkupError (List Region) := do
  let regions ← findRegions source
  return regions.filter (·.kind == kind)

/-- The blocks of template text by name. If a name occurs more than once, its last body counts. -/
def extractBlocks (source : String) : Except MarkupError (Assoc String String) := do
  let regions ← findRegionsOf .block source
  return Assoc.ofPairs (regions.map fun r => (r.name, r.body source.toList))

/-- The outcome of splicing: the new text, the regions that were offered with their bodies,
and the names of those that were replaced. -/
structure Splicing where
  text : List Char
  offered : List (Region × String)
  replaced : List String

/-- Splices the regions of a text from an offset on. Regions inside a replaced one are not offered. -/
def spliceFrom (source : List Char) (replace : Region → String → Option String) (cursor : Nat) :
    List Region → Splicing
  | [] => ⟨source.drop cursor, [], []⟩
  | r :: rest =>
    if r.span.start < cursor then spliceFrom source replace cursor rest
    else
      let body := r.body source
      match replace r body with
      | none =>
        let tail := spliceFrom source replace cursor rest
        { tail with offered := (r, body) :: tail.offered }
      | some new =>
        let tail := spliceFrom source replace r.span.bodyEnd rest
        ⟨slice source cursor r.span.bodyStart ++ new.toList ++ tail.text,
          (r, body) :: tail.offered, r.name :: tail.replaced⟩

/-- Replaces the bodies of the regions of one kind. The function that replaces sees each region with
its body and leaves it alone by giving nothing. -/
def replaceRegions (kind : RegionKind) (source : String)
    (replace : Region → String → Option String) : Except MarkupError Splicing := do
  let regions ← findRegionsOf kind source
  return spliceFrom source.toList replace 0 regions

/-- Replaces the blocks that a table names. Also gives the names in the table that no replaced block
has. -/
def spliceBlocks (base : String) (contents : Assoc String String) :
    Except MarkupError (String × List String) := do
  let splicing ← replaceRegions .block base fun r _ => contents.get? r.name
  let unmatched := contents.keys.filter fun name => !splicing.replaced.contains name
  return (String.ofList splicing.text, unmatched)

end Stencil.Markup
