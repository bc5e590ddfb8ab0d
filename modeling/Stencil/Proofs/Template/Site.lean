import Stencil.Proofs.Template.Reach

/-!
Where in a tree a rendering comes to a node.

A site is told by the conditionals and loops that open before it in the text, and by the names that the
loops around it bind. `ReachesAt` is `Reaches` with the site of the node that is reached; every node that is
reached has one (`Reaches.placed`).
-/

namespace Stencil.Markup

/-- How many conditionals and how many loops there are. -/
structure Census where
  conditionals : Nat := 0
  loops : Nat := 0
  deriving DecidableEq, Repr

namespace Census

instance : Add Census :=
  ⟨fun c d => ⟨c.conditionals + d.conditionals, c.loops + d.loops⟩⟩

/-- A conditional alone. -/
def conditional : Census :=
  { conditionals := 1 }

/-- A loop alone. -/
def loop : Census :=
  { loops := 1 }

@[simp] theorem add_conditionals (c d : Census) : (c + d).conditionals = c.conditionals + d.conditionals := rfl

@[simp] theorem add_loops (c d : Census) : (c + d).loops = c.loops + d.loops := rfl

theorem add_assoc (c d e : Census) : c + d + e = c + (d + e) :=
  congrArg₂ Census.mk (Nat.add_assoc ..) (Nat.add_assoc ..)

end Census

mutual

/-- The conditionals and loops in a node. -/
def Node.census : Node → Census
  | .conditional _ accepted rejected => .conditional + (censusOf accepted + censusOf rejected)
  | .loop _ _ body => .loop + censusOf body
  | .region _ _ _ body => censusOf body
  | _ => {}

/-- The conditionals and loops in nodes. -/
def censusOf : List Node → Census
  | [] => {}
  | node :: rest => node.census + censusOf rest

end

/-- Where a node stands: what opens before it in the text, blocks around it included, and the names that the
loops around it bind. -/
structure Site where
  before : Census := {}
  locals : List String := []
  deriving DecidableEq, Repr

/-- The site after some conditionals and loops. -/
def Site.past (p : Site) (c : Census) : Site :=
  { p with before := p.before + c }

/-- The site where the body of a loop begins. -/
def Site.inLoop (p : Site) (item : String) : Site :=
  ⟨p.before + .loop, p.locals ++ Analysis.loopNames item⟩

/-- The site where a branch of a conditional begins. -/
def Site.inBranch (p : Site) (taken : Bool) (accepted : List Node) : Site :=
  p.past (.conditional + if taken then {} else censusOf accepted)

end Stencil.Markup

namespace Stencil.Render

open Markup (Site censusOf)

/-- A rendering of nodes that begin at a site comes to a node at another site. -/
inductive ReachesAt (setting : Setting) :
    Site → Scope → Session → List Markup.Node → Site → Scope → Session → Markup.Node → Prop
  | here {p scope s n rest} : ReachesAt setting p scope s (n :: rest) p scope s n
  | later {p scope s first rest text q scope' s' n} : result (node setting scope first) s = .ok text →
      ReachesAt setting (p.past first.census) scope (after (node setting scope first) s) rest q scope' s' n →
      ReachesAt setting p scope s (first :: rest) q scope' s' n
  | branch {p scope s expression accepted rejected rest taken q scope' s' n} :
      result (decide setting scope expression) s = .ok taken →
      ReachesAt setting (p.inBranch taken accepted) scope (after (decide setting scope expression) s)
        (if taken then accepted else rejected) q scope' s' n →
      ReachesAt setting p scope s (.conditional expression accepted rejected :: rest) q scope' s' n
  | iteration {p scope s array item body rest values before v index others done q scope' s' n} :
      items scope array = .ok values → values.zipIdx = before ++ (v, index) :: others →
      result (before.mapM (turn setting scope item body values.length)) s = .ok done →
      ReachesAt setting (p.inLoop item) (scope.child (iteration item values.length index v))
        (after (before.mapM (turn setting scope item body values.length)) s) body q scope' s' n →
      ReachesAt setting p scope s (.loop array item body :: rest) q scope' s' n
  | region {p scope s kind name span body rest q scope' s' n} : ReachesAt setting p scope s body q scope' s' n →
      ReachesAt setting p scope s (.region kind name span body :: rest) q scope' s' n

variable {setting : Setting} {p q : Site} {scope scope' : Scope} {s s' : Session} {ns : List Markup.Node}
  {n : Markup.Node}

/-- Whatever a rendering comes to stands at some site. -/
theorem Reaches.placed (reaches : Reaches setting scope s ns scope' s' n) (p : Site) :
    ∃ q, ReachesAt setting p scope s ns q scope' s' n := by
  induction reaches generalizing p with
  | here => exact ⟨p, .here⟩
  | later run _ ih =>
    obtain ⟨q, reaches⟩ := ih (p.past _)
    exact ⟨q, .later run reaches⟩
  | branch decided _ ih =>
    obtain ⟨q, reaches⟩ := ih (p.inBranch _ _)
    exact ⟨q, .branch decided reaches⟩
  | iteration found split earlier _ ih =>
    obtain ⟨q, reaches⟩ := ih (p.inLoop _)
    exact ⟨q, .iteration found split earlier reaches⟩
  | region _ ih =>
    obtain ⟨q, reaches⟩ := ih p
    exact ⟨q, .region reaches⟩

/-- The layers over the bindings of the template bind just the names that are local at the site. -/
theorem ReachesAt.binds (reaches : ReachesAt setting p scope s ns q scope' s' n) {layers : List Bindings}
    {base : Bindings} (binds : Binds layers p.locals) (layered : scope = ⟨layers ++ [base]⟩) :
    ∃ layers', Binds layers' q.locals ∧ scope' = ⟨layers' ++ [base]⟩ := by
  induction reaches generalizing layers with
  | here => exact ⟨layers, binds, layered⟩
  | later _ _ ih => exact ih binds layered
  | branch _ _ ih => exact ih binds layered
  | iteration _ _ _ _ ih =>
    subst layered
    exact ih (binds.child _ _ _ _) rfl
  | region _ ih => exact ih binds layered

end Stencil.Render
