import Stencil.Proofs.Markup.Literal

/-!
What a walk through a tree comes to.

Switching kinds of markers off makes a flatter tree out of the same text. The walk through it comes to the same
variables, calls and regions at the same places, and every region still holds what it held (`parse_visits`).
-/

namespace Stencil.Markup

/-- A variable or a call as it is written. -/
inductive Leaf where
  | slot (path spelling : String)
  | call (name : String) (arguments : List String) (spelling : String)
  deriving DecidableEq, Repr

/-- What a walk comes to: a variable or call, or a region together with the variables and calls in its body. -/
inductive Visit where
  | leaf (found : Leaf)
  | region (found : Region) (held : List Leaf)
  deriving DecidableEq, Repr

/-- The variable or call that a walk comes to. -/
def Visit.leaf? : Visit → Option Leaf
  | .leaf found => some found
  | .region _ _ => none

mutual

/-- The walk through a node. Both branches of a conditional are walked through, and a region is come to before
what it holds. -/
def Node.visits : Node → List Visit
  | .text _ => []
  | .slot path spelling => [.leaf (.slot path spelling)]
  | .call name arguments spelling => [.leaf (.call name arguments spelling)]
  | .conditional _ accepted rejected => visitsOf accepted ++ visitsOf rejected
  | .loop _ _ body => visitsOf body
  | .region kind name span body =>
    .region ⟨kind, name, span⟩ ((visitsOf body).filterMap Visit.leaf?) :: visitsOf body

/-- The walk through several nodes. -/
def visitsOf : List Node → List Visit
  | [] => []
  | node :: rest => node.visits ++ visitsOf rest

end

@[simp] theorem visitsOf_nil : visitsOf [] = [] := by
  rw [visitsOf]

@[simp] theorem visitsOf_cons (node : Node) (rest : List Node) :
    visitsOf (node :: rest) = node.visits ++ visitsOf rest := by
  rw [visitsOf]

theorem visits_text (s : String) : (Node.text s).visits = [] := by
  rw [Node.visits]

/-- Literal text before pieces, which may be joined to literal text of theirs, is nothing that a walk comes to. -/
theorem Derives.prepend {start : Nat} {s : List Char} {pieces : List Piece} {nodes : List Node}
    (derives : Derives (start + s.length) pieces nodes) :
    ∃ nodes', Derives start (Piece.prepend s pieces) nodes' ∧ visitsOf nodes' = visitsOf nodes := by
  unfold Piece.prepend
  split
  · rename_i t rest
    cases derives with
    | text more =>
      rw [Nat.add_assoc, ← List.length_append] at more
      exact ⟨_, .text more, by simp [visits_text]⟩
  · exact ⟨_, .text derives, by simp [visits_text]⟩

section Literal

variable {features : Features}

/-- The markers of a block are switched off together. -/
theorem Opens.ignores_closer {opener : Marker} {opening : Opening} (opens : Opens opener opening) :
    features.ignores opening.kind.closer = features.ignores opener := by
  cases opens <;> rfl

/-- A block whose markers are switched off leaves nothing of itself to a walk. -/
theorem Opens.visits_ignored {opener : Marker} {opening : Opening} (opens : Opens opener opening)
    (ignored : features.ignores opener = true) (span : Span) (body : List Node) :
    (opening.node span body).visits = visitsOf body := by
  cases opens with
  | conditional => simp [Opening.node, Node.visits]
  | loop => simp [Opening.node, Node.visits]
  | region => cases ignored

/-- What a walk comes to in a block depends on its body by what the walk comes to there. -/
theorem Opening.visits_congr (opening : Opening) (span : Span) {body body' : List Node}
    (same : visitsOf body' = visitsOf body) : (opening.node span body').visits = (opening.node span body).visits := by
  cases opening <;> simp [node, Node.visits, same]

/-- A block that is left in force, in the text and in what its pieces derive. -/
theorem Derives.block {start : Nat} {opening : Opening} {opener closer : Token} {inside rest : List Piece}
    {body nodes : List Node} (opens : Opens opener.marker opening) (closes : closer.marker = opening.kind.closer)
    (derives : Derives (start + opener.spelling.length) inside body)
    (more : Derives (start + opener.spelling.length + extent inside + closer.spelling.length) rest nodes) :
    Derives start (.token opener :: inside ++ .token closer :: rest)
      (opening.node ⟨start, start + opener.spelling.length, start + opener.spelling.length + extent inside,
        start + opener.spelling.length + extent inside + closer.spelling.length⟩ body :: nodes) := by
  obtain ⟨marker, spelling⟩ := opener
  obtain ⟨marker', spelling'⟩ := closer
  simp only at opens closes
  subst closes
  cases opens with
  | conditional => exact .conditional derives more
  | loop differ => exact .loop differ derives more
  | region => exact .region derives more

/-- A conditional with both branches that is left in force. -/
theorem Derives.division {start : Nat} {condition : String} {opener turn closer : Token}
    {first second rest : List Piece} {accepted rejected nodes : List Node} (opens : opener.marker = .ifOpen condition)
    (turns : turn.marker = .ifElse) (closes : closer.marker = .ifClose)
    (derives : Derives (start + opener.spelling.length) first accepted)
    (other : Derives (start + opener.spelling.length + extent first + turn.spelling.length) second rejected)
    (more : Derives (start + opener.spelling.length + extent first + turn.spelling.length + extent second +
      closer.spelling.length) rest nodes) :
    Derives start (.token opener :: (first ++ .token turn :: (second ++ .token closer :: rest)))
      (.conditional condition accepted rejected :: nodes) := by
  obtain ⟨marker, spelling⟩ := opener
  obtain ⟨marker₁, spelling₁⟩ := turn
  obtain ⟨marker₂, spelling₂⟩ := closer
  simp only at opens turns closes
  subst opens turns closes
  simpa using Derives.choice derives other more

/-- A marker that is switched off, before pieces. -/
theorem Derives.ignored {start : Nat} {t : Token} {rest : List Piece} {nodes : List Node}
    (ignored : features.ignores t.marker = true)
    (derives : Derives (start + t.spelling.length) (literal features rest) nodes) :
    ∃ nodes', Derives start (literal features (.token t :: rest)) nodes' ∧ visitsOf nodes' = visitsOf nodes := by
  rw [← String.length_toList] at derives
  rw [literal_ignored ignored]
  exact derives.prepend

theorem derives_literal_nil (start : Nat) : Derives start (literal features []) [] :=
  .nil

mutual

/-- A part before pieces, with markers switched off: the walk comes to what it comes to in the part, and goes on. -/
theorem Concrete.derives_literal (part : Concrete) {start : Nat} {rest : List Piece} {nodes : List Node}
    (more : Derives (start + extent part.pieces) (literal features rest) nodes) :
    ∃ nodes', Derives start (literal features (part.pieces ++ rest)) nodes' ∧
      visitsOf nodes' = (part.node start).visits ++ visitsOf nodes := by
  cases part with
  | text s =>
    simp only [Concrete.pieces, extent_singleton, Piece.length] at more
    obtain ⟨nodes', derives, same⟩ := more.prepend
    exact ⟨nodes', derives, by simp [Concrete.node, visits_text, same]⟩
  | leaf mark node stands =>
    obtain ⟨⟨marker, spelling⟩, spelled⟩ := mark
    simp only [Concrete.pieces, extent_singleton, Piece.length] at more
    cases stands with
    | slot => exact ⟨_, .slot more, by simp [Concrete.node]⟩
    | call => exact ⟨_, .call more, by simp [Concrete.node]⟩
  | block opening opener closer opens closes inside =>
    have together : features.ignores closer.marker = features.ignores opener.marker := by
      rw [closes, opens.ignores_closer]
    rw [extent_block, ← Nat.add_assoc, ← Nat.add_assoc] at more
    simp only [Concrete.pieces, Concrete.node, List.cons_append, List.append_assoc, List.nil_append]
    cases ignored : features.ignores opener.marker with
    | true =>
      -- The markers are literal text, so what is inside stands before the text of the closing one.
      obtain ⟨closed, derives₁, same₁⟩ := more.ignored (together.trans ignored)
      obtain ⟨body, derives₂, same₂⟩ := derives_literal inside derives₁
      obtain ⟨whole, derives₃, same₃⟩ := derives₂.ignored ignored
      exact ⟨whole, derives₃, by rw [same₃, same₂, same₁, opens.visits_ignored ignored]⟩
    | false =>
      obtain ⟨body, derives, same⟩ := derives_literal inside (derives_literal_nil _)
      rw [List.append_nil] at derives
      rw [visitsOf_nil, List.append_nil] at same
      have whole := Derives.block opens closes derives (by rwa [extent_literal])
      rw [extent_literal] at whole
      rw [literal_kept ignored, literal_append_kept (together.trans ignored)]
      exact ⟨_, whole, by rw [visitsOf_cons, opening.visits_congr _ same]; rfl⟩
  | choice condition opener turn closer opens turns closes accepted rejected =>
    have turned : features.ignores turn.marker = features.ignores opener.marker := by
      rw [turns, opens]
      rfl
    have together : features.ignores closer.marker = features.ignores opener.marker := by
      rw [closes, opens]
      rfl
    rw [extent_choice] at more
    simp only [← Nat.add_assoc] at more
    simp only [Concrete.pieces, Concrete.node, List.cons_append, List.append_assoc, List.nil_append]
    cases ignored : features.ignores opener.marker with
    | true =>
      obtain ⟨closed, derives₁, same₁⟩ := more.ignored (together.trans ignored)
      obtain ⟨second, derives₂, same₂⟩ := derives_literal rejected derives₁
      obtain ⟨divided, derives₃, same₃⟩ := derives₂.ignored (turned.trans ignored)
      obtain ⟨first, derives₄, same₄⟩ := derives_literal accepted derives₃
      obtain ⟨whole, derives₅, same₅⟩ := derives₄.ignored ignored
      exact ⟨whole, derives₅, by rw [same₅, same₄, same₃, same₂, same₁, Node.visits, List.append_assoc]⟩
    | false =>
      obtain ⟨first, derives₁, same₁⟩ := derives_literal accepted (derives_literal_nil _)
      obtain ⟨second, derives₂, same₂⟩ := derives_literal rejected (derives_literal_nil _)
      rw [List.append_nil] at derives₁ derives₂
      rw [visitsOf_nil, List.append_nil] at same₁ same₂
      have whole := Derives.division opens turns closes derives₁ (by rwa [extent_literal])
        (by rwa [extent_literal, extent_literal])
      rw [literal_kept ignored, literal_append_kept (turned.trans ignored),
        literal_append_kept (together.trans ignored)]
      exact ⟨_, whole, by rw [visitsOf_cons, Node.visits, Node.visits, same₁, same₂]⟩

theorem derives_literal (parts : List Concrete) {start : Nat} {rest : List Piece} {nodes : List Node}
    (more : Derives (start + extent (piecesOf parts)) (literal features rest) nodes) :
    ∃ nodes', Derives start (literal features (piecesOf parts ++ rest)) nodes' ∧
      visitsOf nodes' = visitsOf (nodesFrom start parts) ++ visitsOf nodes := by
  cases parts with
  | nil => exact ⟨nodes, by simpa [piecesOf] using more, by simp [nodesFrom]⟩
  | cons part parts =>
    rw [piecesOf, extent_append, ← Nat.add_assoc] at more
    obtain ⟨after, derives, same⟩ := derives_literal parts more
    obtain ⟨nodes', derives', same'⟩ := part.derives_literal derives
    rw [← List.append_assoc] at derives'
    exact ⟨nodes', derives', by rw [same', same, nodesFrom, visitsOf_cons, List.append_assoc]⟩

end

end Literal

/-- What a text that is read derives with markers switched off. -/
theorem derives_literal_of_parse {source : String} {nodes : List Node} (read : parse {} source = .ok nodes)
    (features : Features) :
    ∃ nodes', Derives 0 (literal features (scan source.toList)) nodes' ∧ visitsOf nodes' = visitsOf nodes := by
  obtain ⟨parts, cut, rfl⟩ := parts_of_parse read
  obtain ⟨nodes', derives, same⟩ := derives_literal parts (derives_literal_nil _)
  rw [List.append_nil, ← cut] at derives
  rw [visitsOf_nil, List.append_nil] at same
  exact ⟨nodes', derives, same⟩

theorem Parses.regionsPaired {source : String} (reads : Parses source) : RegionsPaired source := by
  obtain ⟨nodes, read⟩ := reads
  obtain ⟨nodes', derives, _⟩ := derives_literal_of_parse read .plain
  exact parses_plain_iff.mp ⟨nodes', parse_of_derives_literal derives⟩

/-- A text that is read is read as well with any kinds of markers switched off, and a walk through either tree
comes to the same variables, calls and regions: the regions with the same names and offsets, and each with the same
variables and calls in its body. -/
theorem parse_visits {source : String} {nodes : List Node} (read : parse {} source = .ok nodes) (features : Features) :
    ∃ nodes', parse features source = .ok nodes' ∧ visitsOf nodes' = visitsOf nodes := by
  obtain ⟨nodes', derives, same⟩ := derives_literal_of_parse read features
  exact ⟨nodes', parse_of_derives_literal derives, same⟩

/-- An invitation with a block in a branch, a loop in the block, and another block after it. -/
def invitation : String :=
  spellMarker "#if late" ++ spellRegion .block "head" (spellSlot "who" ++
    spellBlock .loop "days as day" (spellMarker "upper(day)")) ++ spellMarker "#else" ++ "Soon" ++
    spellMarker "/if" ++ spellRegion .sect "foot" (spellMarker "who")

/-- What a walk through the invitation comes to. -/
def invitationWalk : List Visit :=
  let who := Leaf.slot "who" (spellSlot "who")
  let day := Leaf.call "upper" ["day"] (spellMarker "upper(day)")
  [ .region ⟨.block, "head", ⟨12, 27, 76, 86⟩⟩ [who, day],
    .leaf who,
    .leaf day,
    .region ⟨.sect, "foot", ⟨106, 123, 130, 142⟩⟩ [.slot "who" (spellMarker "who")],
    .leaf (.slot "who" (spellMarker "who")) ]

theorem invitation_visited :
    Parses invitation ∧ ∃ nodes, parse ⟨false, true⟩ invitation = .ok nodes ∧ visitsOf nodes = invitationWalk := by
  have walk : (parse {} invitation).toOption.map visitsOf = some invitationWalk := by decide +kernel
  cases read : parse {} invitation with
  | error e =>
    rw [read] at walk
    cases walk
  | ok nodes =>
    obtain ⟨nodes', read', same⟩ := parse_visits read ⟨false, true⟩
    rw [read] at walk
    exact ⟨⟨nodes, read⟩, nodes', read', same.trans (Option.some.inj walk)⟩

end Stencil.Markup
