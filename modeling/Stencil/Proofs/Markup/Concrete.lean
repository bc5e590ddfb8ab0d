import Stencil.Proofs.Markup.Acceptance

/-!
Template text as a concrete tree.

A concrete tree has the structure of the nodes that a text is read as, and keeps the spelling of every marker.
So the pieces of the text and the nodes at their places can both be had from it (`piecesOf`, `nodesFrom`), and
every text that is read has one (`parts_of_parse`). What is done to a text between its markers can then be
followed on the tree.
-/

namespace Stencil.Markup

/-- A token whose spelling is a written form of its marker. -/
structure Mark extends Token where
  spelled : Spells marker spelling.toList

/-- A token that is a node by itself. -/
inductive Token.Stands : Token → Node → Prop
  | slot {path spelling} : Stands ⟨.slot path, spelling⟩ (.slot path spelling)
  | call {name arguments spelling} :
      Stands ⟨.call name arguments, spelling⟩ (.call name (splitArguments arguments) spelling)

/-- A part of template text with all its spellings: literal text, a variable or call, a block, or a conditional
with both branches. -/
inductive Concrete where
  | text (s : List Char)
  | leaf (mark : Mark) (node : Node) (stands : mark.toToken.Stands node)
  | block (opening : Opening) (opener closer : Mark) (opens : Opens opener.marker opening)
      (closes : closer.marker = opening.kind.closer) (inside : List Concrete)
  | choice (condition : String) (opener turn closer : Mark) (opens : opener.marker = .ifOpen condition)
      (turns : turn.marker = .ifElse) (closes : closer.marker = .ifClose) (accepted rejected : List Concrete)

mutual

/-- The pieces of a part. -/
def Concrete.pieces : Concrete → List Piece
  | .text s => [.text s]
  | .leaf mark _ _ => [.token mark.toToken]
  | .block _ opener closer _ _ inside => .token opener.toToken :: piecesOf inside ++ [.token closer.toToken]
  | .choice _ opener turn closer _ _ _ accepted rejected =>
    .token opener.toToken :: piecesOf accepted ++ .token turn.toToken :: piecesOf rejected ++ [.token closer.toToken]

/-- The pieces of several parts. -/
def piecesOf : List Concrete → List Piece
  | [] => []
  | part :: rest => part.pieces ++ piecesOf rest

end

/-- Where a block lies that starts at an offset. -/
def spanFrom (start : Nat) (opener closer : Mark) (inside : List Piece) : Span where
  start := start
  bodyStart := start + opener.spelling.length
  bodyEnd := start + opener.spelling.length + extent inside
  stop := start + opener.spelling.length + extent inside + closer.spelling.length

/-- The node of a block. -/
def Opening.node (span : Span) (body : List Node) : Opening → Node
  | .conditional condition => .conditional condition body []
  | .loop array item => .loop array item body
  | .region kind name => .region kind name span body

/-- The region that a block is, if it is one. -/
def Opening.region? (span : Span) : Opening → Option Region
  | .region kind name => some ⟨kind, name, span⟩
  | _ => none

theorem Opening.regions_node (opening : Opening) (span : Span) (body : List Node) :
    (opening.node span body).regions = (opening.region? span).toList ++ regionsOf body := by
  cases opening with
  | conditional condition => simp [node, region?, Node.regions, regionsOf]
  | loop array item => simp [node, region?, Node.regions]
  | region kind name => simp [node, region?, Node.regions]

mutual

/-- The node of a part that starts at an offset. -/
def Concrete.node (start : Nat) : Concrete → Node
  | .text s => .text (String.ofList s)
  | .leaf _ node _ => node
  | .block opening opener closer _ _ inside =>
    opening.node (spanFrom start opener closer (piecesOf inside)) (nodesFrom (start + opener.spelling.length) inside)
  | .choice condition opener turn _ _ _ _ accepted rejected =>
    .conditional condition (nodesFrom (start + opener.spelling.length) accepted)
      (nodesFrom (start + opener.spelling.length + extent (piecesOf accepted) + turn.spelling.length) rejected)

/-- The nodes of parts of which the first starts at an offset. -/
def nodesFrom (start : Nat) : List Concrete → List Node
  | [] => []
  | part :: rest => part.node start :: nodesFrom (start + extent part.pieces) rest

end

section Blocks

variable {opener turn closer : Mark} {inside accepted rejected : List Concrete} {opening : Opening}
  {opens : Opens opener.marker opening} {closes : closer.marker = opening.kind.closer} {condition : String}
  {opens' : opener.marker = .ifOpen condition} {turns : turn.marker = .ifElse} {closes' : closer.marker = .ifClose}

theorem written_block :
    written (Concrete.block opening opener closer opens closes inside).pieces =
      opener.spelling.toList ++ (written (piecesOf inside) ++ closer.spelling.toList) := by
  simp [Concrete.pieces, Piece.chars]

theorem written_choice :
    written (Concrete.choice condition opener turn closer opens' turns closes' accepted rejected).pieces =
      opener.spelling.toList ++ (written (piecesOf accepted) ++
        (turn.spelling.toList ++ (written (piecesOf rejected) ++ closer.spelling.toList))) := by
  simp [Concrete.pieces, Piece.chars]

theorem extent_block :
    extent (Concrete.block opening opener closer opens closes inside).pieces =
      opener.spelling.length + extent (piecesOf inside) + closer.spelling.length := by
  simp [Concrete.pieces, Piece.length, Nat.add_assoc]

theorem extent_choice :
    extent (Concrete.choice condition opener turn closer opens' turns closes' accepted rejected).pieces =
      opener.spelling.length + extent (piecesOf accepted) + turn.spelling.length + extent (piecesOf rejected) +
        closer.spelling.length := by
  simp [Concrete.pieces, Piece.length, Nat.add_assoc]

end Blocks

theorem parts_of_block (opening : Opening) (opener closer : Mark) (opens : Opens opener.marker opening)
    (closes : closer.marker = opening.kind.closer) (inside rest : List Concrete) (start : Nat) :
    ∃ parts, .token opener.toToken :: piecesOf inside ++ .token closer.toToken :: piecesOf rest = piecesOf parts ∧
      opening.node (spanFrom start opener closer (piecesOf inside))
          (nodesFrom (start + opener.spelling.length) inside) ::
          nodesFrom (start + opener.spelling.length + extent (piecesOf inside) + closer.spelling.length) rest =
        nodesFrom start parts := by
  refine ⟨.block opening opener closer opens closes inside :: rest, ?_, ?_⟩
  · simp [piecesOf, Concrete.pieces]
  · rw [nodesFrom, Concrete.node, extent_block, Nat.add_assoc, Nat.add_assoc, Nat.add_assoc]

mutual

/-- A part can stand before whatever derives nodes from where it ends. -/
theorem Concrete.derives_cons (part : Concrete) {start : Nat} {rest : List Piece} {nodes : List Node}
    (more : Derives (start + extent part.pieces) rest nodes) :
    Derives start (part.pieces ++ rest) (part.node start :: nodes) := by
  cases part with
  | text s =>
    simp only [Concrete.pieces, extent_singleton, Piece.length] at more
    exact .text more
  | leaf mark node stands =>
    obtain ⟨⟨marker, spelling⟩, spelled⟩ := mark
    simp only [Concrete.pieces, extent_singleton, Piece.length] at more
    cases stands with
    | slot => exact .slot more
    | call => exact .call more
  | block opening opener closer opens closes inside =>
    obtain ⟨⟨marker, spelling⟩, spelled⟩ := opener
    obtain ⟨⟨marker', spelling'⟩, spelled'⟩ := closer
    simp only at opens closes
    subst closes
    rw [extent_block, ← Nat.add_assoc, ← Nat.add_assoc] at more
    have body := derives_of_parts inside (start + spelling.length)
    simp only [Concrete.pieces, Concrete.node, List.cons_append, List.append_assoc]
    cases opens with
    | conditional => exact .conditional body more
    | loop differ => exact .loop differ body more
    | region => exact .region body more
  | choice condition opener turn closer opens turns closes accepted rejected =>
    obtain ⟨⟨marker, spelling⟩, spelled⟩ := opener
    obtain ⟨⟨marker₁, spelling₁⟩, spelled₁⟩ := turn
    obtain ⟨⟨marker₂, spelling₂⟩, spelled₂⟩ := closer
    simp only at opens turns closes
    subst opens turns closes
    simp only [extent_choice, ← Nat.add_assoc] at more
    have first := derives_of_parts accepted (start + spelling.length)
    have second := derives_of_parts rejected (start + spelling.length + extent (piecesOf accepted) + spelling₁.length)
    have whole : Derives start _ (.conditional condition _ _ :: _) := .choice first second more
    simpa only [Concrete.pieces, Concrete.node, List.cons_append, List.append_assoc, List.nil_append] using whole

theorem derives_of_parts (parts : List Concrete) (start : Nat) :
    Derives start (piecesOf parts) (nodesFrom start parts) := by
  cases parts with
  | nil => exact .nil
  | cons part rest => exact part.derives_cons (derives_of_parts rest _)

end

/-- Every derivation from pieces that are spelled as their markers demand comes from a concrete tree. -/
theorem parts_of_derives {start : Nat} {pieces : List Piece} {nodes : List Node} (derives : Derives start pieces nodes)
    (spelled : ∀ t, .token t ∈ pieces → Spells t.marker t.spelling.toList) :
    ∃ parts, pieces = piecesOf parts ∧ nodes = nodesFrom start parts := by
  induction derives with
  | nil => exact ⟨[], rfl, rfl⟩
  | @text start s _ _ _ ih =>
    obtain ⟨parts, rfl, rfl⟩ := ih fun t member => spelled t (List.mem_cons_of_mem _ member)
    refine ⟨.text s :: parts, rfl, ?_⟩
    simp only [nodesFrom, Concrete.node, Concrete.pieces, extent_singleton, Piece.length]
  | @slot start path spelling _ _ _ ih =>
    obtain ⟨parts, rfl, rfl⟩ := ih fun t member => spelled t (List.mem_cons_of_mem _ member)
    refine ⟨.leaf ⟨⟨.slot path, spelling⟩, spelled _ (List.mem_cons_self ..)⟩ _ .slot :: parts, rfl, ?_⟩
    simp only [nodesFrom, Concrete.node, Concrete.pieces, extent_singleton, Piece.length]
  | @call start name arguments spelling _ _ _ ih =>
    obtain ⟨parts, rfl, rfl⟩ := ih fun t member => spelled t (List.mem_cons_of_mem _ member)
    refine ⟨.leaf ⟨⟨.call name arguments, spelling⟩, spelled _ (List.mem_cons_self ..)⟩ _ .call :: parts, rfl, ?_⟩
    simp only [nodesFrom, Concrete.node, Concrete.pieces, extent_singleton, Piece.length]
  | @conditional start condition opener closer inside rest _ _ _ _ ihBody ihRest =>
    obtain ⟨body, rfl, rfl⟩ := ihBody fun t member => spelled t (by simp [member])
    obtain ⟨parts, rfl, rfl⟩ := ihRest fun t member => spelled t (by simp [member])
    exact parts_of_block (.conditional condition) ⟨⟨.ifOpen condition, opener⟩, spelled _ (by simp)⟩
      ⟨⟨.ifClose, closer⟩, spelled _ (by simp)⟩ .conditional rfl body parts start
  | @choice start condition opener turn closer first second rest _ _ _ _ _ _ ih₁ ih₂ ih₃ =>
    obtain ⟨accepted, rfl, rfl⟩ := ih₁ fun t member => spelled t (by simp [member])
    obtain ⟨rejected, rfl, rfl⟩ := ih₂ fun t member => spelled t (by simp [member])
    obtain ⟨parts, rfl, rfl⟩ := ih₃ fun t member => spelled t (by simp [member])
    refine ⟨.choice condition ⟨⟨.ifOpen condition, opener⟩, spelled _ (by simp)⟩
      ⟨⟨.ifElse, turn⟩, spelled _ (by simp)⟩ ⟨⟨.ifClose, closer⟩, spelled _ (by simp)⟩ rfl rfl rfl accepted rejected ::
      parts, ?_, ?_⟩
    · simp [piecesOf, Concrete.pieces]
    · simp [nodesFrom, Concrete.node, Concrete.pieces, Piece.length, Nat.add_assoc]
  | @loop start array item opener closer inside rest _ _ differ _ _ ihBody ihRest =>
    obtain ⟨body, rfl, rfl⟩ := ihBody fun t member => spelled t (by simp [member])
    obtain ⟨parts, rfl, rfl⟩ := ihRest fun t member => spelled t (by simp [member])
    exact parts_of_block (.loop array item) ⟨⟨.eachOpen array item, opener⟩, spelled _ (by simp)⟩
      ⟨⟨.eachClose, closer⟩, spelled _ (by simp)⟩ (.loop differ) rfl body parts start
  | @region start kind name opener closer inside rest _ _ _ _ ihBody ihRest =>
    obtain ⟨body, rfl, rfl⟩ := ihBody fun t member => spelled t (by simp [member])
    obtain ⟨parts, rfl, rfl⟩ := ihRest fun t member => spelled t (by simp [member])
    exact parts_of_block (.region kind name) ⟨⟨.regionOpen kind name, opener⟩, spelled _ (by simp)⟩
      ⟨⟨.regionClose kind, closer⟩, spelled _ (by simp)⟩ .region rfl body parts start

/-- Text that is read has a concrete tree, which gives the nodes that it is read as. -/
theorem parts_of_parse {source : String} {nodes : List Node} (read : parse {} source = .ok nodes) :
    ∃ parts, scan source.toList = piecesOf parts ∧ nodes = nodesFrom 0 parts := by
  obtain ⟨nodes', derives⟩ := (balanced_of_parse read).derivable _ rfl 0
  cases Except.ok.inj (read.symm.trans (parse_of_derives derives))
  exact parts_of_derives derives fun _ => spells_of_mem_scan

theorem parse_of_parts {source : String} {parts : List Concrete} (cut : scan source.toList = piecesOf parts) :
    parse {} source = .ok (nodesFrom 0 parts) :=
  parse_of_derives (by rw [cut]; exact derives_of_parts parts 0)

end Stencil.Markup
