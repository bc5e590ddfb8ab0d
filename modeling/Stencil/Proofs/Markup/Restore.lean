import Stencil.Proofs.Markup.Literal
import Stencil.Proofs.Markup.Splice

/-!
The text of a tree.

A tree without conditionals and loops still has its whole text: literal text, variables and calls are kept as they
are written, and the source has the markers of a region where its offsets say (`Concrete.restore_node`). Features
that switch conditionals and loops off leave only such trees, so reading loses nothing then (`parse_plain_restores`).
-/

namespace Stencil.Markup

mutual

/-- Whether there is neither a conditional nor a loop in a node. -/
def Node.isPlain : Node → Bool
  | .conditional .. | .loop .. => false
  | .region _ _ _ body => arePlain body
  | _ => true

def arePlain : List Node → Bool
  | [] => true
  | node :: rest => node.isPlain && arePlain rest

end

mutual

/-- The text of a node, with the markers of a region as they stand in the source. Of a conditional or loop only the
contents can be had. -/
def Node.restore (source : List Char) : Node → List Char
  | .text s => s.toList
  | .slot _ spelling | .call _ _ spelling => spelling.toList
  | .conditional _ accepted rejected => restoreNodes source accepted ++ restoreNodes source rejected
  | .loop _ _ body => restoreNodes source body
  | .region _ _ span body =>
    slice source span.start span.bodyStart ++ restoreNodes source body ++ slice source span.bodyEnd span.stop

def restoreNodes (source : List Char) : List Node → List Char
  | [] => []
  | node :: rest => node.restore source ++ restoreNodes source rest

end

/-- Text that is read has a concrete tree over the pieces in which the markers that are switched off are literal. -/
theorem parts_of_parse_literal {features : Features} {source : String} {nodes : List Node}
    (read : parse features source = .ok nodes) :
    ∃ parts, literal features (scan source.toList) = piecesOf parts ∧ nodes = nodesFrom 0 parts := by
  rw [parse_literal] at read
  obtain ⟨nodes', derives⟩ := (balanced_of_ofPieces read).derivable _ rfl 0
  cases Except.ok.inj (read.symm.trans (ofPieces_of_derives derives (settled_literal_scan features _)))
  exact parts_of_derives derives fun t member => spells_of_mem_scan (token_mem_literal.mp member).1

section Plain

variable {source : List Char}

theorem Token.Stands.restore {t : Token} {node : Node} (stands : t.Stands node) :
    node.restore source = t.spelling.toList := by
  cases stands <;> rfl

theorem Token.Stands.isPlain {t : Token} {node : Node} (stands : t.Stands node) : node.isPlain = true := by
  cases stands <;> rfl

/-- Without conditionals and loops, what a marker opens is a region. -/
theorem Opens.eq_region {marker : Marker} {opening : Opening} (opens : Opens marker opening)
    (kept : Features.plain.ignores marker = false) : ∃ kind name, opening = .region kind name := by
  cases opens with
  | conditional => cases kept
  | loop => cases kept
  | @region kind name => exact ⟨kind, name, rfl⟩

mutual

/-- Where no marker of a conditional or loop is in force, the tree is plain. -/
theorem Concrete.isPlain_node (part : Concrete) (start : Nat)
    (kept : ∀ t, .token t ∈ part.pieces → Features.plain.ignores t.marker = false) :
    (part.node start).isPlain = true := by
  cases part with
  | text s => rfl
  | leaf mark node stands => exact stands.isPlain
  | block opening opener closer opens closes inside =>
    have first := kept opener.toToken (by simp [Concrete.pieces])
    have body := arePlain_nodesFrom inside (start + opener.spelling.length) fun t member =>
      kept t (by simp [Concrete.pieces, member])
    obtain ⟨kind, name, rfl⟩ := opens.eq_region first
    exact body
  | choice condition opener turn closer opens turns closes accepted rejected =>
    have first := kept opener.toToken (by simp [Concrete.pieces])
    rw [opens] at first
    cases first

theorem arePlain_nodesFrom (parts : List Concrete) (start : Nat)
    (kept : ∀ t, .token t ∈ piecesOf parts → Features.plain.ignores t.marker = false) :
    arePlain (nodesFrom start parts) = true := by
  cases parts with
  | nil => rfl
  | cons part rest =>
    rw [nodesFrom, arePlain, Bool.and_eq_true]
    exact ⟨part.isPlain_node start fun t member => kept t (List.mem_append_left _ member),
      arePlain_nodesFrom rest _ fun t member => kept t (List.mem_append_right _ member)⟩

end

mutual

/-- A plain part has its text in its node and in the source. -/
theorem Concrete.restore_node (part : Concrete) (start : Nat) (occurs : Occurs source start (written part.pieces))
    (plain : (part.node start).isPlain = true) : (part.node start).restore source = written part.pieces := by
  cases part with
  | text s => simp [Concrete.node, Node.restore, Concrete.pieces, Piece.chars]
  | leaf mark node stands =>
    rw [Concrete.node, stands.restore]
    simp [Concrete.pieces, Piece.chars]
  | block opening opener closer opens closes inside =>
    rw [written_block] at occurs ⊢
    obtain ⟨body, closed⟩ := occurs.contents
    cases opening with
    | conditional => cases plain
    | loop => cases plain
    | region =>
      have first := occurs.left.slice
      have last := closed.slice
      rw [String.length_toList] at first last
      have contents := restoreNodes_nodesFrom inside _ body plain
      rw [Concrete.node, Opening.node, Node.restore, contents, spanFrom]
      simp only [first, last, List.append_assoc]
  | choice => cases plain

theorem restoreNodes_nodesFrom (parts : List Concrete) (start : Nat)
    (occurs : Occurs source start (written (piecesOf parts))) (plain : arePlain (nodesFrom start parts) = true) :
    restoreNodes source (nodesFrom start parts) = written (piecesOf parts) := by
  cases parts with
  | nil => rfl
  | cons part rest =>
    rw [piecesOf, written_append] at occurs ⊢
    rw [nodesFrom, arePlain, Bool.and_eq_true] at plain
    have behind := occurs.right
    rw [← extent] at behind
    rw [nodesFrom, restoreNodes, part.restore_node start occurs.left plain.1,
      restoreNodes_nodesFrom rest _ behind plain.2]

end

end Plain

theorem arePlain_of_parse {source : String} {nodes : List Node} (read : parse .plain source = .ok nodes) :
    arePlain nodes = true := by
  obtain ⟨parts, cut, rfl⟩ := parts_of_parse_literal read
  exact arePlain_nodesFrom parts 0 fun t member => (token_mem_literal.mp (cut ▸ member)).2

/-- Whatever is switched off, a tree without conditionals and loops has the whole text. -/
theorem restoreNodes_of_parse {features : Features} {source : String} {nodes : List Node}
    (read : parse features source = .ok nodes) (plain : arePlain nodes = true) :
    restoreNodes source.toList nodes = source.toList := by
  obtain ⟨parts, cut, rfl⟩ := parts_of_parse_literal read
  have whole : written (piecesOf parts) = source.toList := by rw [← cut, written_literal, written_scan]
  exact (restoreNodes_nodesFrom parts 0 (occurs_of_eq whole) plain).trans whole

/-- With conditionals and loops switched off, a text is read as a tree without them that has the whole text. -/
theorem parse_plain_restores {source : String} {nodes : List Node} (read : parse .plain source = .ok nodes) :
    restoreNodes source.toList nodes = source.toList ∧ arePlain nodes = true :=
  ⟨restoreNodes_of_parse read (arePlain_of_parse read), arePlain_of_parse read⟩

/-- A flyer with a section in a block, and markers of conditionals and loops that have no partner. -/
def flyer : String :=
  spellRegion .block "head" (spellMarker "#if late" ++ "Hi " ++ spellSlot "who" ++
    spellRegion .sect "day" (spellMarker "upper(day)") ++ spellMarker "/each") ++ spellMarker "#else"

theorem flyer_restored :
    RegionsPaired flyer ∧ ∃ nodes, parse .plain flyer = .ok nodes ∧
      restoreNodes flyer.toList nodes = flyer.toList ∧ arePlain nodes = true := by
  have paired : RegionsPaired flyer := by decide +kernel
  obtain ⟨nodes, read⟩ := parses_plain_iff.mpr paired
  exact ⟨paired, nodes, read, parse_plain_restores read⟩

end Stencil.Markup
