import Stencil.Markup.Spelling
import Stencil.Proofs.Markup.Concrete
import Stencil.Proofs.Markup.Print

/-!
Template text without unfinished markers.

Text that is read can still have the beginning of a marker in its literal text, and what is written next to it
may finish that marker. `Finished` excludes this: such texts stay what they are next to each other and between
the markers of a region (`Finished.append`, `Finished.spellRegion`). Having no opening brace in literal text is a
simpler condition that suffices (`Clean.finished`).
-/

namespace Stencil.Markup

mutual

/-- The literal texts in a node. -/
def Node.texts : Node → List String
  | .text s => [s]
  | .slot _ _ => []
  | .call _ _ _ => []
  | .conditional _ accepted rejected => textsOf accepted ++ textsOf rejected
  | .loop _ _ body => textsOf body
  | .region _ _ _ body => textsOf body

/-- The literal texts in nodes. -/
def textsOf : List Node → List String
  | [] => []
  | node :: rest => node.texts ++ textsOf rest

end

/-- Text that is read. -/
def Parses (source : String) : Prop :=
  ∃ nodes, parse {} source = .ok nodes

instance (source : String) : Decidable (Parses source) :=
  decidable_of_iff ((parse {} source).isOk = true) <| by
    unfold Parses
    cases parse {} source <;> simp [Except.isOk, Except.toBool]

/-- Text that is read, without an opening brace in its literal text. -/
def Clean (source : String) : Prop :=
  ∃ nodes, parse {} source = .ok nodes ∧ ∀ s ∈ textsOf nodes, '{' ∉ s.toList

instance (source : String) : Decidable (Clean source) :=
  match read : parse {} source with
  | .ok nodes =>
    decidable_of_iff (∀ s ∈ textsOf nodes, '{' ∉ s.toList) <| by
      refine ⟨fun free => ⟨nodes, read, free⟩, ?_⟩
      rintro ⟨nodes', read', free⟩
      cases Except.ok.inj (read.symm.trans read')
      exact free
  | .error _ => .isFalse <| by
      rintro ⟨nodes, read', _⟩
      cases read.symm.trans read'

/-- Text that is read, without the beginning of a marker in its literal text. -/
def Finished (source : String) : Prop :=
  ∃ nodes, parse {} source = .ok nodes ∧ ∀ s ∈ textsOf nodes, Inert s.toList

theorem Clean.finished {source : String} : Clean source → Finished source
  | ⟨nodes, read, free⟩ => ⟨nodes, read, fun s member => inert_of_free (free s member)⟩

theorem Finished.parses {source : String} : Finished source → Parses source
  | ⟨nodes, read, _⟩ => ⟨nodes, read⟩

/-- Pieces that are found again in their text. -/
structure Legible (pieces : List Piece) : Prop where
  settled : Settled pieces
  firm : ∀ piece ∈ pieces, piece.Firm

theorem legible_nil : Legible [] :=
  ⟨⟨List.not_mem_nil, .nil⟩, fun _ member => absurd member List.not_mem_nil⟩

theorem Legible.scan_written {pieces : List Piece} (legible : Legible pieces) : scan (written pieces) = pieces :=
  scan_written_of_firm legible.settled legible.firm

theorem Legible.tail {piece : Piece} {pieces : List Piece} (legible : Legible (piece :: pieces)) : Legible pieces :=
  ⟨legible.settled.tail, fun p member => legible.firm p (List.mem_cons_of_mem _ member)⟩

theorem Legible.left {first second : List Piece} (legible : Legible (first ++ second)) : Legible first :=
  ⟨legible.settled.left, fun piece member => legible.firm piece (List.mem_append_left _ member)⟩

theorem Legible.right {first second : List Piece} (legible : Legible (first ++ second)) : Legible second :=
  ⟨legible.settled.right, fun piece member => legible.firm piece (List.mem_append_right _ member)⟩

theorem Legible.of_infix {inner pieces : List Piece} (legible : Legible pieces) (inside : inner <:+: pieces) :
    Legible inner := by
  obtain ⟨before, after, rfl⟩ := inside
  exact legible.left.right

theorem Legible.token {pieces : List Piece} {t : Token} (spelled : Spells t.marker t.spelling.toList)
    (legible : Legible pieces) : Legible (.token t :: pieces) :=
  ⟨legible.settled.token t, List.forall_mem_cons.mpr ⟨spelled, legible.firm⟩⟩

/-- Whether pieces begin with literal text. -/
def BeginsWithText (pieces : List Piece) : Prop :=
  ∃ s, pieces.head? = some (.text s)

theorem not_beginsWithText_token (t : Token) (pieces : List Piece) : ¬ BeginsWithText (.token t :: pieces) := by
  rintro ⟨s, head⟩
  cases head

theorem Legible.not_beginsWithText {s : List Char} {pieces : List Piece} (legible : Legible (.text s :: pieces)) :
    ¬ BeginsWithText pieces := by
  rintro ⟨t, head⟩
  exact legible.settled.apart.rel_head? head

/-- What follows legible literal text can be exchanged for something else that does not begin with text. -/
theorem Legible.text {s : List Char} {pieces after : List Piece} (legible : Legible (.text s :: pieces))
    (apart : ¬ BeginsWithText after) (more : Legible after) : Legible (.text s :: after) := by
  have here := legible.firm _ (List.mem_cons_self ..)
  refine ⟨⟨?_, more.settled.apart.cons ?_⟩, List.forall_mem_cons.mpr ⟨here, more.firm⟩⟩
  · rw [List.mem_cons, not_or]
    exact ⟨fun empty => legible.settled.filled (empty ▸ List.mem_cons_self ..), more.settled.filled⟩
  · intro next head
    cases next with
    | text t => exact absurd ⟨t, head⟩ apart
    | token t => trivial

/-- Pieces may stand one after the other if no literal text is divided between them. -/
theorem Legible.append {first second : List Piece} (legible : Legible first) (more : Legible second)
    (apart : ∀ last ∈ first.getLast?, ∀ next ∈ second.head?, last.Apart next) : Legible (first ++ second) := by
  refine ⟨⟨?_, legible.settled.apart.append more.settled.apart apart⟩, ?_⟩
  · intro member
    rcases List.mem_append.mp member with inside | inside
    · exact legible.settled.filled inside
    · exact more.settled.filled inside
  · intro piece member
    rcases List.mem_append.mp member with inside | inside
    · exact legible.firm piece inside
    · exact more.firm piece inside

/-- Pieces may stand before a marker and what follows it. -/
theorem Legible.append_token {first second : List Piece} {t : Token} (legible : Legible first)
    (more : Legible (.token t :: second)) : Legible (first ++ .token t :: second) := by
  refine legible.append more fun last _ next head => ?_
  cases head
  exact last.apart_token t

theorem Token.Stands.texts {t : Token} {node : Node} (stands : t.Stands node) : node.texts = [] := by
  cases stands <;> rfl

mutual

/-- The literal texts of the node of a part are those among its pieces. -/
theorem Concrete.mem_texts (part : Concrete) (start : Nat) (s : List Char) :
    String.ofList s ∈ (part.node start).texts ↔ .text s ∈ part.pieces := by
  cases part with
  | text t => simp [Concrete.node, Concrete.pieces, Node.texts, String.ofList_inj]
  | leaf mark node stands => simp [Concrete.node, Concrete.pieces, stands.texts]
  | block opening opener closer opens closes inside =>
    have ih := mem_textsOf inside (start + opener.spelling.length) s
    cases opening <;> simp [Concrete.node, Concrete.pieces, Opening.node, Node.texts, textsOf, ih]
  | choice condition opener turn closer opens turns closes accepted rejected =>
    have first := mem_textsOf accepted (start + opener.spelling.length) s
    have second := mem_textsOf rejected
      (start + opener.spelling.length + extent (piecesOf accepted) + turn.spelling.length) s
    simp [Concrete.node, Concrete.pieces, Node.texts, first, second]

theorem mem_textsOf (parts : List Concrete) (start : Nat) (s : List Char) :
    String.ofList s ∈ textsOf (nodesFrom start parts) ↔ .text s ∈ piecesOf parts := by
  cases parts with
  | nil => simp [nodesFrom, piecesOf, textsOf]
  | cons part rest =>
    have ih := mem_textsOf rest (start + extent part.pieces) s
    simp [nodesFrom, piecesOf, textsOf, part.mem_texts start s, ih]

end

/-- A finished text has a concrete tree with legible pieces. -/
theorem Finished.parts {source : String} (finished : Finished source) :
    ∃ parts, scan source.toList = piecesOf parts ∧ Legible (piecesOf parts) := by
  obtain ⟨nodes, read, inert⟩ := finished
  obtain ⟨parts, cut, rfl⟩ := parts_of_parse read
  refine ⟨parts, cut, cut ▸ settled_scan _, fun piece member => ?_⟩
  cases piece with
  | text s =>
    have here := inert _ ((mem_textsOf parts 0 s).mpr member)
    rwa [String.toList_ofList] at here
  | token t => exact spells_of_mem_scan (cut ▸ member)

/-- What is written from a concrete tree with legible pieces is finished. -/
theorem finished_of_parts {parts : List Concrete} (legible : Legible (piecesOf parts)) :
    Finished (String.ofList (written (piecesOf parts))) := by
  have cut : scan (String.ofList (written (piecesOf parts))).toList = piecesOf parts := by
    rw [String.toList_ofList, legible.scan_written]
  refine ⟨_, parse_of_parts cut, fun s member => ?_⟩
  rw [← String.ofList_toList (s := s), mem_textsOf] at member
  exact legible.firm _ member

theorem Finished.legible {source : String} (finished : Finished source) : Legible (scan source.toList) := by
  obtain ⟨parts, cut, legible⟩ := finished.parts
  rwa [cut]

/-- Text is finished exactly if its markers are balanced and its pieces firm. -/
theorem finished_iff {source : String} :
    Finished source ↔ Balanced (markers (scan source.toList)) ∧ ∀ piece ∈ scan source.toList, piece.Firm := by
  constructor
  · intro finished
    have firm := finished.legible.firm
    obtain ⟨nodes, read, _⟩ := finished
    exact ⟨balanced_of_parse read, firm⟩
  · rintro ⟨balanced, firm⟩
    obtain ⟨nodes, derives⟩ := balanced.derivable _ rfl 0
    obtain ⟨parts, cut, rfl⟩ := parts_of_derives derives fun t => firm (.token t)
    have finished : Finished (String.ofList (written (piecesOf parts))) :=
      finished_of_parts (cut ▸ ⟨settled_scan _, firm⟩)
    rwa [← cut, written_scan, String.ofList_toList] at finished

@[simp] theorem markers_prepend (s : List Char) (pieces : List Piece) :
    markers (Piece.prepend s pieces) = markers pieces := by
  unfold Piece.prepend
  split <;> rfl

theorem firm_prepend {s : List Char} {pieces : List Piece} (inert : Inert s) (firm : ∀ piece ∈ pieces, piece.Firm) :
    ∀ piece ∈ Piece.prepend s pieces, piece.Firm := by
  unfold Piece.prepend
  split
  · obtain ⟨first, rest⟩ := List.forall_mem_cons.mp firm
    exact List.forall_mem_cons.mpr ⟨inert.append first, rest⟩
  · exact List.forall_mem_cons.mpr ⟨inert, firm⟩

/-- Legible pieces keep their markers whatever text is written after them. -/
theorem Legible.scan_append {pieces : List Piece} (legible : Legible pieces) (rest : List Char) :
    markers (scan (written pieces ++ rest)) = markers pieces ++ markers (scan rest) ∧
      ((∀ piece ∈ scan rest, piece.Firm) → ∀ piece ∈ scan (written pieces ++ rest), piece.Firm) := by
  induction pieces with
  | nil => exact ⟨rfl, id⟩
  | cons piece pieces ih =>
    obtain ⟨same, firm⟩ := ih legible.tail
    have here := legible.firm piece (List.mem_cons_self ..)
    rw [written_cons, List.append_assoc]
    cases piece with
    | text s =>
      have nonempty : s ≠ [] := by
        rintro rfl
        exact legible.settled.filled (List.mem_cons_self ..)
      rw [Piece.chars, scan_append_text nonempty here]
      exact ⟨by rw [markers_prepend, same]; rfl, fun more => firm_prepend here (firm more)⟩
    | token t =>
      rw [Piece.chars, scan_append_form here, markers_token, same]
      refine ⟨rfl, fun more => List.forall_mem_cons.mpr ⟨?_, firm more⟩⟩
      rwa [String.ofList_toList]

/-- A finished text has its markers before those of any text after it, and adds no unfinished one. -/
theorem Finished.scan_append {source : String} (finished : Finished source) (rest : List Char) :
    markers (scan (source.toList ++ rest)) = markers (scan source.toList) ++ markers (scan rest) ∧
      ((∀ piece ∈ scan rest, piece.Firm) → ∀ piece ∈ scan (source.toList ++ rest), piece.Firm) := by
  have both := finished.legible.scan_append rest
  rwa [written_scan] at both

/-- Finished texts may be written one after the other. -/
theorem Finished.append {first second : String} (finished : Finished first) (more : Finished second) :
    Finished (first ++ second) := by
  obtain ⟨same, firm⟩ := finished.scan_append second.toList
  obtain ⟨balanced, _⟩ := finished_iff.mp finished
  obtain ⟨balanced', firm'⟩ := finished_iff.mp more
  rw [finished_iff, String.toList_append, same]
  exact ⟨balanced.append balanced', firm firm'⟩

theorem finished_of_free {source : String} (free : '{' ∉ source.toList) : Finished source := by
  rcases eq_or_ne source.toList [] with empty | nonempty
  · rw [finished_iff, empty, scan.eq_def]
    exact ⟨.nil, fun _ member => absurd member List.not_mem_nil⟩
  · have cut := scan_append_text nonempty (inert_of_free free) []
    rw [List.append_nil, scan.eq_def []] at cut
    rw [finished_iff, cut]
    exact ⟨.nil, List.forall_mem_singleton.mpr (inert_of_free free)⟩

/-- A finished text may be made the body of a region. -/
theorem Finished.spellRegion {body : String} (finished : Finished body) (kind : RegionKind) {name : String}
    (named : IsRegionName name.toList) : Finished (spellRegion kind name body) := by
  obtain ⟨balanced, _⟩ := finished_iff.mp finished
  have closed := scan_append_form (spells_closer (.region kind)) []
  rw [List.append_nil, scan.eq_def []] at closed
  obtain ⟨same, firm⟩ := finished.scan_append (spellCloser (.region kind)).toList
  rw [closed] at same firm
  rw [finished_iff, Markup.spellRegion, spellBlock_eq, String.toList_append, String.toList_append, List.append_assoc,
    scan_append_form (spells_region named), markers_token, same]
  refine ⟨.region balanced .nil, List.forall_mem_cons.mpr ⟨?_, firm (List.forall_mem_singleton.mpr ?_)⟩⟩
  · rw [Piece.Firm, String.toList_ofList]
    exact spells_region named
  · rw [Piece.Firm, String.toList_ofList]
    exact spells_closer (.region kind)

end Stencil.Markup
