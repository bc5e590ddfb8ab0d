import Stencil.Proofs.Markup.Finished

/-!
The normal form of trees.

Literal text is never cut in two and never left empty, and what is literal in its place is so by itself. Every list of
nodes in a tree is made of pieces that stand side by side in the text (`stem_of_listsIn`), so all of them are in normal
form (`lists_normal`).
-/

namespace Stencil.Markup

mutual

/-- The lists of nodes in a node: its branches or its body, and the lists in these. -/
def Node.lists : Node → List (List Node)
  | .conditional _ accepted rejected => accepted :: listsIn accepted ++ rejected :: listsIn rejected
  | .loop _ _ body | .region _ _ _ body => body :: listsIn body
  | _ => []

def listsIn : List Node → List (List Node)
  | [] => []
  | node :: rest => node.lists ++ listsIn rest

end

/-- Whether two nodes may follow each other: literal text is one node. -/
def Node.Apart : Node → Node → Prop
  | .text _, .text _ => False
  | _, _ => True

theorem Node.apart_iff {node next : Node} : node.Apart next ↔ ∀ s t, node = .text s → next ≠ .text t := by
  unfold Apart
  split
  · rename_i s t
    exact ⟨False.elim, fun apart => apart s t rfl rfl⟩
  · rename_i other
    exact ⟨fun _ => other, fun _ => trivial⟩

/-- Nodes without empty or divided literal text, in which every literal text is read as itself. -/
structure Normal (nodes : List Node) : Prop where
  filled : .text "" ∉ nodes
  apart : nodes.IsChain Node.Apart
  alone : ∀ s, .text s ∈ nodes → parse {} s = .ok [.text s]

theorem Token.Stands.lists {t : Token} {node : Node} (stands : t.Stands node) : node.lists = [] := by
  cases stands <;> rfl

theorem Token.Stands.ne_text {t : Token} {node : Node} (stands : t.Stands node) (s : String) : node ≠ .text s := by
  cases stands <;> nofun

section Texts

variable {parts : List Concrete} {start : Nat} {s : String}

/-- Only literal text is read as literal text. -/
theorem Concrete.of_node_eq_text {part : Concrete} (same : part.node start = .text s) : part = .text s.toList := by
  cases part with
  | text t =>
    cases same
    rw [String.toList_ofList]
  | leaf mark node stands => exact absurd same (stands.ne_text s)
  | block opening => cases opening <;> cases same
  | choice => cases same

theorem piece_of_text_mem (member : .text s ∈ nodesFrom start parts) : [.text s.toList] <:+: piecesOf parts := by
  induction parts generalizing start with
  | nil => cases member
  | cons part rest ih =>
    rw [piecesOf]
    rcases List.mem_cons.mp member with same | member
    · have whole := Concrete.of_node_eq_text same.symm
      subst whole
      exact (List.prefix_append _ _).isInfix
    · exact (ih member).trans (List.suffix_append _ _).isInfix

theorem apart_nodesFrom (apart : (piecesOf parts).IsChain Piece.Apart) : (nodesFrom start parts).IsChain Node.Apart := by
  induction parts generalizing start with
  | nil => exact .nil
  | cons part rest ih =>
    rw [piecesOf] at apart
    refine (ih apart.right_of_append).cons fun next head => ?_
    cases rest with
    | nil => cases head
    | cons part' rest =>
      cases head
      refine Node.apart_iff.mpr fun s t first second => ?_
      have text := Concrete.of_node_eq_text first
      have text' := Concrete.of_node_eq_text second
      subst text text'
      exact (List.isChain_cons_cons.mp apart).1

end Texts

/-- Nodes from pieces that stand side by side in a text are in normal form. -/
theorem normal_of_infix {parts : List Concrete} {source : List Char} (within : piecesOf parts <:+: scan source)
    (start : Nat) : Normal (nodesFrom start parts) where
  filled member := by
    have piece := (piece_of_text_mem member).trans within
    exact (settled_scan source).filled (piece.subset (List.mem_singleton_self _))
  apart := by
    obtain ⟨before, after, whole⟩ := within
    have settled := settled_scan source
    rw [← whole] at settled
    exact apart_nodesFrom settled.left.right.apart
  alone s member := by
    have cut := scan_written_of_infix ((piece_of_text_mem member).trans within)
    have alone : scan s.toList = piecesOf [.text s.toList] := by
      simpa [piecesOf, Concrete.pieces, Piece.chars] using cut
    have read := parse_of_parts alone
    simpa [nodesFrom, Concrete.node] using read

/-- Nodes that come from parts of which the pieces stand side by side among others. -/
def Stem (pieces : List Piece) (nodes : List Node) : Prop :=
  ∃ parts start, nodes = nodesFrom start parts ∧ piecesOf parts <:+: pieces

theorem Stem.mono {pieces pieces' : List Piece} {nodes : List Node} (stem : Stem pieces nodes)
    (within : pieces <:+: pieces') : Stem pieces' nodes := by
  obtain ⟨parts, start, same, inside⟩ := stem
  exact ⟨parts, start, same, inside.trans within⟩

mutual

theorem Concrete.stem_of_lists (part : Concrete) (start : Nat) {nodes : List Node}
    (member : nodes ∈ (part.node start).lists) : Stem part.pieces nodes := by
  cases part with
  | text s => exact absurd member List.not_mem_nil
  | leaf mark node stands =>
    rw [Concrete.node, stands.lists] at member
    exact absurd member List.not_mem_nil
  | block opening opener closer opens closes inside =>
    have within : piecesOf inside <:+: (Concrete.block opening opener closer opens closes inside).pieces :=
      ⟨[.token opener.toToken], [.token closer.toToken], rfl⟩
    have body {nodes : List Node} (member : nodes ∈ nodesFrom (start + opener.spelling.length) inside ::
        listsIn (nodesFrom (start + opener.spelling.length) inside)) : Stem _ nodes :=
      (stem_of_listsIn inside _ member).mono within
    cases opening with
    | conditional condition =>
      rcases List.mem_append.mp member with member | member
      · exact body member
      · -- Without an else marker the second branch is empty.
        exact ⟨[], start, List.mem_singleton.mp member, List.nil_infix⟩
    | loop | region => exact body member
  | choice condition opener turn closer opens turns closes accepted rejected =>
    rcases List.mem_append.mp member with member | member
    · refine (stem_of_listsIn accepted _ member).mono ⟨[.token opener.toToken],
        .token turn.toToken :: piecesOf rejected ++ [.token closer.toToken], ?_⟩
      simp [Concrete.pieces]
    · refine (stem_of_listsIn rejected _ member).mono
        ⟨.token opener.toToken :: piecesOf accepted ++ [.token turn.toToken], [.token closer.toToken], ?_⟩
      simp [Concrete.pieces]

/-- Every list of nodes in a tree has its pieces side by side in the text. -/
theorem stem_of_listsIn (parts : List Concrete) (start : Nat) {nodes : List Node}
    (member : nodes ∈ nodesFrom start parts :: listsIn (nodesFrom start parts)) : Stem (piecesOf parts) nodes := by
  rcases List.mem_cons.mp member with rfl | member
  · exact ⟨parts, start, rfl, List.infix_rfl⟩
  cases parts with
  | nil => exact absurd member List.not_mem_nil
  | cons part rest =>
    rw [piecesOf]
    rcases List.mem_append.mp member with member | member
    · exact (part.stem_of_lists start member).mono (List.prefix_append ..).isInfix
    · exact (stem_of_listsIn rest _ (List.mem_cons_of_mem _ member)).mono (List.suffix_append ..).isInfix

end

/-- Every list of nodes in the tree of a text is in normal form: the tree itself, branches and bodies at any depth. -/
theorem lists_normal {source : String} {nodes : List Node} (read : parse {} source = .ok nodes) :
    ∀ list ∈ nodes :: listsIn nodes, Normal list := by
  intro list member
  obtain ⟨parts, cut, rfl⟩ := parts_of_parse read
  obtain ⟨inside, start, rfl, within⟩ := stem_of_listsIn parts 0 member
  rw [← cut] at within
  exact normal_of_infix within start

/-- A ticket with calls, conditions and variables in its literal text that are begun and never finished. -/
def ticket : String :=
  "To \x7b" ++ spellBlock .conditional "seat" ("\x7b\x7brow(" ++ spellSlot "row" ++ "\x7d" ++ spellMarker "#else" ++
    spellBlock .loop "extras as extra" "+ \x7b\x7b#if") ++ "\x7b\x7bname"

theorem ticket_normal :
    (parse {} ticket).map textsOf = .ok ["To \x7b", "\x7b\x7brow(", "\x7d", "+ \x7b\x7b#if", "\x7b\x7bname"] ∧
      ∃ nodes, parse {} ticket = .ok nodes ∧ ∀ list ∈ nodes :: listsIn nodes, Normal list := by
  have texts : (parse {} ticket).map textsOf = .ok ["To \x7b", "\x7b\x7brow(", "\x7d", "+ \x7b\x7b#if", "\x7b\x7bname"] := by
    decide +kernel
  obtain ⟨nodes, read⟩ : Parses ticket := by decide +kernel
  exact ⟨texts, nodes, read, lists_normal read⟩

end Stencil.Markup
