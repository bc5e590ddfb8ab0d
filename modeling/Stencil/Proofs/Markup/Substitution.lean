import Stencil.Proofs.Markup.Finished
import Stencil.Proofs.Markup.Region

/-!
Splicing text and substituting trees.

Splicing replaces characters and the result is read anew; substitution replaces the bodies of regions in a tree.
If the texts involved are finished, reading the spliced text gives the tree with the trees of the new bodies
(`replaceRegions_substitutes`). Both are followed on the concrete tree: the spliced text is written from the
concrete tree with new parts (`written_substituteParts`), whose pieces are legible still
(`legible_substituteParts`).
-/

namespace Stencil.Markup

mutual

/-- A node in which some regions get new bodies. -/
def Node.substitute (change : Region → Option (List Node)) : Node → Node
  | .text s => .text s
  | .slot path spelling => .slot path spelling
  | .call name arguments spelling => .call name arguments spelling
  | .conditional condition accepted rejected =>
    .conditional condition (substituteNodes change accepted) (substituteNodes change rejected)
  | .loop array item body => .loop array item (substituteNodes change body)
  | .region kind name span body =>
    .region kind name span ((change ⟨kind, name, span⟩).getD (substituteNodes change body))

/-- Nodes in which some regions get new bodies. -/
def substituteNodes (change : Region → Option (List Node)) : List Node → List Node
  | [] => []
  | node :: rest => node.substitute change :: substituteNodes change rest

end

mutual

/-- A part in which some regions get new bodies. Regions are told by where they were before. -/
def Concrete.substitute (change : Region → Option (List Concrete)) (start : Nat) : Concrete → Concrete
  | .text s => .text s
  | .leaf mark node stands => .leaf mark node stands
  | .block opening opener closer opens closes inside =>
    .block opening opener closer opens closes
      (((opening.region? (spanFrom start opener closer (piecesOf inside))).bind change).getD
        (substituteParts change (start + opener.spelling.length) inside))
  | .choice condition opener turn closer opens turns closes accepted rejected =>
    .choice condition opener turn closer opens turns closes
      (substituteParts change (start + opener.spelling.length) accepted)
      (substituteParts change
        (start + opener.spelling.length + extent (piecesOf accepted) + turn.spelling.length) rejected)

/-- Parts in which some regions get new bodies. -/
def substituteParts (change : Region → Option (List Concrete)) (start : Nat) : List Concrete → List Concrete
  | [] => []
  | part :: rest => part.substitute change start :: substituteParts change (start + extent part.pieces) rest

end

mutual

/-- But for the offsets of regions, a node does not depend on where its part starts. -/
theorem Concrete.bare_node (part : Concrete) (start start' : Nat) :
    (part.node start).bare = (part.node start').bare := by
  cases part with
  | text s => rfl
  | leaf mark node stands => rfl
  | block opening opener closer opens closes inside =>
    have ih := bare_nodesFrom inside (start + opener.spelling.length) (start' + opener.spelling.length)
    cases opening <;> simp only [Concrete.node, Opening.node, Node.bare, ih]
  | choice condition opener turn closer opens turns closes accepted rejected =>
    simp only [Concrete.node, Node.bare]
    rw [bare_nodesFrom accepted _ (start' + opener.spelling.length), bare_nodesFrom rejected]

theorem bare_nodesFrom (parts : List Concrete) (start start' : Nat) :
    bareNodes (nodesFrom start parts) = bareNodes (nodesFrom start' parts) := by
  cases parts with
  | nil => rfl
  | cons part rest =>
    rw [nodesFrom, nodesFrom, bareNodes, bareNodes, part.bare_node start start', bare_nodesFrom rest]

end

/-- Regions get the same bodies as trees and as parts. -/
def SameTrees (trees : Region → Option (List Node)) (change : Region → Option (List Concrete)) (rs : List Region) :
    Prop :=
  ∀ r ∈ rs, trees r = (change r).map (nodesFrom 0)

/-- Regions get the same bodies as texts and as parts. -/
def SameTexts (texts : Region → Option (List Char)) (change : Region → Option (List Concrete)) (rs : List Region) :
    Prop :=
  ∀ r ∈ rs, texts r = (change r).map fun parts => written (piecesOf parts)

section Change

variable {change : Region → Option (List Concrete)}

theorem Token.Stands.substitute {t : Token} {node : Node} (stands : t.Stands node)
    (trees : Region → Option (List Node)) : node.substitute trees = node := by
  cases stands <;> rfl

mutual

theorem Concrete.bare_substitute {trees : Region → Option (List Node)} (part : Concrete) (start start' : Nat)
    (same : SameTrees trees change (part.node start).regions) :
    ((part.substitute change start).node start').bare = ((part.node start).substitute trees).bare := by
  cases part with
  | text s => rfl
  | leaf mark node stands => rw [Concrete.substitute, Concrete.node, Concrete.node, stands.substitute]
  | block opening opener closer opens closes inside =>
    rw [Concrete.node, Opening.regions_node] at same
    obtain ⟨here, inner⟩ := List.forall_mem_append.mp same
    have ih := bare_substituteParts inside _ (start' + opener.spelling.length) inner
    cases opening with
    | conditional condition =>
      simp only [Concrete.substitute, Concrete.node, Opening.node, Opening.region?, Option.bind_none, Option.getD_none,
        Node.substitute, substituteNodes, Node.bare, ih]
    | loop array item =>
      simp only [Concrete.substitute, Concrete.node, Opening.node, Opening.region?, Option.bind_none, Option.getD_none,
        Node.substitute, Node.bare, ih]
    | region kind name =>
      have made := here _ (List.mem_singleton_self _)
      simp only [Concrete.substitute, Concrete.node, Opening.node, Opening.region?, Option.bind_some, Node.substitute,
        Node.bare, made]
      cases change ⟨kind, name, spanFrom start opener closer (piecesOf inside)⟩ with
      | none => simp only [Option.map_none, Option.getD_none, ih]
      | some new => simp only [Option.map_some, Option.getD_some, bare_nodesFrom new _ 0]
  | choice condition opener turn closer opens turns closes accepted rejected =>
    rw [Concrete.node, Node.regions] at same
    obtain ⟨first, second⟩ := List.forall_mem_append.mp same
    simp only [Concrete.substitute, Concrete.node, Node.substitute, Node.bare]
    rw [bare_substituteParts accepted _ _ first, bare_substituteParts rejected _ _ second]

/-- The tree of parts with new parts is the tree of the parts with the trees of the new parts. -/
theorem bare_substituteParts {trees : Region → Option (List Node)} (parts : List Concrete) (start start' : Nat)
    (same : SameTrees trees change (regionsOf (nodesFrom start parts))) :
    bareNodes (nodesFrom start' (substituteParts change start parts)) =
      bareNodes (substituteNodes trees (nodesFrom start parts)) := by
  cases parts with
  | nil => rfl
  | cons part rest =>
    obtain ⟨first, more⟩ := List.forall_mem_append.mp same
    rw [substituteParts, nodesFrom, nodesFrom, substituteNodes, bareNodes, bareNodes,
      part.bare_substitute start start' first, bare_substituteParts rest _ _ more]

end

mutual

theorem Concrete.written_substitute {texts : Region → Option (List Char)} (part : Concrete) (start : Nat)
    (same : SameTexts texts change (part.node start).regions) :
    written (part.substitute change start).pieces = part.splice texts start := by
  cases part with
  | text s => simp [Concrete.substitute, Concrete.pieces, Concrete.splice, Piece.chars]
  | leaf mark node stands => simp [Concrete.substitute, Concrete.pieces, Concrete.splice, Piece.chars]
  | block opening opener closer opens closes inside =>
    rw [Concrete.node, Opening.regions_node] at same
    obtain ⟨here, inner⟩ := List.forall_mem_append.mp same
    have ih := written_substituteParts inside _ inner
    rw [Concrete.substitute, written_block, Concrete.splice, List.append_assoc]
    cases found : opening.region? (spanFrom start opener closer (piecesOf inside)) with
    | none => simp only [Option.bind_none, Option.getD_none, ih]
    | some r =>
      have made := here r (by rw [found]; exact List.mem_singleton_self r)
      simp only [Option.bind_some, made]
      cases change r with
      | none => simp only [Option.map_none, Option.getD_none, ih]
      | some new => simp only [Option.map_some, Option.getD_some]
  | choice condition opener turn closer opens turns closes accepted rejected =>
    rw [Concrete.node, Node.regions] at same
    obtain ⟨first, second⟩ := List.forall_mem_append.mp same
    rw [Concrete.substitute, written_choice, Concrete.splice, written_substituteParts accepted _ first,
      written_substituteParts rejected _ second]
    simp only [List.append_assoc]

/-- Spliced text is what is written from parts with new parts. -/
theorem written_substituteParts {texts : Region → Option (List Char)} (parts : List Concrete) (start : Nat)
    (same : SameTexts texts change (regionsOf (nodesFrom start parts))) :
    written (piecesOf (substituteParts change start parts)) = spliceParts texts start parts := by
  cases parts with
  | nil => rfl
  | cons part rest =>
    obtain ⟨first, more⟩ := List.forall_mem_append.mp same
    rw [substituteParts, piecesOf, written_append, spliceParts, part.written_substitute start first,
      written_substituteParts rest _ more]

end

/-- A part that gets new bodies inside begins as it did. -/
theorem Concrete.beginsWithText_substitute (part : Concrete) (start : Nat) (after after' : List Piece) :
    BeginsWithText ((part.substitute change start).pieces ++ after) ↔ BeginsWithText (part.pieces ++ after') := by
  cases part <;> rfl

theorem beginsWithText_substituteParts {parts : List Concrete} {start : Nat} {after after' : List Piece}
    (ends : BeginsWithText after → BeginsWithText after')
    (begins : BeginsWithText (piecesOf (substituteParts change start parts) ++ after)) :
    BeginsWithText (piecesOf parts ++ after') := by
  cases parts with
  | nil => exact ends begins
  | cons part rest =>
    rw [substituteParts, piecesOf, List.append_assoc, part.beginsWithText_substitute] at begins
    rw [piecesOf, List.append_assoc]
    exact begins

/-- Regions get bodies that are found again in their text. -/
def LegibleBodies (change : Region → Option (List Concrete)) (rs : List Region) : Prop :=
  ∀ r ∈ rs, ∀ parts, change r = some parts → Legible (piecesOf parts)

mutual

theorem Concrete.legible_substitute (part : Concrete) (start : Nat) {before after : List Piece}
    (legible : Legible (part.pieces ++ before)) (bodies : LegibleBodies change (part.node start).regions)
    (ends : BeginsWithText after → BeginsWithText before) (more : Legible after) :
    Legible ((part.substitute change start).pieces ++ after) := by
  cases part with
  | text s =>
    -- Literal text may go on only where it did before, or it would be joined to this.
    rw [Concrete.pieces, List.singleton_append] at legible
    exact legible.text (fun begins => legible.not_beginsWithText (ends begins)) more
  | leaf mark node stands => exact more.token mark.spelled
  | block opening opener closer opens closes inside =>
    rw [Concrete.node, Opening.regions_node] at bodies
    obtain ⟨here, inner⟩ := List.forall_mem_append.mp bodies
    simp only [Concrete.substitute, Concrete.pieces, List.cons_append, List.append_assoc, List.nil_append] at legible ⊢
    have closed := more.token closer.spelled
    have kept := legible_substituteParts inside _ legible.tail inner
      (fun begins => (not_beginsWithText_token _ _ begins).elim) closed
    refine Legible.token opener.spelled ?_
    cases found : opening.region? (spanFrom start opener closer (piecesOf inside)) with
    | none => exact kept
    | some r =>
      rw [Option.bind_some]
      cases new : change r with
      | none => exact kept
      | some parts =>
        have body := here r (by rw [found]; exact List.mem_singleton_self r) parts new
        exact body.append_token closed
  | choice condition opener turn closer opens turns closes accepted rejected =>
    rw [Concrete.node, Node.regions] at bodies
    obtain ⟨first, second⟩ := List.forall_mem_append.mp bodies
    simp only [Concrete.substitute, Concrete.pieces, List.cons_append, List.append_assoc, List.nil_append] at legible ⊢
    have closed := legible_substituteParts rejected _ legible.tail.right.tail second
      (fun begins => (not_beginsWithText_token _ _ begins).elim) (more.token closer.spelled)
    refine Legible.token opener.spelled (legible_substituteParts accepted _ legible.tail first
      (fun begins => (not_beginsWithText_token _ _ begins).elim) (closed.token turn.spelled))

/-- Parts whose pieces are legible stay so with new parts whose pieces are. -/
theorem legible_substituteParts (parts : List Concrete) (start : Nat) {before after : List Piece}
    (legible : Legible (piecesOf parts ++ before)) (bodies : LegibleBodies change (regionsOf (nodesFrom start parts)))
    (ends : BeginsWithText after → BeginsWithText before) (more : Legible after) :
    Legible (piecesOf (substituteParts change start parts) ++ after) := by
  cases parts with
  | nil => exact more
  | cons part rest =>
    obtain ⟨first, inner⟩ := List.forall_mem_append.mp bodies
    simp only [substituteParts, piecesOf, List.append_assoc] at legible ⊢
    exact part.legible_substitute start legible first (beginsWithText_substituteParts ends)
      (legible_substituteParts rest _ legible.right inner ends more)

end

theorem Legible.substitute {parts : List Concrete} {start : Nat} (legible : Legible (piecesOf parts))
    (bodies : LegibleBodies change (regionsOf (nodesFrom start parts))) :
    Legible (piecesOf (substituteParts change start parts)) := by
  rw [← List.append_nil (piecesOf parts)] at legible
  have whole := legible_substituteParts parts start legible bodies id legible_nil
  rwa [List.append_nil] at whole

end Change

/-- The tree of the new body that a region of a text gets. -/
def newTree (source : List Char) (replace : Region → String → Option String) (r : Region) : Option (List Node) :=
  (replace r (r.body source)).bind fun new => (parse {} new).toOption

/-- New bodies that are finished can be had as parts. -/
theorem exists_bodies {source : List Char} {replace : Region → String → Option String} {rs : List Region}
    (fresh : ∀ r ∈ rs, ∀ new, replace r (r.body source) = some new → Finished new) :
    ∃ change, SameTexts (newBody source replace) change rs ∧ SameTrees (newTree source replace) change rs ∧
      LegibleBodies change rs := by
  have each : ∀ r ∈ rs, ∃ parts? : Option (List Concrete),
      newBody source replace r = parts?.map (fun parts => written (piecesOf parts)) ∧
        newTree source replace r = parts?.map (nodesFrom 0) ∧
        ∀ parts, parts? = some parts → Legible (piecesOf parts) := by
    intro r member
    unfold newBody newTree
    cases made : replace r (r.body source) with
    | none => exact ⟨none, rfl, rfl, nofun⟩
    | some new =>
      obtain ⟨parts, cut, legible⟩ := (fresh r member new made).parts
      have whole : new.toList = written (piecesOf parts) := by rw [← cut, written_scan]
      refine ⟨some parts, congrArg some whole, ?_, ?_⟩
      · rw [Option.bind_some, parse_of_parts cut]
        rfl
      · intro other same
        cases same
        exact legible
  choose! change texts trees legible using each
  exact ⟨change, texts, trees, legible⟩

/-- Splicing finished texts into a finished text gives a finished text, which is read as the tree with the trees
of the new bodies. -/
theorem Finished.splice {kind : RegionKind} {source : String} {nodes : List Node}
    {replace : Region → String → Option String} (finished : Finished source) (read : parse {} source = .ok nodes)
    (fresh : ∀ r ∈ regionsOf nodes, ∀ new, onlyFor kind replace r (r.body source.toList) = some new → Finished new) :
    ∃ splicing nodes', replaceRegions kind source replace = .ok splicing ∧
      Finished (String.ofList splicing.text) ∧ parse {} (String.ofList splicing.text) = .ok nodes' ∧
      bareNodes nodes' = bareNodes (substituteNodes (newTree source.toList (onlyFor kind replace)) nodes) := by
  obtain ⟨parts, cut, legible⟩ := finished.parts
  cases Except.ok.inj (read.symm.trans (parse_of_parts cut))
  obtain ⟨change, texts, trees, bodies⟩ := exists_bodies fresh
  obtain ⟨splicing, spliced, text⟩ := replaceRegions_eq kind cut replace
  have legible' := legible.substitute bodies
  rw [← written_substituteParts parts 0 texts] at text
  refine ⟨splicing, _, spliced, text ▸ finished_of_parts legible', parse_of_parts ?_,
    bare_substituteParts parts 0 0 trees⟩
  rw [text, String.toList_ofList, legible'.scan_written]

/-- The bodies of the regions of a finished text are finished. -/
theorem Finished.body {source : String} {nodes : List Node} (finished : Finished source)
    (read : parse {} source = .ok nodes) : ∀ r ∈ regionsOf nodes, Finished (r.body source.toList) := by
  obtain ⟨parts, cut, legible⟩ := finished.parts
  cases Except.ok.inj (read.symm.trans (parse_of_parts cut))
  intro r member
  obtain ⟨inside, body, there⟩ := bodies_of_regions parts 0 (occurs_whole cut) member
  rw [body]
  exact finished_of_parts (legible.of_infix there)

/-- The text that splicing clean texts into a clean text gives is read as a tree: that of the text, in which the
body of each replaced region is the tree of its new body, and everything else but the offsets is as it was. -/
theorem replaceRegions_substitutes (kind : RegionKind) {source : String} {nodes : List Node}
    {replace : Region → String → Option String} (clean : Clean source) (read : parse {} source = .ok nodes)
    (fresh : ∀ r ∈ regionsOf nodes, r.kind = kind → ∀ new, replace r (r.body source.toList) = some new → Clean new) :
    ∃ splicing nodes', replaceRegions kind source replace = .ok splicing ∧
      parse {} (String.ofList splicing.text) = .ok nodes' ∧
      bareNodes nodes' = bareNodes (substituteNodes (newTree source.toList (onlyFor kind replace)) nodes) := by
  have finished : ∀ r ∈ regionsOf nodes, ∀ new, onlyFor kind replace r (r.body source.toList) = some new →
      Finished new := by
    intro r member new made
    rw [onlyFor, Option.ite_none_right_eq_some] at made
    exact (fresh r member (beq_iff_eq.mp made.1) new made.2).finished
  obtain ⟨splicing, nodes', spliced, _, read', same⟩ := clean.finished.splice read finished
  exact ⟨splicing, nodes', spliced, read', same⟩

/-- A note with a block in a block, and a section. -/
def note : String :=
  "Dear " ++ spellSlot "name" ++ ",\n" ++ spellRegion .block "closing" ("Bye" ++ spellRegion .block "mark" "!") ++
    spellRegion .sect "closing" "P.S."

/-- Another closing. -/
def kindly (r : Region) (_ : String) : Option String :=
  if r.name == "closing" then some (spellBlock .conditional "formal" ("Yours" ++ spellMarker "#else" ++ "Cheers"))
  else none

theorem note_substituted :
    ∃ nodes splicing nodes', parse {} note = .ok nodes ∧ replaceRegions .block note kindly = .ok splicing ∧
      parse {} (String.ofList splicing.text) = .ok nodes' ∧
      bareNodes nodes' = bareNodes (substituteNodes (newTree note.toList (onlyFor .block kindly)) nodes) := by
  have clean : Clean note := by decide +kernel
  obtain ⟨nodes, read, _⟩ := id clean
  have fresh : ∀ r ∈ regionsOf nodes, r.kind = .block → ∀ new, kindly r (r.body note.toList) = some new →
      Clean new := by
    intro r _ _ new made
    rw [kindly, Option.ite_none_right_eq_some] at made
    cases made.2
    decide +kernel
  obtain ⟨splicing, nodes', rest⟩ := replaceRegions_substitutes .block clean read fresh
  exact ⟨nodes, splicing, nodes', read, rest⟩

end Stencil.Markup
