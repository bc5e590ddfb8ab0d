import Stencil.Proofs.Markup.Nesting
import Stencil.Proofs.Markup.Print

/-!
Regions as texts of their own.

A region stands in its text as an opening marker, a body and a closing marker (`stands_of_heldIn`). The pieces of the
body are the same when it is cut by itself, so it is read as the nodes that the region holds, with offsets that count
from the start of the body. Together with the way regions lie in each other this is `regions_exact`.
-/

namespace Stencil.Markup

mutual

/-- The regions of a node with what they hold, outer ones before the ones inside them. -/
def Node.held : Node → List (Region × List Node)
  | .region kind name span body => (⟨kind, name, span⟩, body) :: heldIn body
  | .conditional _ accepted rejected => heldIn accepted ++ heldIn rejected
  | .loop _ _ body => heldIn body
  | _ => []

def heldIn : List Node → List (Region × List Node)
  | [] => []
  | node :: rest => node.held ++ heldIn rest

end

mutual

theorem Node.map_held (node : Node) : node.held.map Prod.fst = node.regions := by
  cases node with
  | text | slot | call => rfl
  | conditional condition accepted rejected =>
    rw [Node.held, Node.regions, List.map_append, map_heldIn, map_heldIn]
  | loop array item body => exact map_heldIn body
  | region kind name span body => rw [Node.held, Node.regions, List.map_cons, map_heldIn]

theorem map_heldIn (nodes : List Node) : (heldIn nodes).map Prod.fst = regionsOf nodes := by
  cases nodes with
  | nil => rfl
  | cons node rest => rw [heldIn, regionsOf, List.map_append, node.map_held, map_heldIn]

end

theorem mem_regionsOf_iff_held {nodes : List Node} {r : Region} :
    r ∈ regionsOf nodes ↔ ∃ body, (r, body) ∈ heldIn nodes := by
  rw [← map_heldIn, List.mem_map]
  simp

theorem Token.Stands.held {t : Token} {node : Node} (stands : t.Stands node) : node.held = [] := by
  cases stands <;> rfl

section Shift

variable (distance : Nat)

def Span.shift (span : Span) : Span where
  start := span.start + distance
  bodyStart := span.bodyStart + distance
  bodyEnd := span.bodyEnd + distance
  stop := span.stop + distance

mutual

/-- A node with the offsets of its regions moved up. -/
def Node.shift : Node → Node
  | .conditional condition accepted rejected => .conditional condition (shiftNodes accepted) (shiftNodes rejected)
  | .loop array item body => .loop array item (shiftNodes body)
  | .region kind name span body => .region kind name (span.shift distance) (shiftNodes body)
  | node => node

def shiftNodes : List Node → List Node
  | [] => []
  | node :: rest => node.shift :: shiftNodes rest

end

theorem Token.Stands.shift {t : Token} {node : Node} (stands : t.Stands node) : node.shift distance = node := by
  cases stands <;> rfl

theorem Opening.shift_node (opening : Opening) (span : Span) (body : List Node) :
    (opening.node span body).shift distance = opening.node (span.shift distance) (shiftNodes distance body) := by
  cases opening <;> rfl

theorem spanFrom_add (start : Nat) (opener closer : Mark) (inside : List Piece) :
    spanFrom (start + distance) opener closer inside = (spanFrom start opener closer inside).shift distance := by
  simp only [spanFrom, Span.shift, Span.mk.injEq, true_and]
  omega

mutual

theorem Concrete.node_add (part : Concrete) (start : Nat) :
    part.node (start + distance) = (part.node start).shift distance := by
  cases part with
  | text s => rfl
  | leaf mark node stands => exact (stands.shift distance).symm
  | block opening opener closer opens closes inside =>
    rw [Concrete.node, Concrete.node, spanFrom_add, Opening.shift_node, Nat.add_right_comm, nodesFrom_add]
  | choice condition opener turn closer opens turns closes accepted rejected =>
    have later : start + distance + opener.spelling.length + extent (piecesOf accepted) + turn.spelling.length =
        start + opener.spelling.length + extent (piecesOf accepted) + turn.spelling.length + distance := by
      omega
    rw [Concrete.node, Concrete.node, later, Nat.add_right_comm, nodesFrom_add, nodesFrom_add, Node.shift]

/-- Parts that stand further behind give the same nodes, with the offsets moved up. -/
theorem nodesFrom_add (parts : List Concrete) (start : Nat) :
    nodesFrom (start + distance) parts = shiftNodes distance (nodesFrom start parts) := by
  cases parts with
  | nil => rfl
  | cons part rest =>
    rw [nodesFrom, nodesFrom, shiftNodes, part.node_add, Nat.add_right_comm, nodesFrom_add]

end

end Shift

/-- A region of a text with the nodes that it holds, the markers around it, and the parts between them. -/
structure Region.Built (source : List Char) (r : Region) (body : List Node) (opener closer : Mark)
    (inside : List Concrete) : Prop where
  opens : opener.marker = .regionOpen r.kind r.name
  closes : closer.marker = .regionClose r.kind
  span : r.span = spanFrom r.span.start opener closer (piecesOf inside)
  holds : body = nodesFrom r.span.bodyStart inside
  occurs : Occurs source r.span.start
    (opener.spelling.toList ++ (written (piecesOf inside) ++ closer.spelling.toList))

/-- A region of a text with the nodes that it holds, built from some of the pieces. -/
def Region.Stands (source : List Char) (pieces : List Piece) (r : Region) (body : List Node) : Prop :=
  ∃ opener closer inside, r.Built source body opener closer inside ∧ piecesOf inside <:+: pieces

theorem Region.Stands.mono {source : List Char} {pieces pieces' : List Piece} {r : Region} {body : List Node}
    (stands : r.Stands source pieces body) (within : pieces <:+: pieces') : r.Stands source pieces' body := by
  obtain ⟨opener, closer, inside, built, there⟩ := stands
  exact ⟨opener, closer, inside, built, there.trans within⟩

section Standing

variable {source : List Char}

mutual

theorem Concrete.stands_of_held (part : Concrete) (start : Nat) (occurs : Occurs source start (written part.pieces))
    {r : Region} {body : List Node} (member : (r, body) ∈ (part.node start).held) :
    r.Stands source part.pieces body := by
  cases part with
  | text s => exact absurd member List.not_mem_nil
  | leaf mark node stands =>
    rw [Concrete.node, stands.held] at member
    exact absurd member List.not_mem_nil
  | block opening opener closer opens closes inside =>
    have within : piecesOf inside <:+: (Concrete.block opening opener closer opens closes inside).pieces :=
      ⟨[.token opener.toToken], [.token closer.toToken], rfl⟩
    rw [written_block] at occurs
    have deeper {r : Region} {body : List Node}
        (member : (r, body) ∈ heldIn (nodesFrom (start + opener.spelling.length) inside)) :=
      (stands_of_heldIn inside _ occurs.contents.1 member).mono within
    cases opening with
    | conditional condition =>
      rw [Concrete.node, Opening.node, Node.held, heldIn, List.append_nil] at member
      exact deeper member
    | loop array item => exact deeper member
    | region kind name =>
      rcases List.mem_cons.mp member with same | member
      · cases same
        exact ⟨opener, closer, inside, ⟨opens.eq_opener, closes, rfl, rfl, occurs⟩, within⟩
      · exact deeper member
  | choice condition opener turn closer opens turns closes accepted rejected =>
    rw [written_choice] at occurs
    obtain ⟨first, turned⟩ := occurs.contents
    rcases List.mem_append.mp member with member | member
    · refine (stands_of_heldIn accepted _ first member).mono ⟨[.token opener.toToken],
        .token turn.toToken :: piecesOf rejected ++ [.token closer.toToken], ?_⟩
      simp [Concrete.pieces]
    · refine (stands_of_heldIn rejected _ turned.contents.1 member).mono
        ⟨.token opener.toToken :: piecesOf accepted ++ [.token turn.toToken], [.token closer.toToken], ?_⟩
      simp [Concrete.pieces]

/-- Every region of a text stands there between its markers, with parts of the text for a body. -/
theorem stands_of_heldIn (parts : List Concrete) (start : Nat) (occurs : Occurs source start (written (piecesOf parts)))
    {r : Region} {body : List Node} (member : (r, body) ∈ heldIn (nodesFrom start parts)) :
    r.Stands source (piecesOf parts) body := by
  cases parts with
  | nil => exact absurd member List.not_mem_nil
  | cons part rest =>
    rw [piecesOf, written_append] at occurs
    rcases List.mem_append.mp member with member | member
    · exact (part.stands_of_held start occurs.left member).mono (List.prefix_append ..).isInfix
    · exact (stands_of_heldIn rest _ occurs.right member).mono (List.suffix_append ..).isInfix

end

end Standing

section Built

variable {source : List Char} {r : Region} {body : List Node} {opener closer : Mark} {inside : List Concrete}

theorem Region.Built.slices (built : r.Built source body opener closer inside) :
    slice source r.span.start r.span.bodyStart = opener.spelling.toList ∧
      slice source r.span.bodyStart r.span.bodyEnd = written (piecesOf inside) ∧
      slice source r.span.bodyEnd r.span.stop = closer.spelling.toList := by
  obtain ⟨body, closed⟩ := built.occurs.contents
  have first := built.occurs.left.slice
  have last := closed.slice
  rw [String.length_toList] at first last
  rw [built.span, spanFrom]
  exact ⟨first, body.slice, last⟩

/-- The body of a region is written from parts whose pieces stand among those of the text. -/
theorem bodies_of_regions (parts : List Concrete) (start : Nat) (occurs : Occurs source start (written (piecesOf parts)))
    (member : r ∈ regionsOf (nodesFrom start parts)) :
    ∃ inside, r.body source = String.ofList (written (piecesOf inside)) ∧ piecesOf inside <:+: piecesOf parts := by
  obtain ⟨body, held⟩ := mem_regionsOf_iff_held.mp member
  obtain ⟨_, _, inside, built, within⟩ := stands_of_heldIn parts start occurs held
  exact ⟨inside, congrArg String.ofList built.slices.2.1, within⟩

end Built

theorem eq_spellCloser {kind : RegionKind} {form : List Char} (spelled : Spells (.regionClose kind) form) :
    form = (spellCloser (.region kind)).toList := by
  cases spelled
  cases kind <;> rfl

/-- A region with the nodes that it holds, as its text has it: the offsets are in order, they tell where the markers
are, and the text between these is read by itself as the nodes, with offsets that count from its start. -/
structure Region.Exact (source : String) (body : List Node) (r : Region) : Prop where
  fits : r.Fits 0 source.length
  opener : Spells (.regionOpen r.kind r.name) (slice source.toList r.span.start r.span.bodyStart)
  closer : slice source.toList r.span.bodyEnd r.span.stop = (spellCloser (.region r.kind)).toList
  alone : ∃ inner, parse {} (r.body source.toList) = .ok inner ∧ body = shiftNodes r.span.bodyStart inner

theorem Region.Stands.exact {source : String} {r : Region} {body : List Node}
    (stands : r.Stands source.toList (scan source.toList) body) (fits : r.Fits 0 source.length) :
    r.Exact source body := by
  obtain ⟨opener, closer, inside, built, within⟩ := stands
  obtain ⟨first, between, last⟩ := built.slices
  have opens := opener.spelled
  have closes := closer.spelled
  rw [built.opens] at opens
  rw [built.closes] at closes
  refine ⟨fits, first ▸ opens, last.trans (eq_spellCloser closes), nodesFrom 0 inside, ?_, ?_⟩
  · have cut : scan (r.body source.toList).toList = piecesOf inside := by
      rw [Region.body, between, String.toList_ofList, scan_written_of_infix within]
    exact parse_of_parts cut
  · rw [built.holds, ← nodesFrom_add, Nat.zero_add]

/-- The regions of a text are listed by where they start, of any two the later one lies in the body of the earlier one
or behind it, and each stands in the text exactly as its offsets say. -/
theorem regions_exact {source : String} {nodes : List Node} (read : parse {} source = .ok nodes) :
    ∃ rs, findRegions source = .ok rs ∧ rs.Pairwise (fun r x => r.span.start < x.span.start) ∧
      rs.Pairwise Region.Leads ∧ (heldIn nodes).map Prod.fst = rs ∧
      ∀ r body, (r, body) ∈ heldIn nodes → r.Exact source body := by
  have nest := nest_of_parse read
  refine ⟨regionsOf nodes, ?_, ?_, nest.ordered, map_heldIn nodes, fun r body member => ?_⟩
  · rw [findRegions, read]
    rfl
  · exact nest.ordered.imp_of_mem fun member _ leads => leads.start_lt (nest.fits _ member)
  · have fits := nest.fits r (mem_regionsOf_iff_held.mpr ⟨body, member⟩)
    obtain ⟨parts, cut, rfl⟩ := parts_of_parse read
    exact Region.Stands.exact (cut ▸ stands_of_heldIn parts 0 (occurs_whole cut) member) fits

/-- A leaflet with a section in a branch in a block, and an empty section behind that. The call in its literal text is
never closed. -/
def leaflet : String :=
  spellRegion .block "news" ("See \x7b\x7bf(" ++ spellBlock .conditional "late" (spellRegion .sect "why" (spellSlot "x"))) ++
    spellRegion .sect "end" ""

def leafletRegions : List Region :=
  [⟨.block, "news", ⟨0, 15, 73, 83⟩⟩, ⟨.sect, "why", ⟨35, 51, 54, 66⟩⟩, ⟨.sect, "end", ⟨83, 99, 99, 111⟩⟩]

theorem leaflet_exact :
    ∃ nodes, parse {} leaflet = .ok nodes ∧ findRegions leaflet = .ok leafletRegions ∧
      (heldIn nodes).map Prod.fst = leafletRegions ∧ ∀ r body, (r, body) ∈ heldIn nodes → r.Exact leaflet body := by
  have listed : (findRegions leaflet).toOption = some leafletRegions := by decide +kernel
  cases read : parse {} leaflet with
  | error e =>
    rw [findRegions, read] at listed
    cases listed
  | ok nodes =>
    obtain ⟨rs, found, _, _, same, exact⟩ := regions_exact read
    rw [found] at listed
    cases Option.some.inj listed
    exact ⟨nodes, rfl, found, same, exact⟩

end Stencil.Markup
