import Stencil.Markup.Spelling
import Stencil.Proofs.Markup.Acceptance

/-!
Printing a tree and reading it again.

A tree is `Printable` if its parts have the shapes that the reader gives them. Printed, such a tree is read
as itself, apart from the offsets of its regions, which become those of the printed markers (`parse_print`).
-/

namespace Stencil.Markup

mutual

/-- A node as template text. -/
def Node.print : Node → String
  | .text s => s
  | .slot _ spelling => spelling
  | .call _ _ spelling => spelling
  | .conditional condition accepted rejected =>
    spellBlock .conditional condition
      (printNodes accepted ++ if rejected.isEmpty then "" else spellMarker "#else" ++ printNodes rejected)
  | .loop array item body => spellBlock .loop (array ++ " as " ++ item) (printNodes body)
  | .region kind name _ body => spellRegion kind name (printNodes body)

/-- Nodes as template text. -/
def printNodes : List Node → String
  | [] => ""
  | node :: rest => node.print ++ printNodes rest

end

/-- The opening marker of a block. -/
def spellOpener (kind : BlockKind) (details : String) : String :=
  spellMarker ("#" ++ kind.word ++ " " ++ details)

/-- The closing marker of a block. -/
def spellCloser (kind : BlockKind) : String :=
  spellMarker ("/" ++ kind.word)

theorem spellBlock_eq (kind : BlockKind) (details body : String) :
    spellBlock kind details body = spellOpener kind details ++ body ++ spellCloser kind := rfl

mutual

/-- A node whose regions lie where they are printed if the node is printed at an offset. -/
def Node.place (start : Nat) : Node → Node
  | .text s => .text s
  | .slot path spelling => .slot path spelling
  | .call name arguments spelling => .call name arguments spelling
  | .conditional condition accepted rejected =>
    let inside := start + (spellOpener .conditional condition).length
    .conditional condition (placeNodes inside accepted)
      (placeNodes (inside + (printNodes accepted).length + (spellMarker "#else").length) rejected)
  | .loop array item body =>
    .loop array item (placeNodes (start + (spellOpener .loop (array ++ " as " ++ item)).length) body)
  | .region kind name _ body =>
    let bodyStart := start + (spellOpener (.region kind) name).length
    let bodyEnd := bodyStart + (printNodes body).length
    .region kind name ⟨start, bodyStart, bodyEnd, bodyEnd + (spellCloser (.region kind)).length⟩
      (placeNodes bodyStart body)

/-- Nodes whose regions lie where they are printed if the nodes are printed from an offset on. -/
def placeNodes (start : Nat) : List Node → List Node
  | [] => []
  | node :: rest => node.place start :: placeNodes (start + node.print.length) rest

end

mutual

/-- A node without the offsets of its regions. -/
def Node.bare : Node → Node
  | .text s => .text s
  | .slot path spelling => .slot path spelling
  | .call name arguments spelling => .call name arguments spelling
  | .conditional condition accepted rejected => .conditional condition (bareNodes accepted) (bareNodes rejected)
  | .loop array item body => .loop array item (bareNodes body)
  | .region kind name _ body => .region kind name ⟨0, 0, 0, 0⟩ (bareNodes body)

/-- Nodes without the offsets of their regions. -/
def bareNodes : List Node → List Node
  | [] => []
  | node :: rest => node.bare :: bareNodes rest

end

/-- A text that can stand between the parentheses of a call. -/
def IsWritten (written : String) : Prop :=
  '\n' ∉ written.toList ∧ ¬ ')' :: Marker.closing <:+: written.toList

/-- Nodes as the reader could have given them: literal text is neither empty nor divided and has no opening
brace, names and conditions have the shapes that markers demand, and spellings are those of what they spell. -/
inductive Printable : List Node → Prop
  | nil : Printable []
  | text {s rest} : s ≠ "" → '{' ∉ s.toList → (∀ t, rest.head? ≠ some (.text t)) → Printable rest →
      Printable (.text s :: rest)
  | slot {path spelling rest} : IsPath path.toList → spelling = spellSlot path ∨ spelling = spellMarker path →
      Printable rest → Printable (.slot path spelling :: rest)
  | call {name arguments spelling written rest} : IsName name.toList → IsWritten written →
      spelling = spellMarker (name ++ "(" ++ written ++ ")") → arguments = splitArguments written →
      Printable rest → Printable (.call name arguments spelling :: rest)
  | conditional {condition accepted rejected rest} : condition ≠ "" → Text.strip condition.toList = condition.toList →
      '}' ∉ condition.toList → Printable accepted → Printable rejected → Printable rest →
      Printable (.conditional condition accepted rejected :: rest)
  | loop {array item body rest} : IsPath array.toList → IsName item.toList → item ≠ array →
      Printable body → Printable rest → Printable (.loop array item body :: rest)
  | region {kind name span body rest} : IsRegionName name.toList → Printable body → Printable rest →
      Printable (.region kind name span body :: rest)

/-- Pieces that a text is cut into. -/
structure Cuts (text : String) (pieces : List Piece) : Prop where
  written : written pieces = text.toList
  plain : ∀ piece ∈ pieces, piece.Plain
  settled : Settled pieces

theorem Cuts.scan {text : String} {pieces : List Piece} (cuts : Cuts text pieces) : scan text.toList = pieces := by
  rw [← cuts.written, scan_written cuts.settled cuts.plain]

theorem Cuts.extent {text : String} {pieces : List Piece} (cuts : Cuts text pieces) : extent pieces = text.length := by
  rw [Markup.extent, cuts.written, String.length_toList]

theorem Cuts.nil : Cuts "" [] :=
  ⟨rfl, fun _ member => absurd member List.not_mem_nil, List.not_mem_nil, .nil⟩

theorem Cuts.text {s rest : String} {pieces : List Piece} (cuts : Cuts rest pieces) (nonempty : s ≠ "")
    (free : '{' ∉ s.toList) (apart : ∀ t, pieces.head? ≠ some (.text t)) :
    Cuts (s ++ rest) (.text s.toList :: pieces) := by
  refine ⟨?_, List.forall_mem_cons.mpr ⟨free, cuts.plain⟩, ?_, ?_⟩
  · rw [written_cons, cuts.written, Piece.chars, String.toList_append]
  · intro member
    rcases List.mem_cons.mp member with empty | member
    · exact nonempty (String.toList_eq_nil_iff.mp (Piece.text.inj empty).symm)
    · exact cuts.settled.filled member
  · refine cuts.settled.apart.cons ?_
    intro next member
    cases next with
    | text t => exact absurd member (apart t)
    | token t => trivial

theorem Cuts.token {marker : Marker} {spelling rest : String} {pieces : List Piece} (cuts : Cuts rest pieces)
    (spelled : Spells marker spelling.toList) : Cuts (spelling ++ rest) (.token ⟨marker, spelling⟩ :: pieces) := by
  refine ⟨?_, List.forall_mem_cons.mpr ⟨spelled, cuts.plain⟩, cuts.settled.token _⟩
  rw [written_cons, cuts.written, Piece.chars, String.toList_append]

/-- A marker separates the pieces on both sides of it. -/
theorem Cuts.append_token {before after : String} {first second : List Piece} {t : Token} (left : Cuts before first)
    (right : Cuts after (.token t :: second)) : Cuts (before ++ after) (first ++ .token t :: second) := by
  refine ⟨?_, ?_, ?_, ?_⟩
  · rw [written_append, left.written, right.written, String.toList_append]
  · intro piece member
    rcases List.mem_append.mp member with member | member
    · exact left.plain piece member
    · exact right.plain piece member
  · intro member
    rcases List.mem_append.mp member with member | member
    · exact left.settled.filled member
    · exact right.settled.filled member
  · refine left.settled.apart.append right.settled.apart ?_
    intro last _ next member
    cases member
    exact last.apart_token t

theorem spells_closer (kind : BlockKind) : Spells kind.closer (spellCloser kind).toList := by
  cases kind with
  | conditional => exact .ifClose
  | loop => exact .eachClose
  | region kind =>
    have spells : Spells (.regionClose kind) _ := .regionClose
    simpa [spellCloser, spellMarker, BlockKind.word, BlockKind.closer, Marker.opening, Marker.closing] using spells

theorem Cuts.block {opener : Marker} {kind : BlockKind} {details body rest : String} {inside after : List Piece}
    (cuts : Cuts body inside) (more : Cuts rest after)
    (opens : Spells opener (spellOpener kind details).toList) :
    Cuts (spellBlock kind details body ++ rest)
      (.token ⟨opener, spellOpener kind details⟩ :: inside ++
        .token ⟨kind.closer, spellCloser kind⟩ :: after) := by
  have whole := (cuts.append_token (more.token (spells_closer kind))).token opens
  simpa only [spellBlock_eq, String.append_assoc, List.cons_append] using whole

/-- The blanks around a condition are no part of it. -/
theorem spells_if_strip {condition : String} (nonempty : condition ≠ "") (free : '}' ∉ condition.toList) :
    Spells (.ifOpen (String.ofList (Text.strip condition.toList))) (spellOpener .conditional condition).toList := by
  have blank : Text.isBlank ' ' = true := by decide
  have inside : condition.toList ≠ [] := fun empty => nonempty (String.toList_eq_nil_iff.mp empty)
  have spells := Spells.ifOpen blank inside free
  rw [Text.strip, Text.stripStart, List.dropWhile_cons_of_pos blank, ← Text.stripStart, ← Text.strip] at spells
  simpa [spellOpener, spellMarker, BlockKind.word, Marker.opening, Marker.closing] using spells

theorem spells_if {condition : String} (nonempty : condition ≠ "")
    (stripped : Text.strip condition.toList = condition.toList) (free : '}' ∉ condition.toList) :
    Spells (.ifOpen condition) (spellOpener .conditional condition).toList := by
  have spells := spells_if_strip nonempty free
  rwa [stripped, String.ofList_toList] at spells

theorem spells_each {array item : String} (path : IsPath array.toList) (name : IsName item.toList) :
    Spells (.eachOpen array item)
      (spellOpener .loop (array ++ " as " ++ item)).toList := by
  have space : [' '] ≠ [] := List.cons_ne_nil _ _
  have spells := Spells.eachOpen space isBlankRun_space path space isBlankRun_space space isBlankRun_space name
    (fun _ member => absurd member List.not_mem_nil)
  simpa [spellOpener, spellMarker, BlockKind.word, Marker.opening, Marker.closing] using spells

theorem spells_region {kind : RegionKind} {name : String} (shape : IsRegionName name.toList) :
    Spells (.regionOpen kind name) (spellOpener (.region kind) name).toList := by
  have spells : Spells (.regionOpen kind _) _ :=
    .regionOpen (List.cons_ne_nil _ _) isBlankRun_space shape (fun _ member => absurd member List.not_mem_nil)
  simpa [spellOpener, spellMarker, BlockKind.word, Marker.opening, Marker.closing] using spells

theorem spells_slot {path spelling : String} (shape : IsPath path.toList)
    (spelled : spelling = spellSlot path ∨ spelling = spellMarker path) : Spells (.slot path) spelling.toList := by
  rcases spelled with rfl | rfl
  · simpa [spellSlot] using Spells.singleSlot shape
  · simpa [spellMarker, Marker.opening, Marker.closing] using Spells.doubleSlot shape

theorem spells_call {name written : String} (shape : IsName name.toList) (free : IsWritten written) :
    Spells (.call name written) (spellMarker (name ++ "(" ++ written ++ ")")).toList := by
  simpa [spellMarker, Marker.opening, Marker.closing] using Spells.call shape free.1 free.2

theorem length_spellBlock (kind : BlockKind) (details body : String) :
    (spellBlock kind details body).length =
      (spellOpener kind details).length + body.length + (spellCloser kind).length := by
  simp only [spellBlock_eq, String.length_append]

/-- Pieces that nodes are printed as. -/
structure Prints (nodes : List Node) (pieces : List Piece) : Prop where
  cuts : Cuts (printNodes nodes) pieces
  head : ∀ t, pieces.head? = some (.text t) → ∃ s, nodes.head? = some (.text s)
  derives : ∀ start, Derives start pieces (placeNodes start nodes)

/-- What follows a block lies behind its closing marker. -/
theorem Prints.after {rest : List Node} {after inside : List Piece} {body : String} (prints : Prints rest after)
    (cuts : Cuts body inside) (start : Nat) (kind : BlockKind) (details : String) :
    Derives (start + (spellOpener kind details).length + extent inside + (spellCloser kind).length) after
      (placeNodes (start + (spellBlock kind details body).length) rest) := by
  rw [length_spellBlock, ← cuts.extent, ← Nat.add_assoc, ← Nat.add_assoc]
  exact prints.derives _

theorem Printable.prints {nodes : List Node} (printable : Printable nodes) : ∃ pieces, Prints nodes pieces := by
  -- The pieces do not depend on where the nodes stand, so `Prints` gives derivations from every offset.
  induction printable with
  | nil => exact ⟨[], .nil, fun _ head => absurd head (by simp), fun _ => .nil⟩
  | @text s rest nonempty free apart _ ih =>
    obtain ⟨pieces, prints⟩ := ih
    refine ⟨.text s.toList :: pieces, prints.cuts.text nonempty free ?_, fun _ _ => ⟨s, rfl⟩, fun start => ?_⟩
    · intro t head
      obtain ⟨s', found⟩ := prints.head t head
      exact apart s' found
    · have derives := Derives.text (prints.derives (start + s.toList.length))
      rwa [String.ofList_toList, String.length_toList] at derives
  | @slot path spelling rest shape spelled _ ih =>
    obtain ⟨pieces, prints⟩ := ih
    exact ⟨_, prints.cuts.token (spells_slot shape spelled), fun _ head => by simp at head,
      fun start => .slot (prints.derives _)⟩
  | @call name arguments spelling written rest shape free spelled split _ ih =>
    obtain ⟨pieces, prints⟩ := ih
    subst spelled split
    exact ⟨_, prints.cuts.token (spells_call shape free), fun _ head => by simp at head,
      fun start => .call (prints.derives _)⟩
  | @conditional condition accepted rejected rest nonempty stripped free _ _ _ ihAccepted ihRejected ih =>
    obtain ⟨pieces, prints⟩ := ih
    obtain ⟨first, prints₁⟩ := ihAccepted
    obtain ⟨second, prints₂⟩ := ihRejected
    have opens := spells_if nonempty stripped free
    cases rejected with
    | nil =>
      have cuts : Cuts (printNodes accepted ++ "") first := by rw [String.append_empty]; exact prints₁.cuts
      refine ⟨_, cuts.block prints.cuts opens, fun _ head => by simp at head, fun start => ?_⟩
      exact .conditional (prints₁.derives _) (prints.after cuts start .conditional condition)
    | cons node nodes =>
      have turn : Spells .ifElse (spellMarker "#else").toList := .ifElse
      have cuts := prints₁.cuts.append_token (prints₂.cuts.token turn)
      refine ⟨_, cuts.block prints.cuts opens, fun _ head => by simp at head, fun start => ?_⟩
      have more := prints.after cuts start .conditional condition
      simp only [extent_append, extent_cons, Piece.length, ← Nat.add_assoc] at more
      have derives : Derives start _ (.conditional condition _ _ :: _) :=
        .choice (prints₁.derives _) (prints₂.derives _) more
      simp only [List.cons_append, List.append_assoc] at derives ⊢
      rw [prints₁.cuts.extent] at derives
      exact derives
  | @loop array item body rest path name differ _ _ ihBody ih =>
    obtain ⟨pieces, prints⟩ := ih
    obtain ⟨inside, prints'⟩ := ihBody
    refine ⟨_, prints'.cuts.block prints.cuts (spells_each path name), fun _ head => by simp at head,
      fun start => .loop differ (prints'.derives _) (prints.after prints'.cuts start .loop _)⟩
  | @region kind name span body rest shape _ _ ihBody ih =>
    obtain ⟨pieces, prints⟩ := ih
    obtain ⟨inside, prints'⟩ := ihBody
    refine ⟨_, prints'.cuts.block prints.cuts (spells_region shape), fun _ head => by simp at head, fun start => ?_⟩
    have derives : Derives start _ (.region kind name _ _ :: _) :=
      .region (prints'.derives _) (prints.after prints'.cuts start (.region kind) name)
    rw [prints'.cuts.extent] at derives
    exact derives

mutual

theorem Node.bare_place (node : Node) (start : Nat) : (node.place start).bare = node.bare := by
  cases node with
  | text s => rfl
  | slot path spelling => rfl
  | call name arguments spelling => rfl
  | conditional condition accepted rejected =>
    simp only [Node.place, Node.bare, bare_placeNodes accepted, bare_placeNodes rejected]
  | loop array item body => simp only [Node.place, Node.bare, bare_placeNodes body]
  | region kind name span body => simp only [Node.place, Node.bare, bare_placeNodes body]

/-- Placing nodes changes nothing but the offsets of regions. -/
theorem bare_placeNodes (nodes : List Node) (start : Nat) : bareNodes (placeNodes start nodes) = bareNodes nodes := by
  cases nodes with
  | nil => rfl
  | cons node rest => simp only [placeNodes, bareNodes, node.bare_place, bare_placeNodes rest]

end

/-- A region whose markers stand in a text at the offsets that the region has. -/
def Region.LiesIn (r : Region) (text : String) : Prop :=
  ∃ before body after, text = before ++ spellRegion r.kind r.name body ++ after ∧ r.span =
    ⟨before.length, before.length + (spellOpener (.region r.kind) r.name).length,
      before.length + (spellOpener (.region r.kind) r.name).length + body.length,
      before.length + (spellRegion r.kind r.name body).length⟩

mutual

theorem Node.regions_place (node : Node) (before after : String) :
    ∀ r ∈ (node.place before.length).regions, r.LiesIn (before ++ node.print ++ after) := by
  cases node with
  | text s => exact fun _ member => absurd member List.not_mem_nil
  | slot path spelling => exact fun _ member => absurd member List.not_mem_nil
  | call name arguments spelling => exact fun _ member => absurd member List.not_mem_nil
  | conditional condition accepted rejected =>
    intro r member
    rcases List.mem_append.mp member with member | member
    · have lies := regionsOf_placeNodes accepted (before ++ spellOpener .conditional condition)
        ((if rejected.isEmpty then "" else spellMarker "#else" ++ printNodes rejected) ++
          spellCloser .conditional ++ after) r
      rw [String.length_append] at lies
      simpa only [Node.print, spellBlock_eq, String.append_assoc] using lies member
    · have lies := regionsOf_placeNodes rejected
        (before ++ spellOpener .conditional condition ++ printNodes accepted ++ spellMarker "#else")
        (spellCloser .conditional ++ after) r
      simp only [String.length_append] at lies
      have filled : rejected.isEmpty = false := by
        cases rejected with
        | nil => exact absurd member List.not_mem_nil
        | cons => rfl
      simpa only [Node.print, spellBlock_eq, filled, Bool.false_eq_true, if_false, String.append_assoc]
        using lies member
  | loop array item body =>
    intro r member
    have lies := regionsOf_placeNodes body
      (before ++ spellOpener .loop (array ++ " as " ++ item))
      (spellCloser .loop ++ after) r
    rw [String.length_append] at lies
    simpa only [Node.print, spellBlock_eq, String.append_assoc] using lies member
  | region kind name span body =>
    intro r member
    simp only [Node.place, Node.regions] at member
    rcases List.mem_cons.mp member with rfl | member
    · refine ⟨before, printNodes body, after, rfl, ?_⟩
      simp only [spellRegion, length_spellBlock, Nat.add_assoc]
    · have lies := regionsOf_placeNodes body (before ++ spellOpener (.region kind) name)
        (spellCloser (.region kind) ++ after) r
      rw [String.length_append] at lies
      simpa only [Node.print, spellRegion, spellBlock_eq, String.append_assoc] using lies member

/-- Placed regions lie where they are printed. -/
theorem regionsOf_placeNodes (nodes : List Node) (before after : String) :
    ∀ r ∈ regionsOf (placeNodes before.length nodes), r.LiesIn (before ++ printNodes nodes ++ after) := by
  cases nodes with
  | nil => exact fun _ member => absurd member List.not_mem_nil
  | cons node rest =>
    intro r member
    rcases List.mem_append.mp member with member | member
    · have lies := node.regions_place before (printNodes rest ++ after) r member
      simpa only [printNodes, String.append_assoc] using lies
    · have lies := regionsOf_placeNodes rest (before ++ node.print) after r
      rw [String.length_append] at lies
      simpa only [printNodes, String.append_assoc] using lies member

end

/-- A printable tree is read back from its printed text, with its regions where they were printed. -/
theorem parse_print {nodes : List Node} (printable : Printable nodes) :
    parse {} (printNodes nodes) = .ok (placeNodes 0 nodes) ∧ bareNodes (placeNodes 0 nodes) = bareNodes nodes ∧
      ∀ r ∈ regionsOf (placeNodes 0 nodes), r.LiesIn (printNodes nodes) := by
  obtain ⟨pieces, prints⟩ := printable.prints
  refine ⟨parse_of_derives ?_, bare_placeNodes nodes 0, ?_⟩
  · rw [prints.cuts.scan]
    exact prints.derives 0
  · have lies := regionsOf_placeNodes nodes "" ""
    rwa [String.empty_append, String.append_empty] at lies

/-- A letter with nodes of every kind, one inside another. -/
def letter : List Node :=
  [.text "Dear ", .conditional "guest.title != ''" [.slot "guest.title" "{guest.title}", .text " "] [],
    .slot "guest.name" "\x7b\x7bguest.name\x7d\x7d", .text ",\n",
    .conditional "orders"
      [.loop "orders" "order"
        [.text "- ", .call "upper" ["order.name", "','"] "\x7b\x7bupper(order.name , ',' )\x7d\x7d",
          .region .sect "note.2" ⟨0, 0, 0, 0⟩ [.conditional "_last" [.text "\n"] [.text ";\n"]]]]
      [.region .block "empty-list" ⟨0, 0, 0, 0⟩ [.text "Nothing yet."]]]

theorem letter_printable : Printable letter := by
  have plain {s : String} (shape : s ≠ "" ∧ '{' ∉ s.toList) : Printable [.text s] :=
    .text shape.1 shape.2 (by simp) .nil
  refine .text (by decide +kernel) (by decide +kernel) (by simp) ?_
  refine .conditional (by decide +kernel) (by decide +kernel) (by decide +kernel) ?_ .nil ?_
  · exact .slot (by decide +kernel) (.inl (by decide +kernel)) (plain (by decide +kernel))
  refine .slot (by decide +kernel) (.inr (by decide +kernel)) ?_
  refine .text (by decide +kernel) (by decide +kernel) (by simp) ?_
  refine .conditional (by decide +kernel) (by decide +kernel) (by decide +kernel) ?_ ?_ .nil
  · refine .loop (by decide +kernel) (by decide +kernel) (by decide +kernel) ?_ .nil
    refine .text (by decide +kernel) (by decide +kernel) (by simp) ?_
    refine @Printable.call _ _ _ "order.name , ',' " _ (by decide +kernel) ?_ (by decide +kernel) (by decide +kernel) ?_
    · exact ⟨by decide +kernel, by decide +kernel⟩
    refine .region (by decide +kernel) ?_ .nil
    exact .conditional (by decide +kernel) (by decide +kernel) (by decide +kernel) (plain (by decide +kernel))
      (plain (by decide +kernel)) .nil
  · exact .region (by decide +kernel) (plain (by decide +kernel)) .nil

theorem parse_letter : Printable letter ∧ parse {} (printNodes letter) = .ok (placeNodes 0 letter) :=
  ⟨letter_printable, (parse_print letter_printable).1⟩

/-- The node of a call whose name is no name. -/
def digitCall : Node :=
  .call "1" [] "\x7b\x7b1()\x7d\x7d"

/-- A call needs a name: its spelling is literal text if what stands before the parentheses starts with a
digit, although it is spelled like any other call. -/
theorem digit_call_unread :
    IsWritten "" ∧ splitArguments "" = [] ∧ digitCall.print = spellMarker ("1" ++ "(" ++ "" ++ ")") ∧
      parse {} (printNodes [digitCall]) = .ok [.text "\x7b\x7b1()\x7d\x7d"] ∧
      parse {} (printNodes [digitCall]) ≠ .ok (placeNodes 0 [digitCall]) := by
  have cut : scan (printNodes [digitCall]).toList = [.text "\x7b\x7b1()\x7d\x7d".toList] := by decide +kernel
  have read : parse {} (printNodes [digitCall]) = .ok [.text "\x7b\x7b1()\x7d\x7d"] := by
    have derives := @Derives.text 0 "\x7b\x7b1()\x7d\x7d".toList [] [] .nil
    rw [String.ofList_toList] at derives
    exact parse_of_derives (by rw [cut]; exact derives)
  refine ⟨⟨by decide +kernel, by decide +kernel⟩, by decide +kernel, by decide +kernel, read, ?_⟩
  rw [read]
  intro same
  cases same

end Stencil.Markup
