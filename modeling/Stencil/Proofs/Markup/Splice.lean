import Stencil.Markup.Splice
import Stencil.Proofs.Markup.Concrete

/-!
Splicing as a recursion over the tree of a text.

The splicer goes over the regions of a text with a cursor. `spliceParts` says the same without offsets: a region
that gets a new body keeps its markers and has the new body between them, and everything else stays as it is
written (`replaceRegions_eq`).
-/

namespace Stencil.Markup

theorem Mark.length_pos (mark : Mark) : 0 < mark.spelling.length := by
  obtain ⟨rest, starts⟩ := mark.spelled.head
  rw [← String.length_toList, starts]
  exact Nat.succ_pos _

theorem Token.Stands.regions {t : Token} {node : Node} (stands : t.Stands node) : node.regions = [] := by
  cases stands <;> rfl

theorem Opening.region?_span {opening : Opening} {span : Span} {r : Region} (found : opening.region? span = some r) :
    r.span = span := by
  cases opening <;> cases found
  rfl

section Texts

variable {source s t : List Char} {start : Nat}

/-- A text stands in another one at an offset. -/
def Occurs (source : List Char) (start : Nat) (s : List Char) : Prop :=
  s <+: source.drop start

theorem Occurs.left (occurs : Occurs source start (s ++ t)) : Occurs source start s :=
  (List.prefix_append s t).trans occurs

theorem Occurs.drop (occurs : Occurs source start s) : source.drop start = s ++ source.drop (start + s.length) := by
  obtain ⟨rest, whole⟩ := occurs
  rw [← List.drop_drop, ← whole, List.drop_left]

theorem Occurs.right (occurs : Occurs source start (s ++ t)) : Occurs source (start + s.length) t := by
  obtain ⟨rest, whole⟩ := occurs
  refine ⟨rest, ?_⟩
  rw [← List.drop_drop, ← whole, List.append_assoc, List.drop_left]

theorem Occurs.slice (occurs : Occurs source start s) : slice source start (start + s.length) = s := by
  rw [Markup.slice, occurs.drop, Nat.add_sub_cancel_left, List.take_left]

theorem Occurs.slice_append (occurs : Occurs source start s) {stop : Nat} (after : start + s.length ≤ stop) :
    Markup.slice source start stop = s ++ Markup.slice source (start + s.length) stop := by
  have split : stop - start = s.length + (stop - (start + s.length)) := by omega
  rw [Markup.slice, occurs.drop, split, List.take_length_add_append, Markup.slice]

/-- Where the contents of a block stand, and what is behind them. -/
theorem Occurs.contents {spelling : String} {inside : List Piece} {rest : List Char}
    (occurs : Occurs source start (spelling.toList ++ (written inside ++ rest))) :
    Occurs source (start + spelling.length) (written inside) ∧
      Occurs source (start + spelling.length + extent inside) rest := by
  have behind := occurs.right
  rw [String.length_toList] at behind
  exact ⟨behind.left, behind.right⟩

end Texts

/-- A region that does not begin before an offset. -/
structure Region.From (start : Nat) (r : Region) : Prop where
  after : start ≤ r.span.start
  forward : r.span.start ≤ r.span.bodyStart

/-- A region that begins between two offsets. -/
structure Region.Within (start stop : Nat) (r : Region) : Prop extends r.From start where
  before : r.span.start < stop

theorem Region.From.mono {start start' : Nat} {r : Region} (begins : r.From start) (low : start' ≤ start) :
    r.From start' :=
  ⟨low.trans begins.after, begins.forward⟩

theorem Region.Within.mono {start stop start' stop' : Nat} {r : Region} (begins : r.Within start stop)
    (low : start' ≤ start) (high : stop ≤ stop') : r.Within start' stop' :=
  ⟨begins.toFrom.mono low, begins.before.trans_le high⟩

mutual

/-- The regions of a part begin in the text of the part. -/
theorem Concrete.regions_begin (part : Concrete) (start : Nat) :
    ∀ r ∈ (part.node start).regions, r.Within start (start + extent part.pieces) := by
  cases part with
  | text s => exact fun r member => absurd member List.not_mem_nil
  | leaf mark node stands =>
    rw [Concrete.node, stands.regions]
    exact fun r member => absurd member List.not_mem_nil
  | block opening opener closer opens closes inside =>
    intro r member
    rw [Concrete.node, Opening.regions_node, List.mem_append, Option.mem_toList] at member
    rw [extent_block]
    rcases member with found | member
    · have length := opener.length_pos
      refine ⟨⟨?_, ?_⟩, ?_⟩ <;> rw [Opening.region?_span found, spanFrom]
      · exact Nat.le_add_right ..
      · dsimp only
        omega
    · exact (regionsOf_begin inside _ r member).mono (Nat.le_add_right ..) (by omega)
  | choice condition opener turn closer opens turns closes accepted rejected =>
    intro r member
    simp only [Concrete.node, Node.regions, List.mem_append] at member
    rw [extent_choice]
    rcases member with member | member
    · exact (regionsOf_begin accepted _ r member).mono (Nat.le_add_right ..) (by omega)
    · exact (regionsOf_begin rejected _ r member).mono (by omega) (by omega)

theorem regionsOf_begin (parts : List Concrete) (start : Nat) :
    ∀ r ∈ regionsOf (nodesFrom start parts), r.Within start (start + extent (piecesOf parts)) := by
  cases parts with
  | nil => exact fun r member => absurd member List.not_mem_nil
  | cons part rest =>
    intro r member
    rw [nodesFrom, regionsOf, List.mem_append] at member
    rw [piecesOf, extent_append]
    rcases member with member | member
    · exact (part.regions_begin start r member).mono le_rfl (by omega)
    · exact (regionsOf_begin rest _ r member).mono (Nat.le_add_right ..) (by omega)

end

theorem from_mono {rs : List Region} {start start' : Nat} (later : ∀ r ∈ rs, r.From start) (low : start' ≤ start) :
    ∀ r ∈ rs, r.From start' :=
  fun r member => (later r member).mono low

theorem from_of_append (parts : List Concrete) {start : Nat} {rest : List Region}
    (later : ∀ r ∈ rest, r.From (start + extent (piecesOf parts))) :
    ∀ r ∈ regionsOf (nodesFrom start parts) ++ rest, r.From start := by
  intro r member
  rcases List.mem_append.mp member with inside | behind
  · exact (regionsOf_begin parts start r inside).toFrom
  · exact (later r behind).mono (Nat.le_add_right ..)

section Cursor

variable {source : List Char} (replace : Region → String → Option String) {start : Nat}

/-- The splicer copies text before which no region begins. -/
theorem spliceFrom_copy {s : List Char} (occurs : Occurs source start s) {rs : List Region}
    (later : ∀ r ∈ rs, r.From (start + s.length)) :
    (spliceFrom source replace start rs).text = s ++ (spliceFrom source replace (start + s.length) rs).text := by
  induction rs with
  | nil => exact occurs.drop
  | cons r rs ih =>
    obtain ⟨begins, later⟩ := List.forall_mem_cons.mp later
    have reached : ¬ r.span.start < start + s.length := not_lt_of_ge begins.after
    have reached' : ¬ r.span.start < start := fun before => reached (before.trans_le (Nat.le_add_right ..))
    cases made : replace r (r.body source) with
    | none =>
      simp only [spliceFrom, reached, reached', if_false, made]
      exact ih later
    | some new =>
      simp only [spliceFrom, reached, reached', if_false, made]
      rw [occurs.slice_append (begins.after.trans begins.forward)]
      simp only [List.append_assoc]

theorem spliceFrom_mark {mark : Mark} (occurs : Occurs source start mark.spelling.toList) {rs : List Region}
    (later : ∀ r ∈ rs, r.From (start + mark.spelling.length)) :
    (spliceFrom source replace start rs).text =
      mark.spelling.toList ++ (spliceFrom source replace (start + mark.spelling.length) rs).text := by
  rw [← String.length_toList] at later ⊢
  exact spliceFrom_copy replace occurs later

/-- The splicer passes over regions that begin before its cursor. -/
theorem spliceFrom_skip {inner rest : List Region} (before : ∀ r ∈ inner, r.span.start < start) :
    spliceFrom source replace start (inner ++ rest) = spliceFrom source replace start rest := by
  induction inner with
  | nil => rfl
  | cons r inner ih =>
    obtain ⟨first, before⟩ := List.forall_mem_cons.mp before
    simp only [List.cons_append, spliceFrom, first, if_true]
    exact ih before

/-- At a region, the splicer leaves the body alone, or else writes the new one and passes over the regions inside. -/
theorem spliceFrom_region {r : Region} (here : r.span.start = start) {inner : List Region}
    (inside : ∀ x ∈ inner, x.span.start < r.span.bodyEnd) (rest : List Region) :
    (spliceFrom source replace start (r :: (inner ++ rest))).text =
      match replace r (r.body source) with
      | none => (spliceFrom source replace start (inner ++ rest)).text
      | some new => slice source start r.span.bodyStart ++ new.toList ++
          (spliceFrom source replace r.span.bodyEnd rest).text := by
  have reached : ¬ r.span.start < start := by
    rw [here]
    exact lt_irrefl start
  simp only [spliceFrom, reached, if_false]
  cases replace r (r.body source) with
  | none => rfl
  | some new => simp only [spliceFrom_skip replace inside]

/-- Leaving regions out is the same as leaving them alone. -/
theorem spliceFrom_filter (p : Region → Bool) (rs : List Region) :
    (spliceFrom source replace start (rs.filter p)).text =
      (spliceFrom source (fun r body => if p r then replace r body else none) start rs).text := by
  induction rs generalizing start with
  | nil => rfl
  | cons r rs ih =>
    rw [List.filter_cons]
    by_cases reached : r.span.start < start
    · cases p r <;> simp [spliceFrom, reached, ih]
    · cases chosen : p r with
      | false => simp [spliceFrom, reached, chosen, ih]
      | true =>
        cases made : replace r (r.body source) <;> simp [spliceFrom, reached, chosen, made, ih]

end Cursor

mutual

/-- The text of a part in which some regions get new bodies. -/
def Concrete.splice (new : Region → Option (List Char)) (start : Nat) : Concrete → List Char
  | .text s => s
  | .leaf mark _ _ => mark.spelling.toList
  | .block opening opener closer _ _ inside =>
    opener.spelling.toList ++
      ((opening.region? (spanFrom start opener closer (piecesOf inside))).bind new).getD
        (spliceParts new (start + opener.spelling.length) inside) ++
      closer.spelling.toList
  | .choice _ opener turn closer _ _ _ accepted rejected =>
    opener.spelling.toList ++ spliceParts new (start + opener.spelling.length) accepted ++ turn.spelling.toList ++
      spliceParts new (start + opener.spelling.length + extent (piecesOf accepted) + turn.spelling.length) rejected ++
      closer.spelling.toList

/-- The text of parts in which some regions get new bodies. -/
def spliceParts (new : Region → Option (List Char)) (start : Nat) : List Concrete → List Char
  | [] => []
  | part :: rest => part.splice new start ++ spliceParts new (start + extent part.pieces) rest

end

section Follow

variable {source : List Char} (replace : Region → String → Option String)

/-- What a region of a text gets as its new body. -/
def newBody (source : List Char) (replace : Region → String → Option String) (r : Region) : Option (List Char) :=
  (replace r (r.body source)).map String.toList

mutual

/-- The splicer writes a part with its new bodies and goes on behind it. -/
theorem Concrete.spliceFrom_eq (part : Concrete) (start : Nat) (rest : List Region)
    (occurs : Occurs source start (written part.pieces)) (later : ∀ r ∈ rest, r.From (start + extent part.pieces)) :
    (spliceFrom source replace start ((part.node start).regions ++ rest)).text =
      part.splice (newBody source replace) start ++
        (spliceFrom source replace (start + extent part.pieces) rest).text := by
  cases part with
  | text s =>
    simp only [Concrete.pieces, written_cons, written_nil, List.append_nil, Piece.chars, extent_singleton,
      Piece.length] at occurs later ⊢
    exact spliceFrom_copy replace occurs later
  | leaf mark node stands =>
    simp only [Concrete.pieces, written_cons, written_nil, List.append_nil, Piece.chars, extent_singleton,
      Piece.length] at occurs later ⊢
    rw [Concrete.node, stands.regions, List.nil_append, Concrete.splice]
    exact spliceFrom_mark replace occurs later
  | block opening opener closer opens closes inside =>
    rw [written_block] at occurs
    rw [extent_block, ← Nat.add_assoc, ← Nat.add_assoc] at later ⊢
    obtain ⟨body, closed⟩ := occurs.contents
    have behind := from_mono later (Nat.le_add_right ..)
    have close := spliceFrom_mark replace closed later
    -- What is written from here on if the block keeps its body.
    have kept := spliceFrom_mark replace occurs.left (from_of_append inside behind)
    rw [spliceFrom_parts inside _ rest body behind, close] at kept
    rw [Concrete.node, Opening.regions_node, Concrete.splice]
    cases found : opening.region? (spanFrom start opener closer (piecesOf inside)) with
    | none =>
      simpa only [Option.toList_none, List.nil_append, Option.bind_none, Option.getD_none, List.append_assoc] using kept
    | some r =>
      have span := Opening.region?_span found
      have opened := occurs.left.slice
      rw [String.length_toList] at opened
      have here : r.span.start = start := by rw [span, spanFrom]
      rw [Option.toList_some, List.singleton_append, List.cons_append, spliceFrom_region replace here,
        Option.bind_some, newBody]
      · cases replace r (r.body source) with
        | none => simpa only [Option.map_none, Option.getD_none, List.append_assoc] using kept
        | some new =>
          simp only [Option.map_some, Option.getD_some, span, spanFrom, opened, close, List.append_assoc]
      · -- The regions inside begin before the end of the body, where the splicer goes on.
        rw [span]
        exact fun x member => (regionsOf_begin inside _ x member).before
  | choice condition opener turn closer opens turns closes accepted rejected =>
    rw [written_choice] at occurs
    simp only [extent_choice, ← Nat.add_assoc] at later ⊢
    obtain ⟨first, turned⟩ := occurs.contents
    obtain ⟨second, closed⟩ := turned.contents
    have behind := from_mono later (Nat.le_add_right ..)
    have between := from_of_append rejected behind
    have between' := from_mono between (Nat.le_add_right ..)
    rw [Concrete.node, Node.regions, Concrete.splice, List.append_assoc,
      spliceFrom_mark replace occurs.left (from_of_append accepted between'),
      spliceFrom_parts accepted _ _ first between', spliceFrom_mark replace turned.left between,
      spliceFrom_parts rejected _ rest second behind, spliceFrom_mark replace closed later]
    simp only [List.append_assoc]

theorem spliceFrom_parts (parts : List Concrete) (start : Nat) (rest : List Region)
    (occurs : Occurs source start (written (piecesOf parts)))
    (later : ∀ r ∈ rest, r.From (start + extent (piecesOf parts))) :
    (spliceFrom source replace start (regionsOf (nodesFrom start parts) ++ rest)).text =
      spliceParts (newBody source replace) start parts ++
        (spliceFrom source replace (start + extent (piecesOf parts)) rest).text := by
  cases parts with
  | nil => rfl
  | cons part parts =>
    rw [piecesOf, written_append] at occurs
    rw [piecesOf, extent_append, ← Nat.add_assoc] at later ⊢
    have more := spliceFrom_parts parts _ rest occurs.right later
    rw [nodesFrom, regionsOf, List.append_assoc, part.spliceFrom_eq start _ occurs.left, spliceParts,
      List.append_assoc]
    · exact congrArg _ more
    · exact from_of_append parts later

end

end Follow

theorem occurs_of_eq {source s : List Char} (whole : s = source) : Occurs source 0 s := by
  rw [whole]
  exact List.prefix_rfl

theorem occurs_whole {source : String} {parts : List Concrete} (cut : scan source.toList = piecesOf parts) :
    Occurs source.toList 0 (written (piecesOf parts)) :=
  occurs_of_eq (by rw [← cut, written_scan])

/-- The regions of a kind in a tree, in the order of the text. -/
def regionsOfKind (kind : RegionKind) (nodes : List Node) : List Region :=
  (regionsOf nodes).filter (·.kind == kind)

/-- The splicer goes over the regions of a kind from the start of the text. -/
theorem replaceRegions_run (kind : RegionKind) {source : String} {nodes : List Node}
    (read : parse {} source = .ok nodes) (replace : Region → String → Option String) :
    replaceRegions kind source replace = .ok (spliceFrom source.toList replace 0 (regionsOfKind kind nodes)) := by
  simp only [replaceRegions, findRegionsOf, findRegions, read]
  rfl

/-- A replacement for the regions of one kind. -/
def onlyFor (kind : RegionKind) (replace : Region → String → Option String) (r : Region) (body : String) :
    Option String :=
  if r.kind == kind then replace r body else none

/-- Splicing goes through for every text that is read, and writes its tree with the new bodies. -/
theorem replaceRegions_eq (kind : RegionKind) {source : String} {parts : List Concrete}
    (cut : scan source.toList = piecesOf parts) (replace : Region → String → Option String) :
    ∃ splicing, replaceRegions kind source replace = .ok splicing ∧
      splicing.text = spliceParts (newBody source.toList (onlyFor kind replace)) 0 parts := by
  have whole : written (piecesOf parts) = source.toList := by rw [← cut, written_scan]
  refine ⟨_, replaceRegions_run kind (parse_of_parts cut) replace, ?_⟩
  have all := spliceFrom_parts (onlyFor kind replace) parts 0 [] (occurs_whole cut) fun r member =>
    absurd member List.not_mem_nil
  have ends : source.toList.drop (0 + extent (piecesOf parts)) = [] := by
    rw [extent, whole, Nat.zero_add, List.drop_length]
  rw [List.append_nil, spliceFrom, ends, List.append_nil] at all
  rw [regionsOfKind, spliceFrom_filter]
  exact all

end Stencil.Markup
