import Mathlib.Data.List.Infix
import Stencil.Proofs.Markup.Substitution

/-!
Reading texts that are written one after the other.

The markers of finished texts stay what they are. So what is read is the nodes of the first text and then those of
the second, but for literal text on both sides of the seam, which becomes one (`Finished.parse_append`).
-/

namespace Stencil.Markup

/-- Nodes with others after them, where literal text on both sides of the seam becomes one. -/
inductive Joined : List Node → List Node → List Node → Prop
  | apart {first second} : Joined first second (first ++ second)
  | merged {first second s t} :
      Joined (first ++ [.text s]) (.text t :: second) (first ++ .text (s ++ t) :: second)

theorem piecesOf_append (first second : List Concrete) :
    piecesOf (first ++ second) = piecesOf first ++ piecesOf second := by
  induction first with
  | nil => rfl
  | cons part first ih => rw [List.cons_append, piecesOf, piecesOf, ih, List.append_assoc]

/-- The nodes of parts, without the offsets at which they stand. -/
def treeOf (parts : List Concrete) : List Node :=
  bareNodes (nodesFrom 0 parts)

@[simp] theorem treeOf_nil : treeOf [] = [] := rfl

theorem bare_nodesFrom_eq (start : Nat) (parts : List Concrete) : bareNodes (nodesFrom start parts) = treeOf parts :=
  bare_nodesFrom parts start 0

@[simp] theorem treeOf_cons (part : Concrete) (parts : List Concrete) :
    treeOf (part :: parts) = (part.node 0).bare :: treeOf parts := by
  rw [treeOf, nodesFrom, bareNodes, bare_nodesFrom_eq]

@[simp] theorem treeOf_append (first second : List Concrete) : treeOf (first ++ second) = treeOf first ++ treeOf second := by
  induction first with
  | nil => rfl
  | cons part first ih => rw [List.cons_append, treeOf_cons, treeOf_cons, ih, List.cons_append]

/-- The pieces of a part end with literal text only if that is all the part is. -/
theorem Concrete.getLast?_pieces (part : Concrete) :
    (∃ s, part = .text s) ∨ ∃ t, part.pieces.getLast? = some (.token t) := by
  cases part with
  | text s => exact .inl ⟨s, rfl⟩
  | leaf mark node stands => exact .inr ⟨_, rfl⟩
  | block opening opener closer opens closes inside => exact .inr ⟨_, List.getLast?_concat⟩
  | choice condition opener turn closer opens turns closes accepted rejected => exact .inr ⟨_, List.getLast?_concat⟩

theorem Concrete.head?_pieces (part : Concrete) :
    (∃ s, part = .text s) ∨ ∃ t, part.pieces.head? = some (.token t) := by
  cases part with
  | text s => exact .inl ⟨s, rfl⟩
  | leaf mark node stands => exact .inr ⟨_, rfl⟩
  | block opening opener closer opens closes inside => exact .inr ⟨_, rfl⟩
  | choice condition opener turn closer opens turns closes accepted rejected => exact .inr ⟨_, rfl⟩

/-- Literal text of which both halves are legible is legible as one. -/
theorem Legible.merge {before after : List Piece} {s t : List Char} (legible : Legible (before ++ [.text s]))
    (more : Legible (.text t :: after)) : Legible (before ++ .text (s ++ t) :: after) := by
  have inert : Inert s := legible.right.firm _ (List.mem_singleton_self _)
  have inert' : Inert t := more.firm _ (List.mem_cons_self ..)
  have nonempty : s ++ t ≠ [] := by
    intro empty
    refine more.settled.filled ?_
    rw [(List.append_eq_nil_iff.mp empty).2]
    exact List.mem_cons_self ..
  have whole : Legible (.text (s ++ t) :: after) := by
    refine ⟨⟨?_, more.settled.apart.tail.cons ?_⟩, ?_⟩
    · rw [List.mem_cons, not_or]
      exact ⟨fun same => nonempty (Piece.text.inj same).symm, more.tail.settled.filled⟩
    · intro next head
      have apart := more.settled.apart.rel_head? head
      cases next with
      | text _ => exact apart
      | token _ => trivial
    · exact List.forall_mem_cons.mpr ⟨inert.append inert', more.tail.firm⟩
  refine legible.left.append whole fun last final next head => ?_
  -- What stood before the first half was no literal text.
  obtain ⟨_, _, divided⟩ := List.isChain_append.mp legible.settled.apart
  have apart := divided last final (.text s) rfl
  cases head
  cases last with
  | text _ => exact apart
  | token _ => trivial

/-- Parts that are written as two texts are, one after the other. -/
structure Seam (first second parts : List Concrete) : Prop where
  legible : Legible (piecesOf parts)
  written : written (piecesOf parts) = written (piecesOf first) ++ written (piecesOf second)
  joined : Joined (treeOf first) (treeOf second) (treeOf parts)

theorem seam_of_apart {first second : List Concrete} (legible : Legible (piecesOf first))
    (more : Legible (piecesOf second))
    (apart : ∀ last ∈ (piecesOf first).getLast?, ∀ next ∈ (piecesOf second).head?, last.Apart next) :
    Seam first second (first ++ second) where
  legible := by
    rw [piecesOf_append]
    exact legible.append more apart
  written := by rw [piecesOf_append, written_append]
  joined := by
    rw [treeOf_append]
    exact .apart

theorem seam_of_texts {before after : List Concrete} {s t : List Char}
    (legible : Legible (piecesOf (before ++ [.text s]))) (more : Legible (piecesOf (.text t :: after))) :
    Seam (before ++ [.text s]) (.text t :: after) (before ++ .text (s ++ t) :: after) where
  legible := by
    rw [piecesOf_append] at legible ⊢
    exact legible.merge more
  written := by simp [piecesOf_append, piecesOf, Concrete.pieces, Piece.chars]
  joined := by
    simp only [treeOf_append, treeOf_cons, treeOf_nil, Concrete.node, Node.bare, String.ofList_append]
    exact .merged

/-- Parts whose pieces are legible can be written one after the other. -/
theorem exists_seam {first second : List Concrete} (legible : Legible (piecesOf first))
    (more : Legible (piecesOf second)) : ∃ parts, Seam first second parts := by
  rcases first.eq_nil_or_concat' with rfl | ⟨before, part, rfl⟩
  · exact ⟨_, seam_of_apart legible more nofun⟩
  cases second with
  | nil => exact ⟨_, seam_of_apart legible more fun _ _ => nofun⟩
  | cons part' after =>
    rcases part.getLast?_pieces with ⟨s, rfl⟩ | ⟨t, ends⟩
    · rcases part'.head?_pieces with ⟨s', rfl⟩ | ⟨t, begins⟩
      · exact ⟨_, seam_of_texts legible more⟩
      · refine ⟨_, seam_of_apart legible more fun last _ next head => ?_⟩
        rw [piecesOf, List.head?_append, begins] at head
        cases head
        exact last.apart_token t
    · refine ⟨_, seam_of_apart legible more fun last final next _ => ?_⟩
      rw [piecesOf_append, piecesOf, piecesOf, List.append_nil, List.getLast?_append, ends] at final
      cases final
      cases next <;> trivial

theorem bare_of_parts {source : String} {parts : List Concrete} {nodes : List Node}
    (cut : scan source.toList = piecesOf parts) (read : parse {} source = .ok nodes) : bareNodes nodes = treeOf parts := by
  cases Except.ok.inj (read.symm.trans (parse_of_parts cut))
  rfl

/-- Of two finished texts, one after the other, their nodes are read. -/
theorem Finished.parse_append {first second : String} (finished : Finished first) (more : Finished second)
    {nodes nodes' : List Node} (read : parse {} first = .ok nodes) (read' : parse {} second = .ok nodes') :
    ∃ whole, parse {} (first ++ second) = .ok whole ∧
      Joined (bareNodes nodes) (bareNodes nodes') (bareNodes whole) := by
  obtain ⟨parts, cut, legible⟩ := finished.parts
  obtain ⟨parts', cut', legible'⟩ := more.parts
  obtain ⟨seam, joins⟩ := exists_seam legible legible'
  have text : written (piecesOf seam) = (first ++ second).toList := by
    rw [joins.written, ← cut, ← cut', written_scan, written_scan, String.toList_append]
  have cutSeam : scan (first ++ second).toList = piecesOf seam := by
    rw [← text, joins.legible.scan_written]
  refine ⟨_, parse_of_parts cutSeam, ?_⟩
  rw [bare_of_parts cut read, bare_of_parts cut' read']
  exact joins.joined

theorem intercalate_cons_cons (separator first second : String) (rest : List String) :
    separator.intercalate (first :: second :: rest) =
      first ++ separator ++ separator.intercalate (second :: rest) :=
  String.intercalate_cons_of_ne_nil nofun

theorem Finished.intercalate {sources : List String} {separator : String}
    (finished : ∀ source ∈ sources, Finished source) (between : Finished separator) :
    Finished (separator.intercalate sources) := by
  induction sources with
  | nil => exact finished_of_free List.not_mem_nil
  | cons source rest ih =>
    obtain ⟨here, later⟩ := List.forall_mem_cons.mp finished
    cases rest with
    | nil => rwa [String.intercalate_singleton]
    | cons next rest =>
      rw [intercalate_cons_cons]
      exact (here.append between).append (ih later)

section Block

theorem count_brace_eq_zero {s : List Char} {kind : Char → Bool} (all : ∀ c ∈ s, kind c = true)
    (other : kind '{' = false) : s.count '{' = 0 := by
  rw [List.count_eq_zero]
  intro member
  rw [all _ member] at other
  cases other

theorem IsRegionName.chars {name : List Char} (shape : IsRegionName name) : ∀ c ∈ name, isRegionChar c = true := by
  obtain ⟨c, rest, rfl, start, more⟩ := shape
  exact List.forall_mem_cons.mpr ⟨by simp [isRegionChar, start], more⟩

/-- A marker has two opening braces at most, unless it is a call or opens a conditional. -/
theorem Spells.braces {marker : Marker} {form : List Char} (spelled : Spells marker form) :
    (∃ condition inner, marker = .ifOpen condition ∧ form = inner ++ ['}', '}']) ∨
      (∃ inner, form = inner ++ [')', '}', '}']) ∨ form.count '{' ≤ 2 ∧ ∃ inner, form = inner ++ ['}'] := by
  have closed (inner : List Char) : ∃ inner', inner ++ Marker.closing = inner' ++ ['}'] :=
    ⟨inner ++ ['}'], (List.append_assoc inner ['}'] ['}']).symm⟩
  have blank {s : List Char} (run : IsBlankRun s) : s.count '{' = 0 := count_brace_eq_zero run (by decide)
  cases spelled with
  | ifOpen _ _ _ => exact .inl ⟨_, _, rfl, rfl⟩
  | call _ _ _ => exact .inr (.inl ⟨_, rfl⟩)
  | ifElse => exact .inr (.inr ⟨by decide, closed _⟩)
  | ifClose => exact .inr (.inr ⟨by decide, closed _⟩)
  | eachClose => exact .inr (.inr ⟨by decide, closed _⟩)
  | eachOpen _ run path _ run₁ _ run₂ name run₃ =>
    have path := count_brace_eq_zero path.chars (by decide)
    have name := count_brace_eq_zero (IsName.chars name) (by decide)
    refine .inr (.inr ⟨?_, closed _⟩)
    simp [blank run, blank run₁, blank run₂, blank run₃, path, name, Marker.opening, Marker.closing]
  | @regionOpen kind _ _ _ _ run name run' =>
    have name := count_brace_eq_zero (IsRegionName.chars name) (by decide)
    have word : kind.word.toList.count '{' = 0 := by cases kind <;> decide
    refine .inr (.inr ⟨?_, closed _⟩)
    simp [blank run, blank run', name, word, Marker.opening, Marker.closing]
  | @regionClose kind =>
    have word : kind.word.toList.count '{' = 0 := by cases kind <;> decide
    refine .inr (.inr ⟨?_, closed _⟩)
    simp [word, Marker.opening, Marker.closing]
  | doubleSlot path =>
    have path := count_brace_eq_zero path.chars (by decide)
    refine .inr (.inr ⟨?_, closed _⟩)
    simp [path, Marker.opening, Marker.closing]
  | singleSlot path =>
    have path := count_brace_eq_zero path.chars (by decide)
    refine .inr (.inr ⟨?_, _, rfl⟩)
    simp [path]

/-- The closing marker of a block. -/
def blockCloser : Token :=
  ⟨.regionClose .block, spellCloser (.region .block)⟩

theorem blockCloser_toList :
    blockCloser.spelling.toList = ['{', '{', '/', 'b', 'l', 'o', 'c', 'k', '}', '}'] := by
  decide

/-- Only the opening of a conditional goes on over the closing marker of a block, and then it takes in all of it. -/
theorem opens_of_spells_append {marker : Marker} {c : Char} {s taken rest : List Char}
    (spelled : Spells marker (c :: s ++ taken)) (nonempty : taken ≠ [])
    (split : blockCloser.spelling.toList = taken ++ rest) : rest = [] ∧ ∃ condition, marker = .ifOpen condition := by
  rw [blockCloser_toList] at split
  have last : taken.getLast? = some '}' := by
    have final : (c :: s ++ taken).getLast? = some '}' := by
      rcases spelled.braces with ⟨_, inner, _, form⟩ | ⟨inner, form⟩ | ⟨_, inner, form⟩ <;> simp [form]
    rwa [List.getLast?_append_of_ne_nil _ nonempty] at final
  have cuts : ∀ part ∈ List.inits ['{', '{', '/', 'b', 'l', 'o', 'c', 'k', '}', '}'], part.getLast? = some '}' →
      part = ['{', '{', '/', 'b', 'l', 'o', 'c', 'k', '}'] ∨
        part = ['{', '{', '/', 'b', 'l', 'o', 'c', 'k', '}', '}'] := by decide
  have few : ¬ (c :: s ++ taken).count '{' ≤ 2 := by
    obtain ⟨more, first⟩ := spelled.head
    obtain ⟨rfl, _⟩ := List.cons.inj first
    rcases cuts taken ((List.mem_inits ..).mpr ⟨rest, split.symm⟩) last with rfl | rfl <;> simp
  rcases cuts taken ((List.mem_inits ..).mpr ⟨rest, split.symm⟩) last with rfl | rfl
  · -- The last brace but one is missing, which every marker but a variable in single braces has.
    rcases spelled.braces with ⟨_, inner, _, form⟩ | ⟨inner, form⟩ | ⟨count, _⟩
    · exact absurd (congrArg List.reverse form) (by simp)
    · exact absurd (congrArg List.reverse form) (by simp)
    · exact absurd count few
  · refine ⟨by simpa using split, ?_⟩
    rcases spelled.braces with ⟨condition, _, same, _⟩ | ⟨inner, form⟩ | ⟨count, _⟩
    · exact ⟨condition, same⟩
    · exact absurd (congrArg List.reverse form) (by simp)
    · exact absurd count few

/-- Pieces that end with the opening of a conditional. -/
def EndsOpen (pieces : List Piece) : Prop :=
  ∃ before condition spelling, pieces = before ++ [.token ⟨.ifOpen condition, spelling⟩]

theorem EndsOpen.cons {pieces : List Piece} : EndsOpen pieces → ∀ piece, EndsOpen (piece :: pieces)
  | ⟨before, condition, spelling, same⟩, piece => ⟨piece :: before, condition, spelling, by rw [same, List.cons_append]⟩

theorem cons_char_concat (c : Char) (pieces : List Piece) (t : Token) :
    Piece.cons c (pieces ++ [.token t]) = Piece.cons c pieces ++ [.token t] := by
  rcases pieces with _ | ⟨_ | _, _⟩ <;> rfl

/-- The closing marker of a block stays what it is after any text, unless the text ends with an unfinished opening of
a conditional. -/
theorem scan_append_blockCloser (s : List Char) :
    scan (s ++ blockCloser.spelling.toList) = scan s ++ [.token blockCloser] ∨
      EndsOpen (scan (s ++ blockCloser.spelling.toList)) := by
  have closer : Spells blockCloser.marker blockCloser.spelling.toList := spells_closer (.region .block)
  induction s using scan_induction with
  | nil =>
    have cut := scan_append_form closer []
    rw [List.append_nil, scan_nil, String.ofList_toList] at cut
    rw [List.nil_append, scan_nil]
    exact .inl cut
  | form marker form rest spelled ih =>
    rw [List.append_assoc, scan_append_form spelled, scan_append_form spelled]
    rcases ih with same | ends
    · rw [same]
      exact .inl rfl
    · exact .inr (ends.cons _)
  | char c s none_ ih =>
    cases read : Marker.read? (c :: s ++ blockCloser.spelling.toList) with
    | none =>
      rw [List.cons_append] at read ⊢
      rw [scan_cons_of_none read, scan_cons_of_none none_]
      rcases ih with same | ⟨before, condition, spelling, same⟩
      · rw [same, cons_char_concat]
        exact .inl rfl
      · rw [same, cons_char_concat]
        exact .inr ⟨_, condition, spelling, rfl⟩
    | some result =>
      obtain ⟨marker, rest⟩ := result
      obtain ⟨form, spelled, whole⟩ := Marker.read?_sound read
      -- A marker within the text alone would have been read before.
      have outside (more : List Char) : c :: s ≠ form ++ more := by
        intro within
        rw [within, Marker.read?_append spelled more] at none_
        cases none_
      rcases List.append_eq_append_iff.mp whole with ⟨taken, rfl, split⟩ | ⟨more, within, _⟩
      · have nonempty : taken ≠ [] := by
          rintro rfl
          exact outside [] (by simp)
        obtain ⟨rfl, condition, rfl⟩ := opens_of_spells_append spelled nonempty split
        rw [split, ← List.append_assoc, scan_append_form spelled, scan_nil]
        exact .inr ⟨[], condition, _, rfl⟩
      · exact absurd within (outside more)

/-- Balanced markers do not end with one that opens a conditional. -/
theorem Balanced.getLast?_ne {ms : List Marker} (balanced : Balanced ms) (condition : String) :
    ms.getLast? ≠ some (.ifOpen condition) := by
  have after (before : List Marker) {rest : List Marker} {m : Marker} (other : m ≠ .ifOpen condition)
      (ends : rest.getLast? ≠ some (.ifOpen condition)) :
      (before ++ m :: rest).getLast? ≠ some (.ifOpen condition) := by
    rw [List.getLast?_append_of_ne_nil _ (List.cons_ne_nil m rest)]
    cases rest with
    | nil => exact fun same => other (Option.some.inj same)
    | cons next rest => rwa [List.getLast?_cons_cons]
  induction balanced with
  | nil => nofun
  | slot _ ih => exact after [] nofun ih
  | call _ ih => exact after [] nofun ih
  | conditional _ _ _ ih => exact after _ nofun ih
  | choice _ _ _ _ _ ih => exact after _ nofun ih
  | loop _ _ _ _ ih => exact after _ nofun ih
  | region _ _ _ ih => exact after _ nofun ih

theorem Balanced.not_endsOpen {pieces : List Piece} (balanced : Balanced (markers pieces)) : ¬ EndsOpen pieces := by
  rintro ⟨before, condition, spelling, rfl⟩
  refine balanced.getLast?_ne condition ?_
  rw [markers_append]
  exact List.getLast?_concat

/-- A text that is read as the body of a block, too, has its pieces between the markers of the block. -/
theorem scan_spellRegion {name body : String} (named : IsRegionName name.toList)
    (whole : Parses (spellRegion .block name body)) : scan (spellRegion .block name body).toList =
      .token ⟨.regionOpen .block name, spellOpener (.region .block) name⟩ :: scan body.toList ++
        [.token blockCloser] := by
  obtain ⟨nodes, read⟩ := whole
  have balanced := balanced_of_parse read
  have cut : scan (spellRegion .block name body).toList =
      .token ⟨.regionOpen .block name, spellOpener (.region .block) name⟩ ::
        scan (body.toList ++ blockCloser.spelling.toList) := by
    rw [spellRegion, spellBlock_eq, String.toList_append, String.toList_append, List.append_assoc,
      scan_append_form (spells_region named), String.ofList_toList]
    rfl
  rcases scan_append_blockCloser body.toList with same | ends
  · rw [cut, same]
    rfl
  · rw [cut] at balanced
    exact absurd (ends.cons _) balanced.not_endsOpen

/-- A text that is read alone and as the body of a block is read as the same nodes there. -/
theorem parse_spellRegion {name body : String} {nodes : List Node} (named : IsRegionName name.toList)
    (read : parse {} body = .ok nodes) (whole : Parses (spellRegion .block name body)) :
    ∃ span inside, parse {} (spellRegion .block name body) = .ok [.region .block name span inside] ∧
      bareNodes inside = bareNodes nodes := by
  obtain ⟨parts, cut, rfl⟩ := parts_of_parse read
  let opener : Mark := ⟨⟨.regionOpen .block name, spellOpener (.region .block) name⟩, spells_region named⟩
  let closer : Mark := ⟨blockCloser, spells_closer (.region .block)⟩
  have opens : Opens opener.marker (.region .block name) := .region
  have cutWhole : scan (spellRegion .block name body).toList =
      piecesOf [.block (.region .block name) opener closer opens rfl parts] := by
    rw [scan_spellRegion named whole, cut]
    simp [piecesOf, Concrete.pieces, opener, closer]
  exact ⟨_, _, parse_of_parts cutWhole, bare_nodesFrom parts _ 0⟩

end Block

end Stencil.Markup
