import Stencil.Proofs.Markup.Argument
import Stencil.Proofs.Markup.Concrete
import Stencil.Proofs.Markup.Print

/-!
Single nodes.

When a text that is written like a call, or like a conditional around literal text, is read as that and nothing else
(`parse_call_iff`, `parse_if_iff`). What decides is whether the marker could end earlier.
-/

namespace Stencil.Markup

theorem eq_nil_of_prefix_cons {s rest : List Char} {c : Char} (free : c ∉ s) (begins : s <+: c :: rest) : s = [] := by
  cases s with
  | nil => rfl
  | cons d s =>
    obtain ⟨rfl, _⟩ := List.cons_prefix_cons.mp begins
    exact absurd (List.mem_cons_self ..) free

/-- What stands in a text and does not hold one of its characters lies before or behind that character. -/
theorem infix_of_infix_append_cons {s first rest : List Char} {c : Char} (free : c ∉ s)
    (inside : s <:+: first ++ c :: rest) : s <:+: first ∨ s <:+: rest := by
  rcases List.infix_append_iff.mp inside with before | behind | ⟨start, stop, rfl, ends, begins⟩
  · exact .inl before
  · rcases List.infix_cons_iff.mp behind with begins | behind
    · rw [eq_nil_of_prefix_cons free begins]
      exact .inl List.nil_infix
    · exact .inr behind
  · rw [eq_nil_of_prefix_cons (fun member => free (List.mem_append_right start member)) begins, List.append_nil]
    exact .inl ends.isInfix

theorem isWritten_append_comma {first rest : String} :
    IsWritten (first ++ ", " ++ rest) ↔ IsWritten first ∧ IsWritten rest := by
  have text : (first ++ ", " ++ rest).toList = first.toList ++ ',' :: ' ' :: rest.toList := by simp
  rw [IsWritten, text]
  constructor
  · rintro ⟨oneLine, noEnd⟩
    refine ⟨⟨fun member => oneLine (List.mem_append_left _ member), fun inside => noEnd ?_⟩,
      fun member => oneLine (List.mem_append_right _ (by simp [member])), fun inside => noEnd ?_⟩
    · exact inside.trans (List.prefix_append ..).isInfix
    · exact inside.trans ⟨first.toList ++ [',', ' '], [], by simp⟩
  · rintro ⟨⟨oneLine, noEnd⟩, oneLine', noEnd'⟩
    refine ⟨by simp [oneLine, oneLine'], fun inside => ?_⟩
    rcases infix_of_infix_append_cons (by decide) inside with inside | inside
    · exact noEnd inside
    · rw [← List.nil_append (' ' :: _)] at inside
      rcases infix_of_infix_append_cons (by decide) inside with inside | inside
      · exact absurd inside (by decide)
      · exact noEnd' inside

theorem isWritten_spellArguments {arguments : List String} :
    IsWritten (spellArguments arguments) ↔ ∀ argument ∈ arguments, IsWritten argument := by
  induction arguments with
  | nil => exact ⟨fun _ _ member => absurd member List.not_mem_nil, fun _ => ⟨by decide, by decide⟩⟩
  | cons first rest ih =>
    rw [List.forall_mem_cons, ← ih]
    cases rest with
    | nil =>
      have nothing : IsWritten (spellArguments []) := ⟨by decide, by decide⟩
      rw [spellArguments, String.intercalate_singleton, and_iff_left nothing]
    | cons second rest => rw [spellArguments, String.intercalate_cons_cons, isWritten_append_comma, ← spellArguments]

theorem of_spells_call {name written : String} {form : List Char} (spelled : Spells (.call name written) form) :
    IsName name.toList ∧ IsWritten written ∧ form = (spellMarker (name ++ "(" ++ written ++ ")")).toList := by
  cases spelled with
  | call shape oneLine noEnd =>
    rw [IsWritten, String.toList_ofList, String.toList_ofList]
    exact ⟨shape, ⟨oneLine, noEnd⟩, by simp [spellMarker, Marker.opening, Marker.closing]⟩

theorem of_spells_ifOpen {condition : String} {form : List Char} (spelled : Spells (.ifOpen condition) form) :
    '}' ∉ condition.toList := by
  cases spelled with
  | ifOpen first _ free =>
    rw [String.toList_ofList]
    intro member
    rcases List.mem_cons.mp (Text.mem_of_mem_strip member) with rfl | member
    · exact absurd first (by decide)
    · exact free member

section Inversion

variable {start : Nat} {part : Concrete}

/-- A part that is a call is its marker. -/
theorem Concrete.of_node_eq_call {name spelling : String} {arguments : List String}
    (same : part.node start = .call name arguments spelling) :
    ∃ written, arguments = splitArguments written ∧ Spells (.call name written) spelling.toList ∧
      part.pieces = [.token ⟨.call name written, spelling⟩] := by
  cases part with
  | text | choice => cases same
  | block opening => cases opening <;> cases same
  | leaf mark node stands =>
    obtain ⟨t, spelled⟩ := mark
    rw [Concrete.node] at same
    subst same
    cases stands
    exact ⟨_, rfl, spelled, rfl⟩

/-- A part that is a conditional opens with the marker of its condition. -/
theorem Concrete.of_node_eq_conditional {condition : String} {accepted rejected : List Node}
    (same : part.node start = .conditional condition accepted rejected) : ∃ form, Spells (.ifOpen condition) form := by
  cases part with
  | text => cases same
  | leaf mark node stands =>
    obtain ⟨t, spelled⟩ := mark
    rw [Concrete.node] at same
    subst same
    cases stands
  | block opening opener closer opens closes inside =>
    cases opening with
    | conditional =>
      cases same
      have spelled := opener.spelled
      rw [opens.eq_opener] at spelled
      exact ⟨_, spelled⟩
    | loop | region => cases same
  | choice condition opener turn closer opens =>
    cases same
    exact ⟨_, opens ▸ opener.spelled⟩

theorem parts_of_parse_singleton {source : String} {node : Node} (read : parse {} source = .ok [node]) :
    ∃ part : Concrete, part.node 0 = node ∧ written part.pieces = source.toList := by
  obtain ⟨parts, cut, same⟩ := parts_of_parse read
  match parts, same with
  | [part], same =>
    refine ⟨part, (List.cons.inj same).1.symm, ?_⟩
    rw [← written_scan source.toList, cut, piecesOf, piecesOf, List.append_nil]

end Inversion

/-- A call by itself is read as a call exactly if it has a name and its arguments can stand in a marker. -/
theorem parse_call_iff {name written : String} {arguments : List String} (split : splitArguments written = arguments) :
    (∃ spelling, parse {} (spellMarker (name ++ "(" ++ written ++ ")")) = .ok [.call name arguments spelling]) ↔
      IsName name.toList ∧ IsWritten written := by
  subst split
  constructor
  · rintro ⟨spelling, read⟩
    obtain ⟨part, same, whole⟩ := parts_of_parse_singleton read
    obtain ⟨written', _, spelled, pieces⟩ := Concrete.of_node_eq_call same
    obtain ⟨shape, free, form⟩ := of_spells_call spelled
    rw [pieces, written_cons, written_nil, List.append_nil, Piece.chars, form] at whole
    have agree : written' = written := String.toList_inj.mp (by simpa [spellMarker] using whole)
    exact ⟨shape, agree ▸ free⟩
  · rintro ⟨shape, free⟩
    have spelled := spells_call shape free
    have cut := scan_append_form spelled []
    rw [List.append_nil, scan_nil, String.ofList_toList] at cut
    exact ⟨_, @parse_of_parts _ [.leaf ⟨⟨.call name written, _⟩, spelled⟩ _ .call] cut⟩

/-- A conditional around literal text is read as such exactly if its condition has no closing brace. -/
theorem parse_if_iff {condition text : String} (nonempty : condition ≠ "") (filled : text ≠ "")
    (inert : Inert text.toList) :
    parse {} (spellBlock .conditional condition text) =
        .ok [.conditional (String.ofList (Text.strip condition.toList)) [.text text] []] ↔ '}' ∉ condition.toList := by
  constructor
  · intro read member
    obtain ⟨part, same, _⟩ := parts_of_parse_singleton read
    obtain ⟨form, spelled⟩ := Concrete.of_node_eq_conditional same
    refine of_spells_ifOpen spelled ?_
    rw [String.toList_ofList]
    exact Text.mem_strip_of_visible member (by decide)
  · intro free
    have opens := spells_if_strip nonempty free
    have closes := spells_closer .conditional
    have inside : text.toList ≠ [] := fun empty => filled (String.toList_eq_nil_iff.mp empty)
    have cut : scan (spellBlock .conditional condition text).toList =
        [.token ⟨.ifOpen (String.ofList (Text.strip condition.toList)), spellOpener .conditional condition⟩,
          .text text.toList, .token ⟨.ifClose, spellCloser .conditional⟩] := by
      have last := scan_append_form closes []
      rw [List.append_nil, scan_nil] at last
      rw [spellBlock_eq, String.toList_append, String.toList_append, List.append_assoc, scan_append_form opens,
        scan_append_text inside inert, last, String.ofList_toList, String.ofList_toList]
      rfl
    have read := @parse_of_parts _ [.block (.conditional _) ⟨⟨_, _⟩, opens⟩ ⟨⟨_, _⟩, closes⟩ .conditional rfl
      [.text text.toList]] cut
    simpa only [nodesFrom, Concrete.node, Opening.node, String.ofList_toList] using read

end Stencil.Markup
