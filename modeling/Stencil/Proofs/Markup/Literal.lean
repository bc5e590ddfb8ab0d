import Stencil.Proofs.Markup.Finished

/-!
Markers that are switched off.

Features that ignore markers read a text as if those markers were written as literal text (`ofPieces_literal`).
So every choice of features comes back to the one that ignores nothing: a text is read exactly if the markers
that are left in force are balanced (`parse_iff_balanced`), and variables and calls have no part in that
(`balanced_brackets_iff`). With conditionals and loops switched off only regions count (`parses_plain_iff`).
-/

namespace Stencil.Markup

/-- Pieces in which the markers that features ignore are literal text, joined to the literal text next to them. -/
def literal (features : Features) : List Piece → List Piece
  | [] => []
  | .text s :: rest => Piece.prepend s (literal features rest)
  | .token t :: rest =>
    if features.ignores t.marker then Piece.prepend t.spelling.toList (literal features rest)
    else .token t :: literal features rest

section Literal

variable {features : Features}

@[simp] theorem literal_text (s : List Char) (rest : List Piece) :
    literal features (.text s :: rest) = Piece.prepend s (literal features rest) := rfl

theorem literal_ignored {t : Token} (ignored : features.ignores t.marker = true) (rest : List Piece) :
    literal features (.token t :: rest) = Piece.prepend t.spelling.toList (literal features rest) := by
  rw [literal, if_pos ignored]

theorem literal_kept {t : Token} (kept : features.ignores t.marker = false) (rest : List Piece) :
    literal features (.token t :: rest) = .token t :: literal features rest := by
  rw [literal, if_neg (by rw [kept]; exact Bool.false_ne_true)]

/-- Switching markers off leaves the text as it is. -/
theorem written_literal (pieces : List Piece) : written (literal features pieces) = written pieces := by
  induction pieces with
  | nil => rfl
  | cons piece pieces ih =>
    cases piece with
    | text s => rw [literal_text, written_prepend, ih, written_cons, Piece.chars]
    | token t =>
      cases ignored : features.ignores t.marker with
      | true => rw [literal_ignored ignored, written_prepend, ih, written_cons, Piece.chars]
      | false => rw [literal_kept ignored, written_cons, ih, written_cons]

theorem extent_literal (pieces : List Piece) : extent (literal features pieces) = extent pieces := by
  rw [extent, written_literal, extent]

theorem markers_literal (pieces : List Piece) :
    markers (literal features pieces) = (markers pieces).filter fun m => !features.ignores m := by
  induction pieces with
  | nil => rfl
  | cons piece pieces ih =>
    cases piece with
    | text s => rw [literal_text, markers_prepend, ih]; rfl
    | token t =>
      cases ignored : features.ignores t.marker with
      | true =>
        rw [literal_ignored ignored, markers_prepend, ih, markers_token, List.filter_cons_of_neg (by simp [ignored])]
      | false =>
        rw [literal_kept ignored, markers_token, ih, markers_token, List.filter_cons_of_pos (by simp [ignored])]

/-- The markers that are kept, with their spellings. -/
theorem token_mem_literal {t : Token} {pieces : List Piece} :
    .token t ∈ literal features pieces ↔ .token t ∈ pieces ∧ features.ignores t.marker = false := by
  induction pieces with
  | nil => simp [literal]
  | cons piece pieces ih =>
    cases piece with
    | text s => rw [literal_text, token_mem_prepend, ih, List.mem_cons, or_iff_right (by nofun)]
    | token u =>
      cases ignored : features.ignores u.marker with
      | true =>
        have other (same : t = u) : features.ignores t.marker ≠ false := by simp [same, ignored]
        rw [literal_ignored ignored, token_mem_prepend, ih, List.mem_cons, Piece.token.injEq]
        tauto
      | false =>
        have kept (same : t = u) : features.ignores t.marker = false := by rw [same, ignored]
        rw [literal_kept ignored, List.mem_cons, ih, List.mem_cons, Piece.token.injEq]
        tauto

theorem prepend_append_token (s : List Char) (pieces : List Piece) (t : Token) (rest : List Piece) :
    Piece.prepend s (pieces ++ .token t :: rest) = Piece.prepend s pieces ++ .token t :: rest := by
  rcases pieces with _ | ⟨_ | _, _⟩ <;> rfl

/-- A marker that is kept divides the literal text before it from that after it. -/
theorem literal_append_kept {t : Token} (kept : features.ignores t.marker = false) (first rest : List Piece) :
    literal features (first ++ .token t :: rest) = literal features first ++ .token t :: literal features rest := by
  induction first with
  | nil => exact literal_kept kept rest
  | cons piece first ih =>
    cases piece with
    | text s => rw [List.cons_append, literal_text, ih, prepend_append_token, literal_text]
    | token u =>
      cases ignored : features.ignores u.marker with
      | true => rw [List.cons_append, literal_ignored ignored, ih, prepend_append_token, literal_ignored ignored]
      | false => rw [List.cons_append, literal_kept ignored, ih, literal_kept ignored, List.cons_append]

theorem settled_literal {pieces : List Piece} (filled : ∀ piece ∈ pieces, piece.chars ≠ []) :
    Settled (literal features pieces) := by
  induction pieces with
  | nil => exact ⟨List.not_mem_nil, .nil⟩
  | cons piece pieces ih =>
    obtain ⟨first, others⟩ := List.forall_mem_cons.mp filled
    cases piece with
    | text s => exact (ih others).prepend first
    | token t =>
      cases ignored : features.ignores t.marker with
      | true =>
        rw [literal_ignored ignored]
        exact (ih others).prepend first
      | false =>
        rw [literal_kept ignored]
        exact (ih others).token t

theorem chars_ne_nil_of_mem_scan {s : List Char} {piece : Piece} (member : piece ∈ scan s) : piece.chars ≠ [] := by
  cases piece with
  | text t =>
    rintro rfl
    exact (settled_scan s).filled member
  | token t =>
    obtain ⟨rest, start⟩ := (spells_of_mem_scan member).head
    rw [Piece.chars, start]
    exact List.cons_ne_nil _ _

end Literal

/-- Literal text that is read in two goes. -/
theorem appendText_appendText (s t : String) (nodes : List Node) :
    appendText t (appendText s nodes) = appendText (s ++ t) nodes := by
  by_cases first : s = ""
  · subst first
    simp [appendText]
  by_cases second : t = ""
  · subst second
    simp [appendText]
  cases nodes with
  | nil => simp [appendText, first, second]
  | cons node rest => cases node <;> simp [appendText, first, second, String.append_assoc]

theorem Progress.text_advance_text (p : Progress) (s t : List Char) :
    (((p.text (String.ofList s)).advance s.length).text (String.ofList t)).advance t.length =
      (p.text (String.ofList (s ++ t))).advance (s ++ t).length := by
  obtain ⟨position, outer, frames⟩ := p
  cases frames with
  | nil => simp [text, modify, advance, appendText_appendText, String.ofList_append, Nat.add_assoc]
  | cons frame frames => simp [text, modify, advance, appendText_appendText, String.ofList_append, Nat.add_assoc]

theorem foldlM_prepend (s : List Char) (pieces : List Piece) (p : Progress) :
    (Piece.prepend s pieces).foldlM (Progress.piece {}) p =
      pieces.foldlM (Progress.piece {}) ((p.text (String.ofList s)).advance s.length) := by
  unfold Piece.prepend
  split
  · rename_i t rest
    rw [List.foldlM_cons, List.foldlM_cons, Progress.piece_text, Progress.piece_text, Progress.text_advance_text]
  · rw [List.foldlM_cons, Progress.piece_text]
    rfl

/-- One run with markers switched off is the run on the pieces in which they are literal text. -/
theorem foldlM_literal (features : Features) (pieces : List Piece) (p : Progress) :
    pieces.foldlM (Progress.piece features) p = (literal features pieces).foldlM (Progress.piece {}) p := by
  induction pieces generalizing p with
  | nil => rfl
  | cons piece pieces ih =>
    rw [List.foldlM_cons]
    cases piece with
    | text s =>
      rw [literal_text, foldlM_prepend, ← ih]
      rfl
    | token t =>
      cases ignored : features.ignores t.marker with
      | true =>
        rw [literal_ignored ignored, foldlM_prepend, ← ih, String.ofList_toList, String.length_toList]
        simp only [Progress.piece, ignored, if_true]
        rfl
      | false =>
        have step : p.piece features (.token t) = p.piece {} (.token t) := by
          simp [Progress.piece, ignored]
        rw [literal_kept ignored, List.foldlM_cons, step]
        exact congrArg _ (funext ih)

/-- Features that ignore markers read them as literal text. -/
theorem ofPieces_literal (features : Features) (pieces : List Piece) :
    ofPieces features pieces = ofPieces {} (literal features pieces) := by
  rw [ofPieces_eq, foldlM_literal, ofPieces_eq]

theorem parse_literal (features : Features) (source : String) :
    parse features source = ofPieces {} (literal features (scan source.toList)) :=
  ofPieces_literal features _

theorem settled_literal_scan (features : Features) (s : List Char) : Settled (literal features (scan s)) :=
  settled_literal fun _ => chars_ne_nil_of_mem_scan

theorem parse_of_derives_literal {features : Features} {source : String} {nodes : List Node}
    (derives : Derives 0 (literal features (scan source.toList)) nodes) : parse features source = .ok nodes := by
  rw [parse_literal]
  exact ofPieces_of_derives derives (settled_literal_scan features _)

/-- Whatever is switched off, a text is read exactly if the markers left in force are balanced. -/
theorem parse_iff_balanced (features : Features) (source : String) :
    (∃ nodes, parse features source = .ok nodes) ↔
      Balanced ((markers (scan source.toList)).filter fun m => !features.ignores m) := by
  rw [← markers_literal]
  constructor
  · rintro ⟨nodes, read⟩
    rw [parse_literal] at read
    exact balanced_of_ofPieces read
  · intro balanced
    obtain ⟨nodes, derives⟩ := balanced.derivable _ rfl 0
    exact ⟨nodes, parse_of_derives_literal derives⟩

/-- Whether a marker opens, divides or closes a block. The others are variables and calls. -/
def Marker.isBracket : Marker → Bool
  | .slot _ | .call _ _ => false
  | _ => true

/-- Whether a marker opens or closes a region. -/
def Marker.isRegion : Marker → Bool
  | .regionOpen _ _ | .regionClose _ => true
  | _ => false

theorem Balanced.brackets {ms : List Marker} (balanced : Balanced ms) : Balanced (ms.filter Marker.isBracket) := by
  induction balanced with
  | nil => exact .nil
  | slot _ ih => exact ih
  | call _ ih => exact ih
  | conditional _ _ ih₁ ih₂ => simpa [List.filter_cons, Marker.isBracket] using Balanced.conditional ih₁ ih₂
  | choice _ _ _ ih₁ ih₂ ih₃ => simpa [List.filter_cons, Marker.isBracket] using Balanced.choice ih₁ ih₂ ih₃
  | loop differ _ _ ih₁ ih₂ => simpa [List.filter_cons, Marker.isBracket] using Balanced.loop differ ih₁ ih₂
  | region _ _ ih₁ ih₂ => simpa [List.filter_cons, Marker.isBracket] using Balanced.region ih₁ ih₂

theorem balanced_of_no_brackets {ms : List Marker} (none_ : ∀ m ∈ ms, ¬ m.isBracket = true) : Balanced ms := by
  induction ms with
  | nil => exact .nil
  | cons m ms ih =>
    obtain ⟨first, others⟩ := List.forall_mem_cons.mp none_
    cases m with
    | slot => exact .slot (ih others)
    | call => exact .call (ih others)
    | _ => exact absurd rfl first

/-- Markers can be taken apart where one of their brackets stands, with variables and calls before it on the left. -/
theorem filter_brackets_eq_append_cons {ms inside rest : List Marker} {m : Marker}
    (split : ms.filter Marker.isBracket = inside ++ m :: rest) :
    ∃ before after, ms = before ++ m :: after ∧ before.filter Marker.isBracket = inside ∧
      after.filter Marker.isBracket = rest := by
  obtain ⟨first, more, rfl, rfl, here⟩ := List.filter_eq_append_iff.mp split
  obtain ⟨leaves, after, rfl, none_, _, rfl⟩ := List.filter_eq_cons_iff.mp here
  refine ⟨first ++ leaves, after, by simp, ?_, rfl⟩
  rw [List.filter_append, List.filter_eq_nil_iff.mpr none_, List.append_nil]

theorem filter_brackets_eq_cons {ms rest : List Marker} {m : Marker} (split : ms.filter Marker.isBracket = m :: rest) :
    ∃ leaves after, ms = leaves ++ m :: after ∧ Balanced leaves ∧ after.filter Marker.isBracket = rest := by
  obtain ⟨leaves, after, whole, none_, same⟩ := filter_brackets_eq_append_cons (List.nil_append (m :: rest) ▸ split)
  exact ⟨leaves, after, whole, balanced_of_no_brackets (List.filter_eq_nil_iff.mp none_), same⟩

theorem Balanced.of_brackets {brackets : List Marker} (balanced : Balanced brackets) :
    ∀ ms, ms.filter Marker.isBracket = brackets → Balanced ms := by
  -- On the brackets, for all markers that have them: a block begins after variables and calls.
  induction balanced with
  | nil => exact fun ms none_ => balanced_of_no_brackets (List.filter_eq_nil_iff.mp none_)
  | @slot path _ _ _ =>
    intro ms split
    have member : .slot path ∈ ms.filter Marker.isBracket := by simp [split]
    cases (List.mem_filter.mp member).2
  | @call name arguments _ _ _ =>
    intro ms split
    have member : .call name arguments ∈ ms.filter Marker.isBracket := by simp [split]
    cases (List.mem_filter.mp member).2
  | conditional _ _ ihBody ihRest =>
    intro ms split
    obtain ⟨leaves, more, rfl, before, split⟩ := filter_brackets_eq_cons split
    obtain ⟨body, after, rfl, inside, rest⟩ := filter_brackets_eq_append_cons split
    exact before.append (.conditional (ihBody body inside) (ihRest after rest))
  | choice _ _ _ ihFirst ihSecond ihRest =>
    intro ms split
    simp only [List.cons_append, List.append_assoc] at split
    obtain ⟨leaves, more, rfl, before, split⟩ := filter_brackets_eq_cons split
    obtain ⟨first, more, rfl, inFirst, split⟩ := filter_brackets_eq_append_cons split
    obtain ⟨second, after, rfl, inSecond, rest⟩ := filter_brackets_eq_append_cons split
    refine before.append ?_
    simpa using Balanced.choice (ihFirst first inFirst) (ihSecond second inSecond) (ihRest after rest)
  | loop differ _ _ ihBody ihRest =>
    intro ms split
    obtain ⟨leaves, more, rfl, before, split⟩ := filter_brackets_eq_cons split
    obtain ⟨body, after, rfl, inside, rest⟩ := filter_brackets_eq_append_cons split
    exact before.append (.loop differ (ihBody body inside) (ihRest after rest))
  | region _ _ ihBody ihRest =>
    intro ms split
    obtain ⟨leaves, more, rfl, before, split⟩ := filter_brackets_eq_cons split
    obtain ⟨body, after, rfl, inside, rest⟩ := filter_brackets_eq_append_cons split
    exact before.append (.region (ihBody body inside) (ihRest after rest))

/-- Variables and calls may stand anywhere. -/
theorem balanced_brackets_iff {ms : List Marker} : Balanced (ms.filter Marker.isBracket) ↔ Balanced ms :=
  ⟨fun balanced => balanced.of_brackets ms rfl, Balanced.brackets⟩

/-- The features that leave neither conditionals nor loops in force. -/
def Features.plain : Features :=
  ⟨false, false⟩

/-- Text whose regions are all closed, whatever its other markers are. -/
def RegionsPaired (source : String) : Prop :=
  Balanced ((markers (scan source.toList)).filter Marker.isRegion)

/-- Without conditionals and loops a text is read exactly if its regions are all closed. -/
theorem parses_plain_iff {source : String} :
    (∃ nodes, parse .plain source = .ok nodes) ↔ RegionsPaired source := by
  have regions : ∀ m : Marker, (m.isBracket && !Features.plain.ignores m) = m.isRegion := fun m => by
    cases m <;> rfl
  rw [parse_iff_balanced, ← balanced_brackets_iff, List.filter_filter, RegionsPaired]
  simp only [regions]

instance (source : String) : Decidable (RegionsPaired source) :=
  decidable_of_iff ((parse .plain source).isOk = true) <| by
    rw [← parses_plain_iff]
    cases parse .plain source <;> simp [Except.isOk, Except.toBool]

end Stencil.Markup
