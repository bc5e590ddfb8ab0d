import Mathlib.Data.List.Chain
import Stencil.Proofs.Markup.Spelled

/-!
Cutting template text into pieces.

The pieces of a text are the text again, and no two stretches of literal text stand side by side
(`written_scan`, `settled_scan`). Conversely pieces in that form are what their text is cut into, as long
as no marker begins in literal text and markers have a written form (`scan_written_of_recognized`). This stays so when
pieces are cut off on both sides, so a part of a text means on its own what it means there (`scan_written_of_infix`).
-/

namespace Stencil.Markup

/-- The characters of a piece. -/
def Piece.chars : Piece → List Char
  | .text s => s
  | .token t => t.spelling.toList

/-- The text that pieces make up. -/
def written (pieces : List Piece) : List Char :=
  pieces.flatMap Piece.chars

@[simp] theorem written_nil : written [] = [] := rfl

@[simp] theorem written_cons (piece : Piece) (pieces : List Piece) :
    written (piece :: pieces) = piece.chars ++ written pieces := rfl

@[simp] theorem written_append (first second : List Piece) :
    written (first ++ second) = written first ++ written second :=
  List.flatMap_append

theorem Piece.chars_length (piece : Piece) : piece.chars.length = piece.length := by
  cases piece with
  | text s => rfl
  | token t => exact String.length_toList

/-- Whether two pieces may follow each other: literal text is never cut in two. -/
def Piece.Apart : Piece → Piece → Prop
  | .text _, .text _ => False
  | _, _ => True

theorem Piece.apart_token (piece : Piece) (t : Token) : piece.Apart (.token t) := by
  cases piece <;> trivial

/-- Pieces without empty or divided literal text. -/
structure Settled (pieces : List Piece) : Prop where
  filled : .text [] ∉ pieces
  apart : pieces.IsChain Piece.Apart

theorem Settled.tail {piece : Piece} {pieces : List Piece} (settled : Settled (piece :: pieces)) :
    Settled pieces :=
  ⟨fun member => settled.filled (List.mem_cons_of_mem _ member), settled.apart.tail⟩

theorem Settled.left {first second : List Piece} (settled : Settled (first ++ second)) : Settled first :=
  ⟨fun member => settled.filled (List.mem_append_left _ member), settled.apart.left_of_append⟩

theorem Settled.right {first second : List Piece} (settled : Settled (first ++ second)) : Settled second :=
  ⟨fun member => settled.filled (List.mem_append_right _ member), settled.apart.right_of_append⟩

theorem Settled.token {pieces : List Piece} (settled : Settled pieces) (t : Token) :
    Settled (.token t :: pieces) := by
  refine ⟨by simpa using settled.filled, settled.apart.cons ?_⟩
  intro next _
  cases next <;> trivial

theorem Settled.append_tokens {pieces : List Piece} (settled : Settled pieces) (tokens : List Token) :
    Settled (pieces ++ tokens.map .token) := by
  have alone : Settled (tokens.map Piece.token) := by
    induction tokens with
    | nil => exact ⟨List.not_mem_nil, .nil⟩
    | cons t tokens ih => exact ih.token t
  refine ⟨?_, settled.apart.append alone.apart ?_⟩
  · intro member
    rcases List.mem_append.mp member with inside | inside
    · exact settled.filled inside
    · exact alone.filled inside
  · intro last _ next member
    obtain ⟨t, _, rfl⟩ := List.mem_map.mp (List.mem_of_mem_head? member)
    exact last.apart_token t

@[simp] theorem scan_nil : scan [] = [] := by
  rw [scan.eq_def]

/-- Every written form starts with a brace. -/
theorem Spells.head {marker : Marker} {form : List Char} (spelled : Spells marker form) :
    ∃ rest, form = '{' :: rest := by
  cases spelled <;> exact ⟨_, rfl⟩

theorem scan_append_form {marker : Marker} {form : List Char} (spelled : Spells marker form) (rest : List Char) :
    scan (form ++ rest) = .token ⟨marker, String.ofList form⟩ :: scan rest := by
  have read := Marker.read?_append spelled rest
  obtain ⟨more, rfl⟩ := spelled.head
  rw [scan.eq_def]
  simp only [List.cons_append] at read ⊢
  rw [read]
  have shorter : rest.length < ('{' :: (more ++ rest)).length := by
    simp only [List.length_cons, List.length_append]
    omega
  have length : ('{' :: (more ++ rest)).length - rest.length = ('{' :: more).length := by
    simp only [List.length_cons, List.length_append]
    omega
  simp only [shorter, if_true, length]
  rw [← List.cons_append, List.take_left]

theorem scan_cons_of_none {c : Char} {s : List Char} (none_ : Marker.read? (c :: s) = none) :
    scan (c :: s) = Piece.cons c (scan s) := by
  rw [scan.eq_def]
  simp only [none_]

/-- A text is empty, starts with a written form of a marker, or starts with a character of literal text. -/
theorem scan_induction {motive : List Char → Prop} (nil : motive [])
    (form : ∀ marker form rest, Spells marker form → motive rest → motive (form ++ rest))
    (char : ∀ c s, Marker.read? (c :: s) = none → motive s → motive (c :: s)) (s : List Char) : motive s := by
  induction length : s.length using Nat.strongRecOn generalizing s with
  | ind n ih =>
    subst length
    cases s with
    | nil => exact nil
    | cons c s =>
      cases read : Marker.read? (c :: s) with
      | none => exact char c s read (ih _ (by simp) s rfl)
      | some result =>
        obtain ⟨spelling, spelled, whole⟩ := Marker.read?_sound read
        obtain ⟨more, start⟩ := spelled.head
        rw [whole]
        refine form _ _ _ spelled (ih _ ?_ _ rfl)
        rw [whole, start]
        simp only [List.cons_append, List.length_cons, List.length_append]
        omega

/-- Pieces with literal text before them, which is joined to literal text that they begin with. -/
def Piece.prepend (s : List Char) : List Piece → List Piece
  | .text t :: rest => .text (s ++ t) :: rest
  | pieces => .text s :: pieces

theorem cons_eq_prepend (c : Char) (pieces : List Piece) : Piece.cons c pieces = Piece.prepend [c] pieces := by
  rcases pieces with _ | ⟨_ | _, _⟩ <;> rfl

theorem cons_prepend (c : Char) (s : List Char) (pieces : List Piece) :
    Piece.cons c (Piece.prepend s pieces) = Piece.prepend (c :: s) pieces := by
  unfold Piece.prepend
  split <;> rfl

theorem written_prepend (s : List Char) (pieces : List Piece) :
    written (Piece.prepend s pieces) = s ++ written pieces := by
  unfold Piece.prepend
  split <;> simp [Piece.chars]

/-- Nothing of a text is lost when it is cut. -/
theorem written_scan (s : List Char) : written (scan s) = s := by
  induction s using scan_induction with
  | nil => rw [scan.eq_def, written_nil]
  | form marker form rest spelled ih =>
    rw [scan_append_form spelled, written_cons, ih, Piece.chars, String.toList_ofList]
  | char c s none_ ih => rw [scan_cons_of_none none_, cons_eq_prepend, written_prepend, ih, List.singleton_append]

theorem Settled.prepend {s : List Char} {pieces : List Piece} (settled : Settled pieces) (filled : s ≠ []) :
    Settled (Piece.prepend s pieces) := by
  unfold Piece.prepend
  split
  · rename_i t rest
    refine ⟨?_, settled.apart.tail.cons fun next head => ?_⟩
    · rw [List.mem_cons, not_or]
      exact ⟨fun same => filled (List.append_eq_nil_iff.mp (Piece.text.inj same).symm).1, settled.tail.filled⟩
    · have apart := settled.apart.rel_head? head
      cases next with
      | text => exact apart
      | token => trivial
  · rename_i notText
    refine ⟨?_, settled.apart.cons fun next head => ?_⟩
    · rw [List.mem_cons, not_or]
      exact ⟨fun same => filled (Piece.text.inj same).symm, settled.filled⟩
    · cases next with
      | text t =>
        obtain ⟨rest, rfl⟩ := List.head?_eq_some_iff.mp head
        exact absurd rfl (notText t rest)
      | token => trivial

theorem settled_scan (s : List Char) : Settled (scan s) := by
  induction s using scan_induction with
  | nil =>
    rw [scan.eq_def]
    exact ⟨List.not_mem_nil, .nil⟩
  | form marker form rest spelled ih =>
    rw [scan_append_form spelled]
    exact ih.token _
  | char c s none_ ih =>
    rw [scan_cons_of_none none_, cons_eq_prepend]
    exact ih.prepend (List.cons_ne_nil c [])

theorem token_mem_prepend {t : Token} {s : List Char} {pieces : List Piece} :
    .token t ∈ Piece.prepend s pieces ↔ .token t ∈ pieces := by
  unfold Piece.prepend
  split <;> simp

/-- Every token that a text is cut into is spelled as its marker demands. -/
theorem spells_of_mem_scan {s : List Char} {t : Token} (member : .token t ∈ scan s) :
    Spells t.marker t.spelling.toList := by
  induction s using scan_induction with
  | nil =>
    rw [scan.eq_def] at member
    cases member
  | form marker form rest spelled ih =>
    rw [scan_append_form spelled] at member
    rcases List.mem_cons.mp member with same | member
    · cases same
      rwa [String.toList_ofList]
    · exact ih member
  | char c s none_ ih =>
    rw [scan_cons_of_none none_, cons_eq_prepend, token_mem_prepend] at member
    exact ih member

theorem read?_eq_none_of_ne {c : Char} {s : List Char} (other : c ≠ '{') : Marker.read? (c :: s) = none := by
  cases read : Marker.read? (c :: s) with
  | none => rfl
  | some result =>
    obtain ⟨form, spelled, whole⟩ := Marker.read?_sound read
    obtain ⟨more, rfl⟩ := spelled.head
    exact absurd (List.cons.inj whole).1 other

/-- Literal text in which no marker begins, whatever comes after it. -/
def Inert (s : List Char) : Prop :=
  ∀ start, start <:+ s → start ≠ [] → ∀ rest, Marker.read? (start ++ rest) = none

theorem inert_of_free {s : List Char} (free : '{' ∉ s) : Inert s := by
  intro start ends nonempty rest
  obtain ⟨c, more, rfl⟩ := List.exists_cons_of_ne_nil nonempty
  refine read?_eq_none_of_ne fun same => free ?_
  rw [← same]
  exact ends.subset (List.mem_cons_self ..)

theorem Inert.tail {c : Char} {s : List Char} (inert : Inert (c :: s)) : Inert s :=
  fun start ends => inert start (ends.trans (List.suffix_cons c s))

theorem Inert.append {first second : List Char} (inert : Inert first) (more : Inert second) :
    Inert (first ++ second) := by
  induction first with
  | nil => exact more
  | cons c first ih =>
    intro start ends nonempty rest
    rcases List.suffix_cons_iff.mp ends with rfl | ends
    · have none_ := inert (c :: first) List.suffix_rfl nofun (second ++ rest)
      rwa [← List.append_assoc] at none_
    · exact ih inert.tail start ends nonempty rest

theorem prepend_of_apart {s : List Char} {pieces : List Piece}
    (apart : ∀ piece ∈ pieces.head?, Piece.Apart (.text s) piece) : Piece.prepend s pieces = .text s :: pieces := by
  unfold Piece.prepend
  split
  · exact absurd (apart _ rfl) id
  · rfl

/-- Literal text before a text: no marker begins in it. -/
def Silent (s rest : List Char) : Prop :=
  ∀ start, start <:+ s → start ≠ [] → Marker.read? (start ++ rest) = none

theorem Inert.silent {s : List Char} (inert : Inert s) (rest : List Char) : Silent s rest :=
  fun start ends nonempty => inert start ends nonempty rest

theorem Silent.tail {c : Char} {s rest : List Char} (silent : Silent (c :: s) rest) : Silent s rest :=
  fun start ends => silent start (ends.trans (List.suffix_cons c s))

/-- No marker comes to begin in literal text when the text behind it is cut off. -/
theorem Silent.shorten {s rest more : List Char} (silent : Silent s (rest ++ more)) : Silent s rest := by
  intro start ends nonempty
  cases read : Marker.read? (start ++ rest) with
  | none => rfl
  | some result =>
    obtain ⟨form, spelled, whole⟩ := Marker.read?_sound read
    have none_ := silent start ends nonempty
    rw [← List.append_assoc, whole, List.append_assoc, Marker.read?_append spelled] at none_
    cases none_

theorem scan_append_silent {text rest : List Char} (nonempty : text ≠ []) (silent : Silent text rest) :
    scan (text ++ rest) = Piece.prepend text (scan rest) := by
  induction text with
  | nil => exact absurd rfl nonempty
  | cons c text ih =>
    have none_ : Marker.read? (c :: (text ++ rest)) = none := silent (c :: text) List.suffix_rfl nofun
    rw [List.cons_append, scan_cons_of_none none_]
    by_cases last : text = []
    · subst last
      rw [List.nil_append, cons_eq_prepend]
    · rw [ih last silent.tail, cons_prepend]

/-- Inert text before a text is literal text. -/
theorem scan_append_text {text : List Char} (nonempty : text ≠ []) (inert : Inert text) (rest : List Char) :
    scan (text ++ rest) = Piece.prepend text (scan rest) :=
  scan_append_silent nonempty (inert.silent rest)

/-- Pieces that are recognized for what they are in the text that they make up. -/
inductive Recognized : List Piece → Prop
  | nil : Recognized []
  | text {s rest} : Silent s (written rest) → Recognized rest → Recognized (.text s :: rest)
  | token {t rest} : Spells t.marker t.spelling.toList → Recognized rest → Recognized (.token t :: rest)

theorem recognized_scan (s : List Char) : Recognized (scan s) := by
  induction s using scan_induction with
  | nil =>
    rw [scan_nil]
    exact .nil
  | form marker form rest spelled ih =>
    rw [scan_append_form spelled]
    exact .token (by rwa [String.toList_ofList]) ih
  | char c s none_ ih =>
    rw [scan_cons_of_none none_]
    have whole := written_scan s
    match scan s, ih, whole with
    | .text t :: pieces, .text silent later, whole =>
      refine .text (fun start ends nonempty => ?_) later
      rcases List.suffix_cons_iff.mp ends with rfl | ends
      · rwa [← whole] at none_
      · exact silent start ends nonempty
    | [], ih, whole | .token _ :: _, ih, whole =>
      refine .text (fun start ends nonempty => ?_) ih
      rcases List.suffix_cons_iff.mp ends with rfl | ends
      · rwa [← whole] at none_
      · exact absurd (List.suffix_nil.mp ends) nonempty

theorem Recognized.right {first second : List Piece} (recognized : Recognized (first ++ second)) : Recognized second := by
  induction first with
  | nil => exact recognized
  | cons piece first ih =>
    cases recognized with
    | text _ later | token _ later => exact ih later

theorem Recognized.left {first second : List Piece} (recognized : Recognized (first ++ second)) : Recognized first := by
  induction first with
  | nil => exact .nil
  | cons piece first ih =>
    rw [List.cons_append] at recognized
    cases recognized with
    | text silent later =>
      rw [written_append] at silent
      exact .text silent.shorten (ih later)
    | token spelled later => exact .token spelled (ih later)

/-- Pieces are what their text is cut into if they are recognized in it. -/
theorem scan_written_of_recognized {pieces : List Piece} (settled : Settled pieces) (recognized : Recognized pieces) :
    scan (written pieces) = pieces := by
  induction recognized with
  | nil => rw [written_nil, scan_nil]
  | @text s rest silent _ ih =>
    have nonempty : s ≠ [] := by
      rintro rfl
      exact settled.filled (List.mem_cons_self ..)
    rw [written_cons, Piece.chars, scan_append_silent nonempty silent, ih settled.tail]
    exact prepend_of_apart fun piece member => settled.apart.rel_head? member
  | token spelled _ ih =>
    rw [written_cons, Piece.chars, scan_append_form spelled, ih settled.tail, String.ofList_toList]

/-- Pieces that stand side by side in a text are what the text that they make up is cut into by itself. -/
theorem scan_written_of_infix {s : List Char} {pieces : List Piece} (within : pieces <:+: scan s) :
    scan (written pieces) = pieces := by
  obtain ⟨before, after, whole⟩ := within
  have settled := settled_scan s
  have recognized := recognized_scan s
  rw [← whole] at settled recognized
  exact scan_written_of_recognized settled.left.right recognized.left.right

/-- A piece that is recognized for what it is whatever comes after it. -/
def Piece.Firm : Piece → Prop
  | .text s => Inert s
  | .token t => Spells t.marker t.spelling.toList

theorem recognized_of_firm {pieces : List Piece} (firm : ∀ piece ∈ pieces, piece.Firm) : Recognized pieces := by
  induction pieces with
  | nil => exact .nil
  | cons piece pieces ih =>
    obtain ⟨first, others⟩ := List.forall_mem_cons.mp firm
    cases piece with
    | text s => exact .text (Inert.silent first _) (ih others)
    | token t => exact .token first (ih others)

/-- Pieces are what their text is cut into if each of them is firm. -/
theorem scan_written_of_firm {pieces : List Piece} (settled : Settled pieces) (firm : ∀ piece ∈ pieces, piece.Firm) :
    scan (written pieces) = pieces :=
  scan_written_of_recognized settled (recognized_of_firm firm)

/-- A piece that is recognized for what it is wherever it stands. -/
def Piece.Plain : Piece → Prop
  | .text s => '{' ∉ s
  | .token t => Spells t.marker t.spelling.toList

theorem Piece.Plain.firm {piece : Piece} (plain : piece.Plain) : piece.Firm := by
  cases piece with
  | text s => exact inert_of_free plain
  | token t => exact plain

theorem scan_written {pieces : List Piece} (settled : Settled pieces) (plain : ∀ piece ∈ pieces, piece.Plain) :
    scan (written pieces) = pieces :=
  scan_written_of_firm settled fun piece member => (plain piece member).firm

end Stencil.Markup
