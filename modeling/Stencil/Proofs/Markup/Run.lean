import Stencil.Markup.Parse
import Stencil.Proofs.Markup.Grammar

/-!
Runs of the reader on pieces.

A derivation is a run: from any state, reading the pieces of a derivation adds its nodes to the innermost
open block and changes nothing else (`Derives.runs`).
-/

namespace Stencil.Markup

/-- Reading pieces leads from one state of the reader to another. -/
def Runs (p : Progress) (pieces : List Piece) (q : Progress) : Prop :=
  pieces.foldlM (Progress.piece {}) p = .ok q

theorem Runs.nil (p : Progress) : Runs p [] p := rfl

theorem runs_cons_iff {p r : Progress} {piece : Piece} {pieces : List Piece} :
    Runs p (piece :: pieces) r ↔ ∃ q, p.piece {} piece = .ok q ∧ Runs q pieces r := by
  simp only [Runs, List.foldlM_cons]
  cases p.piece {} piece with
  | error e => simp [bind, Except.bind]
  | ok q => simp [bind, Except.bind]

theorem Runs.cons {p q r : Progress} {piece : Piece} {pieces : List Piece}
    (step : p.piece {} piece = .ok q) (runs : Runs q pieces r) : Runs p (piece :: pieces) r :=
  runs_cons_iff.mpr ⟨q, step, runs⟩

theorem runs_append_iff {p r : Progress} {first second : List Piece} :
    Runs p (first ++ second) r ↔ ∃ q, Runs p first q ∧ Runs q second r := by
  simp only [Runs, List.foldlM_append]
  cases first.foldlM (Progress.piece {}) p with
  | error e => simp [bind, Except.bind]
  | ok q => simp [bind, Except.bind]

theorem Runs.append {p q r : Progress} {first second : List Piece} (start : Runs p first q)
    (more : Runs q second r) : Runs p (first ++ second) r :=
  runs_append_iff.mpr ⟨q, start, more⟩

/-- The nodes of the innermost block, latest first. -/
def Progress.inner (p : Progress) : List Node :=
  match p.frames with
  | [] => p.outer
  | frame :: _ => frame.nodes

/-- The state in which nodes have been added to the innermost block and text of a length has been passed. -/
def Progress.extend (p : Progress) (nodes : List Node) (length : Nat) : Progress :=
  (p.modify (nodes.reverse ++ ·)).advance length

theorem Progress.extend_nil (p : Progress) : p.extend [] 0 = p := by
  obtain ⟨position, outer, frames⟩ := p
  cases frames <;> rfl

theorem Progress.extend_extend (p : Progress) (first second : List Node) (m n : Nat) :
    (p.extend first m).extend second n = p.extend (first ++ second) (m + n) := by
  obtain ⟨position, outer, frames⟩ := p
  cases frames <;> simp [extend, modify, advance, Nat.add_assoc]

theorem Progress.extend_position (p : Progress) (nodes : List Node) (length : Nat) :
    (p.extend nodes length).position = p.position + length := by
  obtain ⟨position, outer, frames⟩ := p
  cases frames <;> rfl

theorem Progress.extend_inner (p : Progress) (nodes : List Node) (length : Nat) :
    (p.extend nodes length).inner = nodes.reverse ++ p.inner := by
  obtain ⟨position, outer, frames⟩ := p
  cases frames <;> rfl

/-- Literal text at the start of pieces would not be joined to literal text read before. -/
def Fresh (p : Progress) (pieces : List Piece) : Prop :=
  ∀ s, p.inner.head? = some (.text s) → ∀ t, pieces.head? ≠ some (.text t)

theorem fresh_of_inner_nil {p : Progress} (empty : p.inner = []) (pieces : List Piece) : Fresh p pieces := by
  intro s head
  simp [empty] at head

theorem fresh_extend {p : Progress} {node : Node} (notText : ∀ s, node ≠ .text s) (length : Nat)
    (pieces : List Piece) : Fresh (p.extend [node] length) pieces := by
  intro s head
  simp only [Progress.extend_inner, List.reverse_singleton, List.singleton_append, List.head?_cons,
    Option.some.injEq] at head
  exact absurd head (notText s)

theorem Settled.fresh {p : Progress} {s : List Char} {rest : List Piece} (settled : Settled (.text s :: rest)) :
    Fresh p rest :=
  fun _ _ _ next => settled.apart.rel_head? (Option.mem_def.mpr next)

@[simp] theorem ignores_default (marker : Marker) : Features.ignores {} marker = false := by
  cases marker <;> rfl

theorem Progress.piece_text (p : Progress) (s : List Char) :
    p.piece {} (.text s) = .ok ((p.text (String.ofList s)).advance s.length) := rfl

theorem Progress.piece_token (p : Progress) (t : Token) :
    p.piece {} (.token t) = (p.token t).map (·.advance t.spelling.length) := by
  simp only [Progress.piece, ignores_default, Bool.false_eq_true, if_false]
  cases p.token t <;> rfl

theorem Progress.text_eq_push {p : Progress} {s : List Char} {rest : List Piece} (nonempty : s ≠ [])
    (fresh : Fresh p (.text s :: rest)) : p.text (String.ofList s) = p.push (.text (String.ofList s)) := by
  have filled : (String.ofList s).isEmpty = false := by
    simpa using nonempty
  have notText : ∀ t more, p.inner ≠ .text t :: more := by
    intro t more same
    exact fresh t (by rw [same]; rfl) s rfl
  have same : appendText (String.ofList s) p.inner = .text (String.ofList s) :: p.inner := by
    unfold appendText
    rw [filled, if_neg Bool.false_ne_true]
    split
    · rename_i t more found
      exact absurd found (notText t more)
    · rfl
  obtain ⟨position, outer, frames⟩ := p
  cases frames with
  | nil => simpa [Progress.text, Progress.push, Progress.modify, Progress.inner] using same
  | cons frame frames => simpa [Progress.text, Progress.push, Progress.modify, Progress.inner] using same

/-- The state in which a block is open over another state and text of a length has been passed since. -/
def Progress.within (p : Progress) (frame : Frame) (length : Nat) : Progress :=
  { p with position := p.position + length, frames := frame :: p.frames }

theorem Progress.within_extend (p : Progress) (frame : Frame) (nodes : List Node) (m n : Nat) :
    (p.within frame m).extend nodes n = p.within { frame with nodes := nodes.reverse ++ frame.nodes } (m + n) := by
  simp [within, extend, modify, advance, Nat.add_assoc]

theorem Progress.within_turn (p : Progress) (condition : String) (start bodyStart m n : Nat) (nodes : List Node) :
    (p.within ⟨.conditional condition, start, bodyStart, none, nodes⟩ m).turn.map (·.advance n) =
      .ok (p.within ⟨.conditional condition, start, bodyStart, some nodes.reverse, []⟩ (m + n)) := by
  simp [within, turn, advance, Except.map, Nat.add_assoc]

theorem Progress.within_leave (p : Progress) (frame : Frame) (m n : Nat) :
    ((p.within frame m).leave frame.opening.kind n).map (·.advance n) =
      .ok (p.extend [frame.close (p.position + m) (p.position + m + n)] (m + n)) := by
  obtain ⟨position, outer, frames⟩ := p
  cases frames <;> simp [within, leave, push, extend, modify, advance, Except.map, Nat.add_assoc]

/-- The state that an opening marker leads to. -/
def Progress.opened (p : Progress) (opening : Opening) (opener : String) : Progress :=
  p.within ⟨opening, p.position, p.position + opener.length, none, []⟩ opener.length

theorem Progress.opened_position (p : Progress) (opening : Opening) (opener : String) :
    (p.opened opening opener).position = p.position + opener.length := rfl

theorem fresh_opened (p : Progress) (opening : Opening) (opener : String) (pieces : List Piece) :
    Fresh (p.opened opening opener) pieces :=
  fresh_of_inner_nil rfl pieces

/-- Pieces that are read as one node, and those after them. -/
theorem Runs.node {p : Progress} {unit rest : List Piece} {node : Node} {nodes : List Node}
    (first : Runs p unit (p.extend [node] (extent unit)))
    (more : Runs (p.extend [node] (extent unit)) rest ((p.extend [node] (extent unit)).extend nodes (extent rest))) :
    Runs p (unit ++ rest) (p.extend (node :: nodes) (extent (unit ++ rest))) := by
  rw [Progress.extend_extend, ← extent_append] at more
  exact first.append more

/-- Pieces that are read as one node other than text, and those after them, which are read wherever they start. -/
theorem Runs.unit {p : Progress} {next : Nat} {unit rest : List Piece} {node : Node} {nodes : List Node}
    (first : Runs p unit (p.extend [node] (extent unit))) (notText : ∀ s, node ≠ .text s)
    (place : p.position + extent unit = next)
    (more : ∀ {q : Progress}, q.position = next → Fresh q rest → Runs q rest (q.extend nodes (extent rest))) :
    Runs p (unit ++ rest) (p.extend (node :: nodes) (extent (unit ++ rest))) :=
  first.node (more (by rw [Progress.extend_position, place]) (fresh_extend notText _ _))

theorem Runs.single {p q : Progress} {piece : Piece} (step : p.piece {} piece = .ok q) : Runs p [piece] q :=
  .cons step (.nil q)

/-- A token that is a node by itself. -/
theorem Runs.leaf {p : Progress} {t : Token} {node : Node} (step : p.token t = .ok (p.push node)) :
    Runs p [.token t] (p.extend [node] (extent [.token t])) := by
  refine .single ?_
  rw [Progress.piece_token, step, extent_singleton]
  rfl

/-- A block is read as one node, whatever its inside is read as. -/
theorem Runs.block {p : Progress} {opening : Opening} {opener closer : Token} {inside : List Piece}
    {nodes : List Node} {node : Node} (enter : p.token opener = .ok (p.enter opening opener.spelling.length))
    (body : Runs (p.opened opening opener.spelling) inside
      ((p.opened opening opener.spelling).extend nodes (extent inside)))
    (leave : ∀ q : Progress, q.token closer = q.leave opening.kind closer.spelling.length)
    (close : node = Frame.close ⟨opening, p.position, p.position + opener.spelling.length, none, nodes.reverse⟩
      (p.position + opener.spelling.length + extent inside)
      (p.position + opener.spelling.length + extent inside + closer.spelling.length)) :
    Runs p (.token opener :: inside ++ [.token closer])
      (p.extend [node] (extent (.token opener :: inside ++ [.token closer]))) := by
  have entered : p.piece {} (.token opener) = .ok (p.opened opening opener.spelling) := by
    rw [Progress.piece_token, enter]
    rfl
  refine (Runs.cons entered body).append (.single ?_)
  have closed := p.within_leave ⟨opening, p.position, p.position + opener.spelling.length, none, nodes.reverse⟩
    (opener.spelling.length + extent inside) closer.spelling.length
  rw [Progress.piece_token, leave, Progress.opened, Progress.within_extend, close]
  simpa [Piece.length, Nat.add_assoc] using closed

/-- A conditional with both branches is read as one node. -/
theorem Runs.choice {p : Progress} {condition opener turn closer : String} {first second : List Piece}
    {accepted rejected : List Node}
    (body : Runs (p.opened (.conditional condition) opener) first
      ((p.opened (.conditional condition) opener).extend accepted (extent first)))
    (other : ∀ q : Progress, q.position = p.position + opener.length + extent first + turn.length → q.inner = [] →
      Runs q second (q.extend rejected (extent second))) :
    Runs p (.token ⟨.ifOpen condition, opener⟩ :: first ++ .token ⟨.ifElse, turn⟩ :: second ++
        [.token ⟨.ifClose, closer⟩])
      (p.extend [.conditional condition accepted rejected]
        (extent (.token ⟨.ifOpen condition, opener⟩ :: first ++ .token ⟨.ifElse, turn⟩ :: second ++
          [.token ⟨.ifClose, closer⟩]))) := by
  let bodyStart := p.position + opener.length
  let between := opener.length + extent first + turn.length
  let frame : Frame := ⟨.conditional condition, p.position, bodyStart, some accepted, []⟩
  have entered : p.piece {} (.token ⟨.ifOpen condition, opener⟩) = .ok (p.opened (.conditional condition) opener) := by
    rw [Progress.piece_token]
    rfl
  have turned : ((p.opened (.conditional condition) opener).extend accepted (extent first)).piece {}
      (.token ⟨.ifElse, turn⟩) = .ok (p.within frame between) := by
    have turned := p.within_turn condition p.position bodyStart (opener.length + extent first) turn.length
      accepted.reverse
    rw [List.reverse_reverse] at turned
    rw [Progress.piece_token, Progress.opened, Progress.within_extend, List.append_nil]
    exact turned
  have closed : ((p.within frame between).extend rejected (extent second)).piece {} (.token ⟨.ifClose, closer⟩) =
      .ok (p.extend [.conditional condition accepted rejected] (between + extent second + closer.length)) := by
    have closed := p.within_leave { frame with nodes := rejected.reverse } (between + extent second) closer.length
    simp only [Frame.close, frame, List.reverse_reverse] at closed
    rw [Progress.piece_token, Progress.within_extend, List.append_nil]
    exact closed
  have rest := other (p.within frame between) (by simp [Progress.within, between, Nat.add_assoc]) rfl
  have whole := ((Runs.cons entered body).append (.cons turned rest)).append (.single closed)
  have length : extent (.token ⟨.ifOpen condition, opener⟩ :: first ++ .token ⟨.ifElse, turn⟩ :: second ++
      [.token ⟨.ifClose, closer⟩]) = between + extent second + closer.length := by
    simp [between, Piece.length, Nat.add_assoc]
  rw [length]
  exact whole

/-- A derivation is a run of the reader: the nodes it gives are added to the innermost block. -/
theorem Derives.runs {start : Nat} {pieces : List Piece} {nodes : List Node}
    (derives : Derives start pieces nodes) {p : Progress} (settled : Settled pieces)
    (here : p.position = start) (fresh : Fresh p pieces) : Runs p pieces (p.extend nodes (extent pieces)) := by
  -- On the derivation, for all states: the inside of a block is read from the state in which it is open.
  induction derives generalizing p with
  | nil =>
    rw [extent_nil, Progress.extend_nil]
    exact .nil p
  | @text start s rest nodes _ ih =>
    have nonempty : s ≠ [] := by
      rintro rfl
      exact settled.filled (List.mem_cons_self ..)
    have step : Runs p [.text s] (p.extend [.text (String.ofList s)] (extent [.text s])) := by
      refine .single ?_
      rw [Progress.piece_text, Progress.text_eq_push nonempty fresh, extent_singleton]
      rfl
    exact step.node (ih settled.tail (by simp [Progress.extend_position, here, Piece.length]) settled.fresh)
  | @slot start path spelling rest nodes _ ih =>
    have step : Runs p [.token ⟨.slot path, spelling⟩] _ := .leaf rfl
    exact step.unit (fun _ => Node.noConfusion) (by simp [here, Piece.length]) (ih settled.tail)
  | @call start name arguments spelling rest nodes _ ih =>
    have step : Runs p [.token ⟨.call name arguments, spelling⟩] _ := .leaf rfl
    exact step.unit (fun _ => Node.noConfusion) (by simp [here, Piece.length]) (ih settled.tail)
  | @conditional start condition opener closer inside rest accepted nodes _ _ ihBody ihRest =>
    have body := ihBody settled.left.tail (by rw [Progress.opened_position, here])
      (fresh_opened p (.conditional condition) opener inside)
    have block : Runs p (.token ⟨.ifOpen condition, opener⟩ :: inside ++ [.token ⟨.ifClose, closer⟩])
        (p.extend [.conditional condition accepted []] _) :=
      .block rfl body (fun _ => rfl) (by simp [Frame.close])
    rw [List.append_cons]
    exact block.unit (fun _ => Node.noConfusion) (by simp [here, Piece.length, Nat.add_assoc])
      (ihRest settled.right.tail)
  | @choice start condition opener turn closer first second rest accepted rejected nodes _ _ _ ih₁ ih₂ ih₃ =>
    have body := ih₁ settled.left.left.tail (by rw [Progress.opened_position, here])
      (fresh_opened p (.conditional condition) opener first)
    have block : Runs p (.token ⟨.ifOpen condition, opener⟩ :: first ++ .token ⟨.ifElse, turn⟩ :: second ++
        [.token ⟨.ifClose, closer⟩]) (p.extend [.conditional condition accepted rejected] _) :=
      .choice body fun q place empty => ih₂ settled.left.right.tail (by rw [place, here])
        (fresh_of_inner_nil empty second)
    rw [List.append_cons]
    exact block.unit (fun _ => Node.noConfusion) (by simp [here, Piece.length, Nat.add_assoc])
      (ih₃ settled.right.tail)
  | @loop start array item opener closer inside rest body nodes differ _ _ ihBody ihRest =>
    have inner := ihBody settled.left.tail (by rw [Progress.opened_position, here])
      (fresh_opened p (.loop array item) opener inside)
    have enter : p.token ⟨.eachOpen array item, opener⟩ = .ok (p.enter (.loop array item) opener.length) := by
      simp [Progress.token, differ]
    have block : Runs p (.token ⟨.eachOpen array item, opener⟩ :: inside ++ [.token ⟨.eachClose, closer⟩])
        (p.extend [.loop array item body] _) :=
      .block enter inner (fun _ => rfl) (by simp [Frame.close])
    rw [List.append_cons]
    exact block.unit (fun _ => Node.noConfusion) (by simp [here, Piece.length, Nat.add_assoc])
      (ihRest settled.right.tail)
  | @region start kind name opener closer inside rest body nodes _ _ ihBody ihRest =>
    have inner := ihBody settled.left.tail (by rw [Progress.opened_position, here])
      (fresh_opened p (.region kind name) opener inside)
    have block : Runs p (.token ⟨.regionOpen kind name, opener⟩ :: inside ++ [.token ⟨.regionClose kind, closer⟩])
        (p.extend [.region kind name ⟨start, start + opener.length, start + opener.length + extent inside,
          start + opener.length + extent inside + closer.length⟩ body] _) :=
      .block rfl inner (fun _ => rfl) (by simp [Frame.close, here])
    rw [List.append_cons]
    exact block.unit (fun _ => Node.noConfusion) (by simp [here, Piece.length, Nat.add_assoc])
      (ihRest settled.right.tail)

end Stencil.Markup
