import Stencil.Proofs.Markup.Stack

/-!
Which texts are read, and where the reader stops on the others.

The main statement, `parse_grammar`, is that the reader with its stack of frames accepts the texts whose
markers are balanced, gives the tree that their pieces derive, and otherwise blames the first marker that
no balanced text can go on from, or else the innermost block that is left open.
-/

namespace Stencil.Markup

theorem Progress.leave_error {p : Progress} {kind : BlockKind} {length : Nat} {e : MarkupError}
    (failed : p.leave kind length = .error e) : e.position = p.position := by
  obtain ⟨position, outer, frames⟩ := p
  cases frames with
  | nil => cases failed; rfl
  | cons frame frames =>
    simp only [Progress.leave] at failed
    split at failed <;> cases failed
    rfl

/-- A step can fail at a marker only, and that marker is blamed. -/
theorem Progress.piece_error {p : Progress} {piece : Piece} {e : MarkupError}
    (failed : p.piece {} piece = .error e) : e.position = p.position ∧ ∃ t, piece = .token t := by
  cases piece with
  | text s => cases failed
  | token t =>
    rw [piece_token] at failed
    obtain ⟨marker, spelling⟩ := t
    cases read : p.token ⟨marker, spelling⟩ with
    | ok next => rw [read] at failed; cases failed
    | error e' =>
      rw [read] at failed
      cases failed
      refine ⟨?_, _, rfl⟩
      cases marker with
      | ifElse =>
        simp only [token, turn] at read
        split at read <;> cases read
        rfl
      | eachOpen array item =>
        simp only [token] at read
        split at read <;> cases read
        rfl
      | ifClose => exact leave_error read
      | eachClose => exact leave_error read
      | regionClose kind => exact leave_error read
      | _ => cases read

theorem fails_at {p : Progress} {pieces : List Piece} {e : MarkupError}
    (failed : pieces.foldlM (Progress.piece {}) p = .error e) :
    ∃ read piece rest q, pieces = read ++ piece :: rest ∧ Runs p read q ∧ q.piece {} piece = .error e := by
  induction pieces generalizing p with
  | nil => cases failed
  | cons piece pieces ih =>
    rw [List.foldlM_cons] at failed
    cases step : p.piece {} piece with
    | error e' =>
      rw [step] at failed
      cases failed
      exact ⟨[], piece, pieces, p, rfl, .nil p, step⟩
    | ok next =>
      rw [step] at failed
      obtain ⟨read, last, rest, q, rfl, runs, stop⟩ := ih failed
      exact ⟨piece :: read, last, rest, q, rfl, .cons step runs, stop⟩

/-- The state before anything is read. -/
def Progress.begin : Progress :=
  ⟨0, [], []⟩

theorem Balanced.runs {pieces : List Piece} (balanced : Balanced (markers pieces)) (settled : Settled pieces) :
    ∃ nodes, Derives 0 pieces nodes ∧ Runs .begin pieces (Progress.begin.extend nodes (extent pieces)) := by
  obtain ⟨nodes, derives⟩ := balanced.derivable pieces rfl 0
  exact ⟨nodes, derives, derives.runs settled rfl (fresh_of_inner_nil rfl pieces)⟩

/-- A marker that the reader refuses cannot be gone on from. -/
theorem not_viable_of_error {p : Progress} {read : List Piece} {t : Token} {e : MarkupError}
    (runs : Runs .begin read p) (settled : Settled read) (failed : p.piece {} (.token t) = .error e) :
    ¬ Viable (markers read ++ [t.marker]) := by
  rintro ⟨more, balanced⟩
  -- A continuation would be balanced pieces with the refused marker in their midst.
  have whole : Balanced (markers (read ++ (t :: more.map (⟨·, ""⟩)).map Piece.token)) := by
    rw [markers_append, markers_map_token, List.map_cons, List.map_map]
    simpa [Function.comp_def] using balanced
  obtain ⟨nodes, _, all⟩ := whole.runs (settled.append_tokens _)
  obtain ⟨q, first, second⟩ := runs_append_iff.mp all
  obtain ⟨next, step, _⟩ := runs_cons_iff.mp second
  have same : p = q := Except.ok.inj (runs.symm.trans first)
  rw [← same, failed] at step
  cases step

/-- Markers after which just the block is open that a first marker opens. -/
def LeavesOpen (opener : Marker) (ms : List Marker) : Prop :=
  ∃ opening turned, Opens opener opening ∧ Inside opening turned ms

theorem Stack.innermost {pieces : List Piece} {frame : Frame} {frames : List Frame}
    (stack : Stack pieces (frame :: frames)) :
    ∃ before t after, pieces = before ++ .token t :: after ∧ frame.start = extent before ∧
      LeavesOpen t.marker (markers after) := by
  cases stack with
  | block _ opens place inside => exact ⟨_, _, _, rfl, place, _, _, opens, inside⟩

theorem ofPieces_eq (features : Features) (pieces : List Piece) :
    ofPieces features pieces = pieces.foldlM (Progress.piece features) .begin >>= Progress.finish := rfl

theorem follows_begin : Follows .begin [] :=
  ⟨.outer .nil, rfl⟩

/-- Settled pieces that derive nodes are read as those nodes. -/
theorem ofPieces_of_derives {pieces : List Piece} {nodes : List Node} (derives : Derives 0 pieces nodes)
    (settled : Settled pieces) : ofPieces {} pieces = .ok nodes := by
  have runs : Runs .begin pieces _ := derives.runs settled rfl (fresh_of_inner_nil rfl _)
  rw [ofPieces_eq, runs]
  simp [bind, Except.bind, Progress.finish, Progress.extend, Progress.modify, Progress.begin, Progress.advance]

theorem balanced_of_ofPieces {pieces : List Piece} {nodes : List Node} (read : ofPieces {} pieces = .ok nodes) :
    Balanced (markers pieces) := by
  rw [ofPieces_eq] at read
  cases run : pieces.foldlM (Progress.piece {}) .begin with
  | error e => rw [run] at read; cases read
  | ok p =>
    rw [run] at read
    have stack := (follows_begin.runs run).stack
    rw [List.nil_append] at stack
    obtain ⟨position, outer, frames⟩ := p
    cases frames with
    | nil => exact stack.balanced
    | cons frame frames => cases read

theorem parse_of_derives {source : String} {nodes : List Node} (derives : Derives 0 (scan source.toList) nodes) :
    parse {} source = .ok nodes :=
  ofPieces_of_derives derives (settled_scan source.toList)

theorem balanced_of_parse {source : String} {nodes : List Node} (read : parse {} source = .ok nodes) :
    Balanced (markers (scan source.toList)) :=
  balanced_of_ofPieces read

/-- The place that an error blames. -/
theorem parse_error_place {source : String} {e : MarkupError} (failed : parse {} source = .error e) :
    ∃ before t after, scan source.toList = before ++ .token t :: after ∧ e.position = extent before ∧
      (Viable (markers before) ∧ ¬ Viable (markers before ++ [t.marker]) ∨
        Viable (markers (scan source.toList)) ∧ LeavesOpen t.marker (markers after)) := by
  rw [parse, ofPieces_eq] at failed
  cases run : (scan source.toList).foldlM (Progress.piece {}) .begin with
  | error e' =>
    rw [run] at failed
    cases failed
    obtain ⟨before, piece, after, p, whole, runs, stop⟩ := fails_at run
    obtain ⟨place, t, rfl⟩ := Progress.piece_error stop
    have follows : Follows p before := follows_begin.runs runs
    have settled : Settled before := by
      have all := settled_scan source.toList
      rw [whole] at all
      exact all.left
    exact ⟨before, t, after, whole, place.trans follows.position,
      .inl ⟨follows.stack.viable, not_viable_of_error runs settled stop⟩⟩
  | ok p =>
    rw [run] at failed
    have stack := (follows_begin.runs run).stack
    rw [List.nil_append] at stack
    obtain ⟨position, outer, frames⟩ := p
    cases frames with
    | nil => cases failed
    | cons frame frames =>
      cases failed
      obtain ⟨before, t, after, whole, place, leaves⟩ := stack.innermost
      exact ⟨before, t, after, whole, place, .inr ⟨stack.viable, leaves⟩⟩

/-- Template text is read as a tree exactly if its markers are balanced, and the tree is the one that its
pieces derive. Otherwise the error lies at the first marker after which the markers read so far cannot be
completed, or, if they can be completed to the end, at the opening of the innermost block still open. -/
theorem parse_grammar (source : String) :
    written (scan source.toList) = source.toList ∧
    (∀ nodes, parse {} source = .ok nodes ↔ Derives 0 (scan source.toList) nodes) ∧
    ((∃ nodes, parse {} source = .ok nodes) ↔ Balanced (markers (scan source.toList))) ∧
    (¬ Balanced (markers (scan source.toList)) → ∃ e before t after, parse {} source = .error e ∧
      scan source.toList = before ++ .token t :: after ∧ e.position = extent before ∧
      (Viable (markers before) ∧ ¬ Viable (markers before ++ [t.marker]) ∨
        Viable (markers (scan source.toList)) ∧ LeavesOpen t.marker (markers after))) := by
  have derived (balanced : Balanced (markers (scan source.toList))) :
      ∃ nodes, Derives 0 (scan source.toList) nodes :=
    balanced.derivable _ rfl 0
  refine ⟨written_scan source.toList, fun nodes => ⟨fun read => ?_, parse_of_derives⟩, ⟨?_, ?_⟩, ?_⟩
  · obtain ⟨nodes', derives⟩ := derived (balanced_of_parse read)
    have same : nodes = nodes' := Except.ok.inj (read.symm.trans (parse_of_derives derives))
    rwa [same]
  · rintro ⟨nodes, read⟩
    exact balanced_of_parse read
  · intro balanced
    obtain ⟨nodes, derives⟩ := derived balanced
    exact ⟨nodes, parse_of_derives derives⟩
  · intro unbalanced
    cases read : parse {} source with
    | ok nodes => exact absurd (balanced_of_parse read) unbalanced
    | error e =>
      obtain ⟨before, t, after, place⟩ := parse_error_place read
      exact ⟨e, before, t, after, rfl, place⟩

end Stencil.Markup
