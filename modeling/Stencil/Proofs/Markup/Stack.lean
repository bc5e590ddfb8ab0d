import Stencil.Proofs.Markup.Run

/-!
The stack of open blocks.

`Stack` says which blocks a sequence of pieces leaves open. Every step of the reader keeps its stack of
frames such a stack (`Follows.step`), and so does every run (`Follows.runs`). Whatever is open can be closed,
so the markers of a run can always be completed.
-/

namespace Stencil.Markup

/-- A marker that opens a block. -/
inductive Opens : Marker → Opening → Prop
  | conditional {condition} : Opens (.ifOpen condition) (.conditional condition)
  | loop {array item} : item ≠ array → Opens (.eachOpen array item) (.loop array item)
  | region {kind name} : Opens (.regionOpen kind name) (.region kind name)

/-- The marker that opens a block. -/
def Opening.opener : Opening → Marker
  | .conditional condition => .ifOpen condition
  | .loop array item => .eachOpen array item
  | .region kind name => .regionOpen kind name

theorem Opens.eq_opener {marker : Marker} {opening : Opening} (opens : Opens marker opening) :
    marker = opening.opener := by
  cases opens <;> rfl

/-- The marker that closes a kind of block. -/
def BlockKind.closer : BlockKind → Marker
  | .conditional => .ifClose
  | .loop => .eachClose
  | .region kind => .regionClose kind

/-- Markers that a block which is still open can hold so far. Only a conditional can have passed its else
marker. -/
inductive Inside (opening : Opening) : Bool → List Marker → Prop
  | undivided {ms} : Balanced ms → Inside opening false ms
  | divided {condition first second} : opening = .conditional condition → Balanced first → Balanced second →
      Inside opening true (first ++ .ifElse :: second)

theorem Inside.append {opening : Opening} {turned : Bool} {ms more : List Marker}
    (inside : Inside opening turned ms) (balanced : Balanced more) : Inside opening turned (ms ++ more) := by
  cases inside with
  | undivided inside => exact .undivided (inside.append balanced)
  | divided kind first second =>
    rw [List.append_assoc, List.cons_append]
    exact .divided kind first (second.append balanced)

/-- A block whose closing marker has come is balanced. -/
theorem Inside.close {opener : Marker} {opening : Opening} {turned : Bool} {ms : List Marker}
    (opens : Opens opener opening) (inside : Inside opening turned ms) :
    Balanced (opener :: ms ++ [opening.kind.closer]) := by
  cases inside with
  | undivided inside =>
    cases opens with
    | conditional => exact .conditional inside .nil
    | loop differ => exact .loop differ inside .nil
    | region => exact .region inside .nil
  | divided kind first second =>
    subst kind
    cases opens
    simpa [Opening.kind, BlockKind.closer] using Balanced.choice first second .nil

/-- The open blocks that pieces leave behind, each with the offset of its opening marker. -/
inductive Stack : List Piece → List Frame → Prop
  | outer {pieces} : Balanced (markers pieces) → Stack pieces []
  | block {before opener body frame frames} : Stack before frames → Opens opener.marker frame.opening →
      frame.start = extent before → Inside frame.opening frame.accepted.isSome (markers body) →
      Stack (before ++ .token opener :: body) (frame :: frames)

theorem Stack.append {pieces more : List Piece} {frames : List Frame} (stack : Stack pieces frames)
    (balanced : Balanced (markers more)) : Stack (pieces ++ more) frames := by
  cases stack with
  | outer old =>
    refine .outer ?_
    rw [markers_append]
    exact old.append balanced
  | block below opens place inside =>
    rw [List.append_assoc, List.cons_append]
    refine .block below opens place ?_
    rw [markers_append]
    exact inside.append balanced

/-- The nodes that are collected in the innermost block make no difference. -/
theorem Stack.modify {pieces : List Piece} {p : Progress} (stack : Stack pieces p.frames)
    (change : List Node → List Node) : Stack pieces (p.modify change).frames := by
  obtain ⟨position, outer, frames⟩ := p
  cases stack with
  | outer balanced => exact .outer balanced
  | block below opens place inside => exact .block below opens place inside

theorem Stack.close {pieces : List Piece} {frame : Frame} {frames : List Frame} {closer : Token}
    (stack : Stack pieces (frame :: frames)) (fits : closer.marker = frame.opening.kind.closer) :
    Stack (pieces ++ [.token closer]) frames := by
  cases stack with
  | @block before opener body _ _ below opens place inside =>
    rw [List.append_assoc]
    refine below.append ?_
    simp only [markers_append, markers_token, markers_nil, List.cons_append, fits]
    exact inside.close opens

theorem Stack.balanced {pieces : List Piece} (stack : Stack pieces []) : Balanced (markers pieces) := by
  cases stack with
  | outer balanced => exact balanced

/-- Whatever is open can still be closed. -/
theorem Stack.viable {pieces : List Piece} {frames : List Frame} (stack : Stack pieces frames) :
    Viable (markers pieces) := by
  -- On the open blocks, for all pieces: closing the innermost one leaves fewer open.
  induction frames generalizing pieces with
  | nil => exact ⟨[], by simpa using stack.balanced⟩
  | cons frame frames ih =>
    have closed : Stack (pieces ++ [.token ⟨frame.opening.kind.closer, ""⟩]) frames := stack.close rfl
    obtain ⟨more, balanced⟩ := ih closed
    exact ⟨frame.opening.kind.closer :: more, by simpa using balanced⟩

/-- What a state of the reader has to do with the pieces read so far. -/
structure Follows (p : Progress) (read : List Piece) : Prop where
  stack : Stack read p.frames
  position : p.position = extent read

theorem Progress.modify_position (p : Progress) (change : List Node → List Node) :
    (p.modify change).position = p.position := by
  obtain ⟨position, outer, frames⟩ := p
  cases frames <;> rfl

theorem Follows.advance {p q : Progress} {read : List Piece} (follows : Follows p read) (piece : Piece)
    (same : q.position = p.position) (stack : Stack (read ++ [piece]) q.frames) :
    Follows (q.advance piece.length) (read ++ [piece]) := by
  refine ⟨stack, ?_⟩
  rw [extent_append, extent_singleton, ← follows.position, ← same]
  rfl

theorem Follows.modify {p : Progress} {read : List Piece} (follows : Follows p read) (piece : Piece)
    (leaf : Balanced (markers [piece])) (change : List Node → List Node) :
    Follows ((p.modify change).advance piece.length) (read ++ [piece]) :=
  follows.advance piece (p.modify_position change) ((follows.stack.modify change).append leaf)

theorem Follows.enter {p : Progress} {read : List Piece} {t : Token} {opening : Opening} (follows : Follows p read)
    (opens : Opens t.marker opening) (length : Nat) :
    Follows ((p.enter opening length).advance t.spelling.length) (read ++ [.token t]) :=
  follows.advance (.token t) rfl (.block follows.stack opens follows.position (.undivided .nil))

theorem Follows.leave {p q : Progress} {read : List Piece} {t : Token} {kind : BlockKind} (follows : Follows p read)
    (fits : t.marker = kind.closer) (step : p.leave kind t.spelling.length = .ok q) :
    Follows (q.advance t.spelling.length) (read ++ [.token t]) := by
  obtain ⟨position, outer, frames⟩ := p
  cases frames with
  | nil => simp [Progress.leave] at step
  | cons frame frames =>
    simp only [Progress.leave] at step
    split at step
    · rename_i same
      cases step
      have stack : Stack (read ++ [.token t]) (Progress.mk position outer frames).frames :=
        follows.stack.close (fits.trans (by rw [beq_iff_eq.mp same]))
      exact follows.advance (.token t) (Progress.modify_position _ _) (stack.modify _)
    · cases step

theorem Follows.turn {p q : Progress} {read : List Piece} {t : Token} (follows : Follows p read)
    (fits : t.marker = .ifElse) (step : p.turn = .ok q) :
    Follows (q.advance t.spelling.length) (read ++ [.token t]) := by
  unfold Progress.turn at step
  split at step
  · rename_i condition start bodyStart nodes frames found
    cases step
    refine follows.advance (.token t) rfl ?_
    have stack := follows.stack
    rw [found] at stack
    cases stack with
    | @block before opener body _ _ below opens place inside =>
      -- The frame found has no accepted branch yet, so no else marker has divided what is inside.
      cases inside with
      | undivided inside =>
        rw [List.append_assoc, List.cons_append]
        refine .block below opens place ?_
        simp only [markers_append, markers_token, markers_nil, fits]
        exact .divided rfl inside .nil
  · cases step

/-- One step of the reader keeps its stack in step with the pieces. -/
theorem Follows.step {p q : Progress} {read : List Piece} {piece : Piece} (follows : Follows p read)
    (step : p.piece {} piece = .ok q) : Follows q (read ++ [piece]) := by
  cases piece with
  | text s =>
    cases step
    exact follows.modify (.text s) .nil _
  | token t =>
    rw [Progress.piece_token] at step
    obtain ⟨marker, spelling⟩ := t
    cases read : p.token ⟨marker, spelling⟩ with
    | error e => rw [read] at step; cases step
    | ok next =>
      rw [read] at step
      cases step
      cases marker with
      | ifOpen condition =>
        cases read
        exact follows.enter (t := ⟨.ifOpen condition, spelling⟩) .conditional _
      | ifElse => exact follows.turn rfl read
      | ifClose => exact follows.leave rfl read
      | eachOpen array item =>
        simp only [Progress.token] at read
        split at read
        · cases read
        · rename_i differ
          cases read
          exact follows.enter (t := ⟨.eachOpen array item, spelling⟩)
            (.loop fun same => differ (beq_iff_eq.mpr same)) _
      | eachClose => exact follows.leave rfl read
      | regionOpen kind name =>
        cases read
        exact follows.enter (t := ⟨.regionOpen kind name, spelling⟩) .region _
      | regionClose kind => exact follows.leave rfl read
      | call name arguments =>
        cases read
        exact follows.modify (.token ⟨.call name arguments, spelling⟩) (.call .nil) _
      | slot path =>
        cases read
        exact follows.modify (.token ⟨.slot path, spelling⟩) (.slot .nil) _

theorem Follows.runs {p q : Progress} {read pieces : List Piece} (follows : Follows p read)
    (runs : Runs p pieces q) : Follows q (read ++ pieces) := by
  induction pieces generalizing p read with
  | nil =>
    cases runs
    rwa [List.append_nil]
  | cons piece pieces ih =>
    obtain ⟨next, step, more⟩ := runs_cons_iff.mp runs
    rw [List.append_cons]
    exact ih (follows.step step) more

end Stencil.Markup
