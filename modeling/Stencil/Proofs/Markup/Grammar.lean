import Stencil.Markup.Argument
import Stencil.Markup.Node
import Stencil.Proofs.Markup.Scan

/-!
The grammar of template text.

`Balanced` says which sequences of markers close their blocks, `Derives` which nodes the pieces of a text
stand for. Neither mentions a stack. Pieces derive nodes as soon as the markers among them are balanced.
-/

namespace Stencil.Markup

/-- The markers among pieces. -/
def markers (pieces : List Piece) : List Marker :=
  pieces.filterMap fun
    | .text _ => none
    | .token t => some t.marker

@[simp] theorem markers_nil : markers [] = [] := rfl

@[simp] theorem markers_token (t : Token) (pieces : List Piece) :
    markers (.token t :: pieces) = t.marker :: markers pieces := rfl

@[simp] theorem markers_append (first second : List Piece) :
    markers (first ++ second) = markers first ++ markers second :=
  List.filterMap_append

theorem markers_map_token (tokens : List Token) : markers (tokens.map .token) = tokens.map Token.marker := by
  induction tokens with
  | nil => rfl
  | cons t tokens ih => rw [List.map_cons, markers_token, ih, List.map_cons]

/-- Markers whose blocks are all closed: variables, calls and blocks one after another. A conditional may
have one else marker, and the item of a loop may not have the name of its array. -/
inductive Balanced : List Marker → Prop
  | nil : Balanced []
  | slot {path rest} : Balanced rest → Balanced (.slot path :: rest)
  | call {name arguments rest} : Balanced rest → Balanced (.call name arguments :: rest)
  | conditional {condition accepted rest} : Balanced accepted → Balanced rest →
      Balanced (.ifOpen condition :: accepted ++ .ifClose :: rest)
  | choice {condition accepted rejected rest} : Balanced accepted → Balanced rejected → Balanced rest →
      Balanced (.ifOpen condition :: accepted ++ .ifElse :: rejected ++ .ifClose :: rest)
  | loop {array item body rest} : item ≠ array → Balanced body → Balanced rest →
      Balanced (.eachOpen array item :: body ++ .eachClose :: rest)
  | region {kind name body rest} : Balanced body → Balanced rest →
      Balanced (.regionOpen kind name :: body ++ .regionClose kind :: rest)

/-- Markers that a balanced sequence can start with. -/
def Viable (ms : List Marker) : Prop :=
  ∃ more, Balanced (ms ++ more)

/-- The number of characters of pieces. -/
def extent (pieces : List Piece) : Nat :=
  (written pieces).length

@[simp] theorem extent_nil : extent [] = 0 := rfl

@[simp] theorem extent_cons (piece : Piece) (pieces : List Piece) :
    extent (piece :: pieces) = piece.length + extent pieces := by
  simp [extent, Piece.chars_length]

theorem extent_singleton (piece : Piece) : extent [piece] = piece.length := by
  simp

@[simp] theorem extent_append (first second : List Piece) :
    extent (first ++ second) = extent first + extent second := by
  simp [extent]

/-- The nodes that pieces stand for if the first of them lies at an offset. Blocks nest as the markers do,
and literal text between markers is a node of its own. -/
inductive Derives : Nat → List Piece → List Node → Prop
  | nil {start} : Derives start [] []
  | text {start s rest nodes} : Derives (start + s.length) rest nodes →
      Derives start (.text s :: rest) (.text (String.ofList s) :: nodes)
  | slot {start path spelling rest nodes} : Derives (start + spelling.length) rest nodes →
      Derives start (.token ⟨.slot path, spelling⟩ :: rest) (.slot path spelling :: nodes)
  | call {start name arguments spelling rest nodes} : Derives (start + spelling.length) rest nodes →
      Derives start (.token ⟨.call name arguments, spelling⟩ :: rest)
        (.call name (splitArguments arguments) spelling :: nodes)
  | conditional {start condition opener closer inside rest accepted nodes} :
      Derives (start + opener.length) inside accepted →
      Derives (start + opener.length + extent inside + closer.length) rest nodes →
      Derives start (.token ⟨.ifOpen condition, opener⟩ :: inside ++ .token ⟨.ifClose, closer⟩ :: rest)
        (.conditional condition accepted [] :: nodes)
  | choice {start condition opener turn closer first second rest accepted rejected nodes} :
      Derives (start + opener.length) first accepted →
      Derives (start + opener.length + extent first + turn.length) second rejected →
      Derives (start + opener.length + extent first + turn.length + extent second + closer.length) rest nodes →
      Derives start (.token ⟨.ifOpen condition, opener⟩ :: first ++ .token ⟨.ifElse, turn⟩ :: second ++
        .token ⟨.ifClose, closer⟩ :: rest) (.conditional condition accepted rejected :: nodes)
  | loop {start array item opener closer inside rest body nodes} : item ≠ array →
      Derives (start + opener.length) inside body →
      Derives (start + opener.length + extent inside + closer.length) rest nodes →
      Derives start (.token ⟨.eachOpen array item, opener⟩ :: inside ++ .token ⟨.eachClose, closer⟩ :: rest)
        (.loop array item body :: nodes)
  | region {start kind name opener closer inside rest body nodes} :
      Derives (start + opener.length) inside body →
      Derives (start + opener.length + extent inside + closer.length) rest nodes →
      Derives start (.token ⟨.regionOpen kind name, opener⟩ :: inside ++ .token ⟨.regionClose kind, closer⟩ :: rest)
        (.region kind name
          ⟨start, start + opener.length, start + opener.length + extent inside,
            start + opener.length + extent inside + closer.length⟩ body :: nodes)

/-- Pieces that derive nodes from whatever offset they start at. -/
def Derivable (pieces : List Piece) : Prop :=
  ∀ start, ∃ nodes, Derives start pieces nodes

theorem derivable_append_of_markers_nil {texts rest : List Piece} (silent : markers texts = [])
    (derivable : Derivable rest) : Derivable (texts ++ rest) := by
  induction texts with
  | nil => exact derivable
  | cons piece texts ih =>
    cases piece with
    | text s =>
      intro start
      obtain ⟨nodes, derives⟩ := ih silent (start + s.length)
      exact ⟨_, .text derives⟩
    | token t => simp at silent

/-- Pieces can be taken apart at a marker, with the literal text before it on the left. -/
theorem markers_eq_append_cons {pieces : List Piece} {m : Marker} {inside rest : List Marker}
    (split : markers pieces = inside ++ m :: rest) :
    ∃ body spelling after, pieces = body ++ .token ⟨m, spelling⟩ :: after ∧ markers body = inside ∧
      markers after = rest := by
  obtain ⟨body, more, rfl, inBody, split⟩ := List.filterMap_eq_append_iff.mp split
  obtain ⟨texts, piece, after, rfl, silent, here, rfl⟩ := List.filterMap_eq_cons_iff.mp split
  cases piece with
  | text s => cases here
  | token t =>
    cases here
    have quiet : markers texts = [] := List.filterMap_eq_nil_iff.mpr silent
    refine ⟨body ++ texts, t.spelling, after, by simp, ?_, rfl⟩
    rw [markers_append, quiet, List.append_nil]
    exact inBody

theorem markers_eq_cons {pieces : List Piece} {m : Marker} {rest : List Marker} (split : markers pieces = m :: rest) :
    ∃ texts spelling after, pieces = texts ++ .token ⟨m, spelling⟩ :: after ∧ markers texts = [] ∧
      markers after = rest :=
  markers_eq_append_cons (List.nil_append (m :: rest) ▸ split)

theorem Balanced.derivable {ms : List Marker} (balanced : Balanced ms) :
    ∀ pieces, markers pieces = ms → Derivable pieces := by
  induction balanced with
  | nil =>
    intro pieces silent
    rw [← List.append_nil pieces]
    exact derivable_append_of_markers_nil silent fun _ => ⟨[], .nil⟩
  | slot _ ih =>
    intro pieces split
    obtain ⟨texts, spelling, after, rfl, silent, rest⟩ := markers_eq_cons split
    refine derivable_append_of_markers_nil silent fun start => ?_
    obtain ⟨nodes, derives⟩ := ih after rest (start + spelling.length)
    exact ⟨_, .slot derives⟩
  | call _ ih =>
    intro pieces split
    obtain ⟨texts, spelling, after, rfl, silent, rest⟩ := markers_eq_cons split
    refine derivable_append_of_markers_nil silent fun start => ?_
    obtain ⟨nodes, derives⟩ := ih after rest (start + spelling.length)
    exact ⟨_, .call derives⟩
  | conditional _ _ ihBody ihRest =>
    intro pieces split
    obtain ⟨texts, o, more, rfl, silent, split⟩ := markers_eq_cons split
    obtain ⟨body, c, after, rfl, inside, rest⟩ := markers_eq_append_cons split
    refine derivable_append_of_markers_nil silent fun start => ?_
    obtain ⟨accepted, derives⟩ := ihBody body inside (start + o.length)
    obtain ⟨nodes, more⟩ := ihRest after rest (start + o.length + extent body + c.length)
    exact ⟨_, .conditional derives more⟩
  | choice _ _ _ ihFirst ihSecond ihRest =>
    intro pieces split
    simp only [List.cons_append, List.append_assoc] at split
    obtain ⟨texts, o, more, rfl, silent, split⟩ := markers_eq_cons split
    obtain ⟨first, t, more, rfl, inFirst, split⟩ := markers_eq_append_cons split
    obtain ⟨second, c, after, rfl, inSecond, rest⟩ := markers_eq_append_cons split
    refine derivable_append_of_markers_nil silent fun start => ?_
    obtain ⟨accepted, derives₁⟩ := ihFirst first inFirst (start + o.length)
    obtain ⟨rejected, derives₂⟩ := ihSecond second inSecond (start + o.length + extent first + t.length)
    obtain ⟨nodes, more⟩ := ihRest after rest
      (start + o.length + extent first + t.length + extent second + c.length)
    exact ⟨_, by simpa using Derives.choice derives₁ derives₂ more⟩
  | loop differ _ _ ihBody ihRest =>
    intro pieces split
    obtain ⟨texts, o, more, rfl, silent, split⟩ := markers_eq_cons split
    obtain ⟨body, c, after, rfl, inside, rest⟩ := markers_eq_append_cons split
    refine derivable_append_of_markers_nil silent fun start => ?_
    obtain ⟨nodes, derives⟩ := ihBody body inside (start + o.length)
    obtain ⟨_, more⟩ := ihRest after rest (start + o.length + extent body + c.length)
    exact ⟨_, .loop differ derives more⟩
  | region _ _ ihBody ihRest =>
    intro pieces split
    obtain ⟨texts, o, more, rfl, silent, split⟩ := markers_eq_cons split
    obtain ⟨body, c, after, rfl, inside, rest⟩ := markers_eq_append_cons split
    refine derivable_append_of_markers_nil silent fun start => ?_
    obtain ⟨nodes, derives⟩ := ihBody body inside (start + o.length)
    obtain ⟨_, more⟩ := ihRest after rest (start + o.length + extent body + c.length)
    exact ⟨_, .region derives more⟩

theorem Balanced.append {first second : List Marker} (balanced : Balanced first) (more : Balanced second) :
    Balanced (first ++ second) := by
  induction balanced with
  | nil => exact more
  | slot _ ih => exact .slot ih
  | call _ ih => exact .call ih
  | conditional body _ _ ih => simpa using Balanced.conditional body ih
  | choice accepted rejected _ _ _ ih => simpa using Balanced.choice accepted rejected ih
  | loop differ body _ _ ih => simpa using Balanced.loop differ body ih
  | region body _ _ ih => simpa using Balanced.region body ih

end Stencil.Markup
