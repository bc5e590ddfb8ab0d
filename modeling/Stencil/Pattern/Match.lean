import Stencil.Assoc
import Stencil.Pattern.Basic

/-!
Whether a text fits a pattern.

A matcher goes on from a place in a text and hands every place it can come to, in the order of
preference, to what is to follow, until that succeeds.
-/

namespace Stencil.Pattern

/-- A place in a text, and what the groups fitted on the way. -/
structure Place where
  /-- The characters before the place, the nearest first. -/
  before : List Char
  rest : List Char
  groups : Assoc Nat (List Char)

/-- A matcher: from a place, and what is to follow, to the place where everything ends. -/
abbrev Matcher := Place → (Place → Option Place) → Option Place

/-- The place one character back. -/
def Place.back? (p : Place) : Option Place :=
  match p.before with
  | [] => none
  | c :: before => some { p with before, rest := c :: p.rest }

/-- The place so many characters back. -/
def Place.goBack? : Nat → Place → Option Place
  | 0, p => some p
  | n + 1, p => p.back?.bind (goBack? n)

/-- Fits one character that satisfies a test. -/
def fitOne (test : Char → Bool) : Matcher := fun p next =>
  match p.rest with
  | c :: rest => if test c then next { p with before := c :: p.before, rest } else none
  | [] => none

/-- Fits given characters, up to a relation between them. -/
def fitText (same : Char → Char → Bool) : List Char → Matcher
  | [] => fun p next => next p
  | c :: rest => fun p next => fitOne (same c) p fun q => fitText same rest q next

/-- Repeats a matcher. After the least number of times, a repetition is only tried at a place where
the one before it was not, so that repetitions of nothing end. The first argument bounds the number of
repetitions. -/
def fitRepeated (body : Matcher) (lazy : Bool) :
    Nat → Nat → Option Nat → Option Nat → Matcher
  | 0, _, _, _ => fun _ _ => none
  | room + 1, least + 1, most, last => fun p next =>
    body p fun q => fitRepeated body lazy room least (most.map (· - 1)) last q next
  | room + 1, 0, most, last => fun p next =>
    let here := p.rest.length
    let again : Unit → Option Place := fun _ =>
      if most == some 0 || last == some here then none
      else body p fun q => fitRepeated body lazy room 0 (most.map (· - 1)) (some here) q next
    if lazy then next p <|> again () else again () <|> next p

/-- Repeats a matcher as often as possible, each time in the first way in which it fits. -/
def fitPossessively (body : Matcher) : Nat → Nat → Option Nat → Option Nat → Place → Option Place
  | 0, _, _, _, _ => none
  | room + 1, least + 1, most, last, p =>
    (body p some).bind (fitPossessively body room least (most.map (· - 1)) last)
  | room + 1, 0, most, last, p =>
    let here := p.rest.length
    if most == some 0 || last == some here then some p
    else match body p some with
      | some q => fitPossessively body room 0 (most.map (· - 1)) (some here) q
      | none => some p

/-- Whether the next character satisfies a test. -/
def nextIs (test : Char → Bool) (s : List Char) : Bool :=
  match s with
  | c :: _ => test c
  | [] => false

/-- Whether a place lies between a word character and something else. -/
def Place.atEdge (p : Place) (ascii : Bool) : Bool :=
  nextIs (CharKind.word.holds ascii) p.before != nextIs (CharKind.word.holds ascii) p.rest

/-- Whether the text of a place has no characters. -/
def Place.isVoid (p : Place) : Bool :=
  p.before.isEmpty && p.rest.isEmpty

/-- Whether an anchor holds at a place. An empty text has neither edges nor places that are none. -/
def Anchor.holds (anchor : Anchor) (p : Place) : Bool :=
  match anchor with
  | .start => p.before.isEmpty
  | .finish => p.rest.isEmpty
  | .lastLineEnd => p.rest.isEmpty || p.rest == ['\n']
  | .lineStart => p.before.isEmpty || nextIs (· == '\n') p.before
  | .lineEnd => p.rest.isEmpty || nextIs (· == '\n') p.rest
  | .edge ascii => !p.isVoid && p.atEdge ascii
  | .noEdge ascii => !p.isVoid && !p.atEdge ascii

/-- Goes on if a look around came out as it should; a look that fits also keeps its groups. -/
def afterLook (negated : Bool) (found : Option Place) (p : Place) (next : Place → Option Place) :
    Option Place :=
  match found with
  | some q => if negated then none else next { p with groups := q.groups }
  | none => if negated then next p else none

/-- The matcher of a pattern. -/
def matcher : Pattern → Matcher
  | .empty => fun p next => next p
  | .one set => fitOne set.holds
  | .both first second => fun p next => first.matcher p fun q => second.matcher q next
  | .either first second => fun p next => first.matcher p next <|> second.matcher p next
  | .repeated least most eagerness body => fun p next =>
    let room := least + p.rest.length + 2
    match eagerness with
    | .greedy => fitRepeated body.matcher false room least most none p next
    | .lazy => fitRepeated body.matcher true room least most none p next
    | .possessive => (fitPossessively body.matcher room least most none p).bind next
  | .group number body => fun p next =>
    body.matcher p fun q =>
      let fitted := p.rest.take (p.rest.length - q.rest.length)
      next { q with groups := q.groups.set number fitted }
  | .same number ignoresCase ascii => fun p next =>
    match p.groups.get? number with
    | none => none
    | some text =>
      let same := fun (a b : Char) =>
        if ignoresCase then smallForm ascii a.toNat == smallForm ascii b.toNat else a == b
      fitText same text p next
  | .anchor mark => fun p next => if mark.holds p then next p else none
  | .ahead negated body => fun p next => afterLook negated (body.matcher p some) p next
  | .behind negated width body => fun p next =>
    afterLook negated ((p.goBack? width).bind fun q => body.matcher q some) p next
  | .atomic body => fun p next => (body.matcher p some).bind next
  | .ifGroup number present absent => fun p next =>
    if p.groups.has number then present.matcher p next else absent.matcher p next

/-- Whether a pattern fits a text from a place on. -/
def fitsAt (pattern : Pattern) (before rest : List Char) : Bool :=
  (pattern.matcher ⟨before, rest, []⟩ some).isSome

/-- Whether a pattern fits the start of a text. -/
def fitsStart (pattern : Pattern) (text : String) : Bool :=
  pattern.fitsAt [] text.toList

/-- Whether a pattern fits a text from some place on. -/
def foundFrom (pattern : Pattern) (before : List Char) : List Char → Bool
  | [] => pattern.fitsAt before []
  | c :: rest => pattern.fitsAt before (c :: rest) || pattern.foundFrom (c :: before) rest

/-- Whether a pattern fits some part of a text. -/
def isFoundIn (pattern : Pattern) (text : String) : Bool :=
  pattern.foundFrom [] text.toList

end Stencil.Pattern
