import Stencil.Text.Case
import Stencil.Text.Digit
import Stencil.Text.Blank
import Stencil.Text.Word

/-!
Patterns: sets of characters, and what can be made from them.
-/

namespace Stencil

namespace Pattern

/-- Switches that change what a pattern means. -/
structure Switches where
  ignoresCase : Bool := false
  /-- Whether lines have starts and ends of their own. -/
  byLine : Bool := false
  /-- Whether a point fits a line break too. -/
  pointFitsAll : Bool := false
  /-- Whether white space and comments in the pattern are skipped. -/
  spacious : Bool := false
  /-- Whether only ASCII characters count as digits, blanks and word characters. -/
  ascii : Bool := false
  deriving DecidableEq, Repr

/-- Kinds of characters. -/
inductive CharKind where
  | digit
  | blank
  | word
  deriving DecidableEq, Repr

/-- Part of a set of characters: a range of code points, or all characters that are of a kind or are
not of it. -/
inductive SetItem where
  | range (first last : Nat)
  | kind (sort : CharKind) (negated : Bool)
  deriving DecidableEq, Repr

/-- A set of characters. -/
structure CharSet where
  items : List SetItem
  negated : Bool
  ignoresCase : Bool
  ascii : Bool
  deriving DecidableEq, Repr

/-- Whether a character is of a kind. -/
def CharKind.holds (kind : CharKind) (ascii : Bool) (c : Char) : Bool :=
  if ascii then
    c.toNat < 128 && match kind with
      | .digit => c.isDigit
      | .blank => c == ' ' || (9 ≤ c.toNat && c.toNat ≤ 13)
      | .word => c.isAlphanum || c == '_'
  else
    match kind with
    | .digit => Text.isDecimal c
    | .blank => Text.isBlank c
    | .word => Text.isWord c

/-- Small letters that share a capital form, or whose capital forms look the same. -/
def kinLetters : List (List Nat) :=
  [ [105, 305], [115, 383], [181, 956], [837, 953, 8126], [912, 8147], [944, 8163], [946, 976],
    [949, 1013], [952, 977], [954, 1008], [960, 982], [961, 1009], [962, 963], [966, 981],
    [1074, 7296], [1076, 7297], [1086, 7298], [1089, 7299], [1090, 7300, 7301], [1098, 7302],
    [1123, 7303], [7304, 42571], [7777, 7835], [64261, 64262] ]

/-- The small form of a code point. -/
def smallForm (ascii : Bool) (code : Nat) : Nat :=
  if ascii then if 65 ≤ code && code ≤ 90 then code + 32 else code
  else if code.isValidChar then (Text.foldChar (Char.ofNat code)).toNat
  else code

/-- Whether two code points are the same but for case. -/
def sameButCase (ascii : Bool) (a b : Nat) : Bool :=
  let small := smallForm ascii a
  let other := smallForm ascii b
  small == other
    || !ascii && kinLetters.any fun kin => kin.contains small && kin.contains other

/-- Whether a part of a set has a character. -/
def SetItem.holds (item : SetItem) (ignoresCase ascii : Bool) (c : Char) : Bool :=
  match item with
  | .range first last =>
    (first ≤ c.toNat && c.toNat ≤ last)
      || ignoresCase
        && (List.range' first (last + 1 - first)).any fun code => sameButCase ascii code c.toNat
  | .kind sort negated => sort.holds ascii c != negated

/-- Whether a set has a character. -/
def CharSet.holds (set : CharSet) (c : Char) : Bool :=
  set.items.any (·.holds set.ignoresCase set.ascii c) != set.negated

/-- Places between characters. -/
inductive Anchor where
  | start
  | finish
  /-- The end, or before a line break that ends the text. -/
  | lastLineEnd
  | lineStart
  | lineEnd
  | edge (ascii : Bool)
  | noEdge (ascii : Bool)
  deriving DecidableEq, Repr

/-- In what order the numbers of repetitions are tried. -/
inductive Eagerness where
  | greedy
  | lazy
  /-- As many as possible, and never fewer after all. -/
  | possessive
  deriving DecidableEq, Repr

end Pattern

/-- A pattern that a text may fit. -/
inductive Pattern where
  | empty
  | one (set : Pattern.CharSet)
  | both (first second : Pattern)
  | either (first second : Pattern)
  | repeated (least : Nat) (most : Option Nat) (eagerness : Pattern.Eagerness) (body : Pattern)
  /-- What the body fits can be referred to by a number. -/
  | group (number : Nat) (body : Pattern)
  /-- The text that a group fits. -/
  | same (number : Nat) (ignoresCase ascii : Bool)
  | anchor (anchor : Pattern.Anchor)
  /-- The body fits what follows, or does not. -/
  | ahead (negated : Bool) (body : Pattern)
  /-- The body fits so many characters right before, or does not. -/
  | behind (negated : Bool) (width : Nat) (body : Pattern)
  /-- The body, in the first way in which it fits. -/
  | atomic (body : Pattern)
  /-- One of two bodies, depending on whether a group fits anything. -/
  | ifGroup (number : Nat) (present absent : Pattern)

namespace Pattern

/-- How many characters a pattern fits, at least and at most. -/
structure Width where
  least : Nat
  most : Option Nat
  deriving DecidableEq, Repr

/-- The width of two patterns one after the other. -/
def Width.add (a b : Width) : Width :=
  ⟨a.least + b.least, match a.most, b.most with | some m, some n => some (m + n) | _, _ => none⟩

/-- The width of one of two patterns. -/
def Width.join (a b : Width) : Width :=
  ⟨min a.least b.least, match a.most, b.most with | some m, some n => some (max m n) | _, _ => none⟩

/-- The width of a repeated pattern. -/
def Width.times (w : Width) (least : Nat) (most : Option Nat) : Width :=
  ⟨w.least * least, match w.most, most with
    | some 0, _ => some 0
    | some m, some n => some (m * n)
    | _, _ => none⟩

/-- The width of a pattern, given the widths of the groups that it refers to. -/
def width (groups : List (Nat × Width)) : Pattern → Width
  | .empty | .anchor _ | .ahead _ _ | .behind _ _ _ => ⟨0, some 0⟩
  | .one _ => ⟨1, some 1⟩
  | .both p q => (p.width groups).add (q.width groups)
  | .either p q => (p.width groups).join (q.width groups)
  | .repeated least most _ body => (body.width groups).times least most
  | .group _ body | .atomic body => body.width groups
  | .same number _ _ => (groups.lookup number).getD ⟨0, some 0⟩
  | .ifGroup _ present absent => (present.width groups).join (absent.width groups)

end Pattern

end Stencil
