import Stencil.Text.Quoted

/-!
Why the text of a pattern can be refused, and where.
-/

namespace Stencil.Pattern

/-- What is wrong with the switches of a group. -/
inductive SwitchFault where
  | unknown
  | unterminated
  /-- A hyphen with no switch after it. -/
  | nothingOff
  | unterminatedOff
  | locale
  | incompatible
  | globalOn
  | globalOff
  | alphabetOff
  | onAndOff
  deriving DecidableEq, Repr

/-- What is wrong with the text of a pattern. -/
inductive Fault where
  | strayBackslash
  | badEscape (escape : String)
  | incompleteEscape (escape : String)
  | largeOctal (escape : String)
  | missingBrace
  /-- A name is missing, where a name of the given sort should stand. -/
  | missingName (sort : String)
  | unterminatedName (closer : Char)
  | unknownCharacter (name : String)
  | badName (name : String)
  | unknownName (name : String)
  | redefinedName (name : String) (group earlier : Nat)
  | unterminatedSet
  | badRange (first last : String)
  | nothingToRepeat
  | repeatedTwice
  | reversedBounds
  | unterminatedGroup
  | unterminatedComment
  | strayParenthesis
  | unexpectedEnd
  | unknownExtension (text : String)
  /-- A reference to a group that it stands in. -/
  | openGroup
  /-- A reference to a group of the same look behind. -/
  | groupBehind
  | noGroup (number : Int)
  | groupZero
  | manyBranches
  /-- Switches for the whole pattern that do not stand at its start. -/
  | lateSwitches
  | switch (fault : SwitchFault)
  /-- A look behind whose width depends on the text. -/
  | unsizedLookBehind
  deriving DecidableEq, Repr

/-- The wording of a fault in switches. -/
def SwitchFault.wording : SwitchFault → String
  | .unknown => "unknown flag"
  | .unterminated => "missing -, : or )"
  | .nothingOff => "missing flag"
  | .unterminatedOff => "missing :"
  | .locale => "bad inline flags: cannot use 'L' flag with a str pattern"
  | .incompatible => "bad inline flags: flags 'a', 'u' and 'L' are incompatible"
  | .globalOn => "bad inline flags: cannot turn on global flag"
  | .globalOff => "bad inline flags: cannot turn off global flag"
  | .alphabetOff => "bad inline flags: cannot turn off flags 'a', 'u' and 'L'"
  | .onAndOff => "bad inline flags: flag turned on and off"

/-- A name in quotes. -/
def quoted (name : String) : String :=
  String.ofList (Text.quote name.toList)

/-- The wording of a fault. -/
def Fault.wording : Fault → String
  | .strayBackslash => "bad escape (end of pattern)"
  | .badEscape escape => "bad escape " ++ escape
  | .incompleteEscape escape => "incomplete escape " ++ escape
  | .largeOctal escape => "octal escape value " ++ escape ++ " outside of range 0-0o377"
  | .missingBrace => "missing \x7b"
  | .missingName sort => "missing " ++ sort
  | .unterminatedName closer => "missing " ++ closer.toString ++ ", unterminated name"
  | .unknownCharacter name => "undefined character name " ++ quoted name
  | .badName name => "bad character in group name " ++ quoted name
  | .unknownName name => "unknown group name " ++ quoted name
  | .redefinedName name group earlier =>
    "redefinition of group name " ++ quoted name
      ++ s!" as group {group}; was group {earlier}"
  | .unterminatedSet => "unterminated character set"
  | .badRange first last => "bad character range " ++ first ++ "-" ++ last
  | .nothingToRepeat => "nothing to repeat"
  | .repeatedTwice => "multiple repeat"
  | .reversedBounds => "min repeat greater than max repeat"
  | .unterminatedGroup => "missing ), unterminated subpattern"
  | .unterminatedComment => "missing ), unterminated comment"
  | .strayParenthesis => "unbalanced parenthesis"
  | .unexpectedEnd => "unexpected end of pattern"
  | .unknownExtension text => "unknown extension ?" ++ text
  | .openGroup => "cannot refer to an open group"
  | .groupBehind => "cannot refer to group defined in the same lookbehind subpattern"
  | .noGroup number => s!"invalid group reference {number}"
  | .groupZero => "bad group number"
  | .manyBranches => "conditional backref with more than two branches"
  | .lateSwitches => "global flags not at the start of the expression"
  | .switch fault => fault.wording
  | .unsizedLookBehind => "look-behind requires fixed-width pattern"

/-- A fault and the offset of the place to blame, if there is one. -/
structure Refusal where
  fault : Fault
  position : Option Nat
  deriving DecidableEq, Repr

/-- The line and column of an offset, in words, for a text of several lines. -/
def placeInLines (text : List Char) (position : Nat) : String :=
  if text.contains '\n' then
    let before := text.take position
    let line := before.count '\n' + 1
    let column := (before.reverse.takeWhile (· != '\n')).length + 1
    s!" (line {line}, column {column})"
  else ""

/-- The wording of a refusal of a text. -/
def Refusal.message (refusal : Refusal) (text : String) : String :=
  match refusal.position with
  | some position =>
    refusal.fault.wording ++ s!" at position {position}" ++ placeInLines text.toList position
  | none => refusal.fault.wording

end Stencil.Pattern
