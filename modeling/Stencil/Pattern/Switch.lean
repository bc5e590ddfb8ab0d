import Stencil.Pattern.Token

/-!
Switches in parentheses, which hold for the whole pattern or for a group.
-/

namespace Stencil.Pattern

open Reader

/-- Whether a letter is a switch. -/
def isSwitch (c : Char) : Bool :=
  "iLmsxatu".contains c

/-- Whether a switch chooses the alphabet. -/
def isAlphabet (c : Char) : Bool :=
  c == 'a' || c == 'u' || c == 'L'

/-- Whether a switch makes no sense for a part of a pattern. -/
def isGlobal (c : Char) : Bool :=
  c == 't'

/-- Turns a switch on or off. -/
def Switches.turn (s : Switches) (on : Bool) (c : Char) : Switches :=
  match c with
  | 'i' => { s with ignoresCase := on }
  | 'm' => { s with byLine := on }
  | 's' => { s with pointFitsAll := on }
  | 'x' => { s with spacious := on }
  | 'a' => { s with ascii := on }
  | 'u' => { s with ascii := !on }
  | _ => s

/-- Turns several switches on and several off. -/
def Switches.change (s : Switches) (on off : List Char) : Switches :=
  off.foldl (fun s c => s.turn false c) (on.foldl (fun s c => s.turn true c) s)

/-- What is wrong with a token that should be a switch. -/
def notSwitch (t : Token) (otherwise : SwitchFault) : Fault :=
  match t.plain? with
  | some c => .switch (if Text.isAlphanumeric c && !Text.isDigitLike c then .unknown else otherwise)
  | none => .switch otherwise

/-- The switch that a token is. -/
def Token.switch? (t : Token) : Option Char :=
  t.plain?.bind fun c => if isSwitch c then some c else none

/-- Reads switches to turn on, the first of which is given, and the character that ends them. -/
def switchesOn (on : List Char) (c : Char) : Nat → Reader (List Char × Char)
  | 0 => do refuse (.switch .unterminated) (← position)
  | room + 1 => do
    if c == 'L' then refuse (.switch .locale) (← position)
    if isAlphabet c && on.any fun other => isAlphabet other && other != c then
      refuse (.switch .incompatible) (← position)
    let t ← need (.switch .unterminated)
    match t.plain? with
    | some ')' => return (on ++ [c], ')')
    | some '-' => return (on ++ [c], '-')
    | some ':' => return (on ++ [c], ':')
    | _ =>
      match t.switch? with
      | some next => switchesOn (on ++ [c]) next room
      | none => refuse (notSwitch t .unterminated) t.position

/-- Reads switches to turn off, the first of which is given, up to the colon that ends them. -/
def switchesOff (off : List Char) (c : Char) : Nat → Reader (List Char)
  | 0 => do refuse (.switch .unterminatedOff) (← position)
  | room + 1 => do
    if isAlphabet c then refuse (.switch .alphabetOff) (← position)
    let t ← need (.switch .unterminatedOff)
    if t.plain? == some ':' then return off ++ [c]
    else
      match t.switch? with
      | some next => switchesOff (off ++ [c]) next room
      | none => refuse (notSwitch t .unterminatedOff) t.position

/-- Switches as they stand in parentheses. -/
inductive SwitchList where
  /-- For the whole pattern. -/
  | forAll (on : List Char)
  /-- For the group that follows. -/
  | forGroup (on off : List Char)

/-- Reads switches to turn off after a hyphen. -/
def switchesAfterHyphen : Reader (List Char) := do
  let t ← need (.switch .nothingOff)
  match t.switch? with
  | some c => switchesOff [] c ((← get).tokens.length + 1)
  | none => refuse (notSwitch t .nothingOff) t.position

/-- Reads switches, the first token of which is given. -/
def switchList (first : Char) : Reader SwitchList := do
  let (on, closer) ←
    if first == '-' then pure ([], '-') else switchesOn [] first ((← get).tokens.length + 1)
  if closer == ')' then return .forAll on
  if on.any isGlobal then refuse (.switch .globalOn) ((← position) - 1)
  let off ← if closer == '-' then switchesAfterHyphen else pure []
  if off.any isGlobal then refuse (.switch .globalOff) ((← position) - 1)
  if off.any on.contains then refuse (.switch .onAndOff) ((← position) - 1)
  return .forGroup on off

end Stencil.Pattern
