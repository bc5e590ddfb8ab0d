import Stencil.Pattern.Set
import Stencil.Pattern.Switch

/-!
Reading patterns.

A pattern is one of several sequences with bars between them; a sequence is a row of items, any of
which a quantifier may repeat. Reading is bounded by the number of tokens: every step takes at least
one, save for the steps from a pattern to its first sequence.
-/

namespace Stencil.Pattern

open Reader

/-- What sort of item a pattern is, as quantifiers see it. -/
inductive ItemSort where
  | plain
  | anchor
  | repeated
  deriving DecidableEq, Repr

/-- A pattern in a sequence. -/
structure Item where
  sort : ItemSort := .plain
  pattern : Pattern

/-- The pattern of a sequence, whose items are given last first. -/
def ofItems (items : List Item) : Pattern :=
  items.foldl (fun after item => match after with
    | .empty => item.pattern
    | _ => .both item.pattern after) .empty

/-- What one step of reading a sequence gives: perhaps an item, and the switches from there on. -/
structure Step where
  item : Option Item
  switches : Switches

/-- Reads the bounds that a brace may open. What is no bound is a brace that stands for itself. -/
def bounds (start : Nat) : Reader (Option (Nat × Option Nat)) := do
  let after := (← get).tokens
  if after.head?.bind Token.plain? == some '\x7d' then return none
  let low ← takeWhile Char.isDigit after.length
  let high ← if ← accept ',' then takeWhile Char.isDigit after.length else pure low
  if ← accept '\x7d' then
    let least := digitsIn 10 low
    let most := if high.isEmpty then none else some (digitsIn 10 high)
    match most with
    | some n => if n < least then refuse .reversedBounds (start + 1) else return some (least, some n)
    | none => return some (least, none)
  else
    goTo after
    return none

/-- Reads the mark that may follow a quantifier. -/
def eagerness : Reader Eagerness := do
  if ← accept '?' then return .lazy
  if ← accept '+' then return .possessive
  return .greedy

/-- Repeats the last item of a sequence. -/
def repeatLast (start : Nat) (least : Nat) (most : Option Nat) (items : List Item) :
    Reader (List Item) := do
  match items with
  | [] => refuse .nothingToRepeat start
  | item :: before =>
    match item.sort with
    | .anchor => refuse .nothingToRepeat start
    | .repeated => refuse .repeatedTwice start
    | .plain =>
      return { sort := .repeated, pattern := .repeated least most (← eagerness) item.pattern }
        :: before

/-- Reads the rest of a quantifier. Gives nothing if it is none after all. -/
def quantifier? (c : Char) (start : Nat) : Reader (Option (Nat × Option Nat)) := do
  match c with
  | '?' => return some (0, some 1)
  | '*' => return some (0, none)
  | '+' => return some (1, none)
  | _ => bounds start

/-- Whether a text can name a group. -/
def isGroupName (name : String) : Bool :=
  match name.toList with
  | c :: rest => Text.isWord c && !Text.isDigitLike c && rest.all Text.isWord
  | [] => false

/-- Refuses a text that cannot name a group and was just read. -/
def checkGroupName (name : String) : Reader Unit := do
  unless isGroupName name do refuse (.badName name) ((← position) - (name.length + 1))

/-- The number of the group that was named, for a reference that was just read. -/
def namedGroup (name : String) : Reader Nat := do
  match (← get).names.get? name with
  | some number => return number
  | none => refuse (.unknownName name) ((← position) - (name.length + 1))

/-- Reads the rest of a reference to a group by name. -/
def namedReference (switches : Switches) : Reader Item := do
  let name ← Reader.name "group name" ')'
  checkGroupName name
  let number ← namedGroup name
  if ((← get).widths.lookup number).isNone then
    refuse .openGroup ((← position) - (name.length + 1))
  checkBehind number
  return { pattern := .same number switches.ignoresCase switches.ascii }

/-- Opens a group, under a name if it has one. -/
def openGroup (name : Option String) : Reader Nat := do
  let s ← get
  let number := s.nextGroup
  match name with
  | none => set { s with nextGroup := number + 1 }
  | some name =>
    match s.names.get? name with
    | some earlier =>
      refuse (.redefinedName name number earlier) ((← position) - (name.length + 1))
    | none => set { s with nextGroup := number + 1, names := s.names.set name number }
  return number

/-- Closes a group with its body. -/
def closeGroup (number : Nat) (body : Pattern) : Reader Unit :=
  modify fun s => { s with widths := (number, body.width s.widths) :: s.widths }

/-- Takes the parenthesis that closes what started at a given offset. -/
def close (start : Nat) : Reader Unit := do
  unless ← accept ')' do refuse .unterminatedGroup start

/-- Skips a comment in parentheses. -/
def skipRemark (start : Nat) : Nat → Reader Unit
  | 0 => refuse .unterminatedComment start
  | room + 1 => do
    match ← take with
    | none => refuse .unterminatedComment start
    | some t => if t.plain? == some ')' then return () else skipRemark start room

/-- Skips a comment up to the end of its line. -/
def skipLine : Nat → Reader Unit
  | 0 => return ()
  | room + 1 => do
    match ← take with
    | none => return ()
    | some t => if t.plain? == some '\n' then return () else skipLine room

/-- The number of the group that a choice depends on, from its name or number. -/
def conditionGroup (name : String) : Reader Nat := do
  let start := (← position) - (name.length + 1)
  if isGroupName name then namedGroup name
  else
    match Number.readInt? name.toList with
    | none => refuse (.badName name) start
    | some n =>
      if n < 0 then refuse (.badName name) start
      else if n == 0 then refuse .groupZero start
      else
        modify fun s =>
          if (s.conditions.lookup n.toNat).isSome then s
          else { s with conditions := s.conditions ++ [(n.toNat, start)] }
        return n.toNat

/-- What can stand at the start of a group. -/
inductive GroupHead where
  /-- A group whose text can be referred to. -/
  | captured (name : Option String)
  /-- A group for the sake of grouping, with switches. -/
  | loose (on off : List Char)
  | atomic
  | look (isBehind negated : Bool)
  | choice (number : Nat)
  | reference (item : Item)
  | remark
  /-- Switches for the whole pattern. -/
  | global (on : List Char)

/-- Reads the rest of a group's head after a question mark and the letter for extensions. -/
def extensionHead (switches : Switches) : Reader GroupHead := do
  if ← accept '<' then
    let name ← Reader.name "group name" '>'
    checkGroupName name
    return .captured (some name)
  else if ← accept '=' then return .reference (← namedReference switches)
  else
    let t ← need .unexpectedEnd
    refuse (.unknownExtension ("P" ++ t.text)) (t.position - 2)

/-- Reads the rest of a look behind's head. -/
def behindHead : Reader GroupHead := do
  let t ← need .unexpectedEnd
  match t.plain? with
  | some '=' => return .look true false
  | some '!' => return .look true true
  | _ => refuse (.unknownExtension ("<" ++ t.text)) (t.position - 2)

/-- Reads the head of a group after its parenthesis. -/
def groupHead (switches : Switches) (start : Nat) : Reader GroupHead := do
  if !(← accept '?') then return .captured none
  let t ← need .unexpectedEnd
  match t.plain? with
  | some 'P' => extensionHead switches
  | some ':' => return .loose [] []
  | some '#' =>
    skipRemark start ((← get).tokens.length + 1)
    return .remark
  | some '=' => return .look false false
  | some '!' => return .look false true
  | some '<' => behindHead
  | some '(' =>
    let name ← Reader.name "group name" ')'
    let number ← conditionGroup name
    checkBehind number
    return .choice number
  | some '>' => return .atomic
  | some c =>
    if isSwitch c || c == '-' then
      match ← switchList c with
      | .forAll on => return .global on
      | .forGroup on off => return .loose on off
    else refuse (.unknownExtension t.text) (t.position - 1)
  | none => refuse (.unknownExtension t.text) (t.position - 1)

/-- The item of a character that is no quantifier, bracket or parenthesis. -/
def charItem (switches : Switches) (c : Char) : Item :=
  match c with
  | '.' => { pattern := .one (pointSet switches) }
  | '^' => { sort := .anchor, pattern := .anchor (if switches.byLine then .lineStart else .start) }
  | '$' =>
    { sort := .anchor, pattern := .anchor (if switches.byLine then .lineEnd else .lastLineEnd) }
  | _ => { pattern := .one (single switches c.toNat) }

/-- The item of an escape. -/
def Escape.toItem (switches : Switches) : Escape → Item
  | .code n => { pattern := .one (single switches n) }
  | .kind sort negated => { pattern := .one (allOf switches sort negated) }
  | .anchor place => { sort := .anchor, pattern := .anchor place }
  | .group number => { pattern := .same number switches.ignoresCase switches.ascii }

/-- Whether a character is skipped where white space in a pattern is. -/
def isPatternSpace (c : Char) : Bool :=
  c == ' ' || (9 ≤ c.toNat && c.toNat ≤ 13)

mutual

/-- Reads sequences with bars between them. -/
def readSequences (switches : Switches) (isInner isFirst : Bool) : Nat → Reader Pattern
  | 0 => do refuse .unexpectedEnd (← position)
  | room + 1 => do
    let head ← readSequence switches (!isInner && isFirst) [] room
    if ← accept '|' then
      let s ← get
      let switches := if isInner then switches else s.switches
      return .either head (← readSequences switches isInner false room)
    else return head

/-- Reads a sequence up to a bar, a closing parenthesis or the end. The items read so far are given
last first. -/
def readSequence (switches : Switches) (isStart : Bool) (items : List Item) : Nat → Reader Pattern
  | 0 => do refuse .unexpectedEnd (← position)
  | room + 1 => do
    match ← peek with
    | none => return ofItems items
    | some t =>
      match t.spelling with
      | .strayBackslash => refuse .strayBackslash t.position
      | .escaped c =>
        let _ ← take
        let escape ← plainEscape switches t c
        readSequence switches isStart (escape.toItem switches :: items) room
      | .plain c =>
        if c == '|' || c == ')' then return ofItems items
        let _ ← take
        if switches.spacious && isPatternSpace c then readSequence switches isStart items room
        else if switches.spacious && c == '#' then
          skipLine ((← get).tokens.length + 1)
          readSequence switches isStart items room
        else if c == '[' then
          let item : Item := { pattern := .one (← charSet switches t.position) }
          readSequence switches isStart (item :: items) room
        else if c == '(' then
          let step ← readGroup switches (isStart && items.isEmpty) t.position room
          readSequence step.switches isStart (step.item.toList ++ items) room
        else if c == '*' || c == '+' || c == '?' || c == '\x7b' then
          match ← quantifier? c t.position with
          | some (least, most) =>
            readSequence switches isStart (← repeatLast t.position least most items) room
          | none => readSequence switches isStart (charItem switches c :: items) room
        else readSequence switches isStart (charItem switches c :: items) room

/-- Reads a group after its opening parenthesis, which stands at a given offset. -/
def readGroup (switches : Switches) (isStart : Bool) (start : Nat) : Nat → Reader Step
  | 0 => do refuse .unexpectedEnd (← position)
  | room + 1 => do
    match ← groupHead switches start with
    | .remark => return ⟨none, switches⟩
    | .reference item => return ⟨some item, switches⟩
    | .global on =>
      if !isStart then refuse .lateSwitches start
      let switches := (← get).switches.change on []
      modify fun s => { s with switches }
      return ⟨none, switches⟩
    | .captured name =>
      let number ← openGroup name
      let body ← readSequences switches true false room
      close start
      closeGroup number body
      return ⟨some { pattern := .group number body }, switches⟩
    | .loose on off =>
      let body ← readSequences (switches.change on off) true false room
      close start
      return ⟨some { pattern := body }, switches⟩
    | .atomic =>
      let body ← readSequences switches true false room
      close start
      return ⟨some { pattern := .atomic body }, switches⟩
    | .look isBehind negated =>
      if isBehind then
        let outer := (← get).behind
        modify fun s => { s with behind := some (outer.getD s.nextGroup) }
        let body ← readSequences switches true false room
        modify fun s => { s with behind := outer }
        close start
        let width := body.width (← get).widths
        if width.most != some width.least then modify fun s => { s with isUnsized := true }
        return ⟨some { pattern := .behind negated width.least body }, switches⟩
      else
        let body ← readSequences switches true false room
        close start
        return ⟨some { pattern := .ahead negated body }, switches⟩
    | .choice number =>
      let present ← readSequence switches false [] room
      let absent ←
        if ← accept '|' then
          let absent ← readSequence switches false [] room
          if (← peek).bind Token.plain? == some '|' then refuse .manyBranches (← position)
          pure absent
        else pure .empty
      close start
      return ⟨some { pattern := .ifGroup number present absent }, switches⟩

end

/-- Reads a whole pattern. -/
def whole : Reader Pattern := do
  goTo (← get).tokens
  let pattern ← readSequences {} false true (3 * (← get).tokens.length + 3)
  let s ← get
  unless s.tokens.isEmpty do refuse .strayParenthesis (← position)
  match s.conditions.find? fun condition => s.nextGroup ≤ condition.1 with
  | some (number, start) => refuse (.noGroup number) start
  | none => pure ()
  if s.isUnsized then throw ⟨.unsizedLookBehind, none⟩
  return pattern

/-- Compiles the text of a pattern. -/
def compile (text : String) : Except Refusal Pattern :=
  let start : Progress := { tokens := tokensFrom 0 text.toList, finish := text.length }
  (whole.run start).map Prod.fst

end Stencil.Pattern
