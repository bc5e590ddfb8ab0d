import Stencil.Number.Numeral
import Stencil.Value.Data

/-!
Values as text, in three forms: as templates write them (`toText`), as messages show them (`inspect`)
and as a header field that should be text is taken (`display`).
-/

namespace Stencil.Value

open Stencil.Number

/-- The decimal text of an integer that is not too long to be written. -/
def integerText (n : Int) : Except Failure String :=
  let digits := Nat.toDigits 10 n.natAbs
  if maxIntegerDigits < digits.length then .error .longInteger
  else .ok (String.ofList (if n < 0 then '-' :: digits else digits))

/-- A float as templates write it: a whole number without a fractional part. -/
def plainFloat (x : Float) : String :=
  if Dyadic.isFinite x && isWhole x then toString (truncate x) else floatText x

mutual

/-- A value as templates write it: nothing for a missing value, lists separated by commas, maps as
data by a writer for these. -/
def toText (v : Value) (dump : Value → Except Failure String := compact) : Except Failure String :=
  match v with
  | .null => .ok ""
  | .bool b => .ok (if b then "true" else "false")
  | .int n => integerText n
  | .float x => .ok (plainFloat x)
  | .str s => .ok s
  | .list items => do
    let parts ← itemTexts items dump
    return ", ".intercalate parts
  | .map entries => dump (.map entries)
  | .decimal d => .ok d.text
  | .temporal t => .ok (t.textWith " ")
  | .thing o => .ok o.text

/-- The items of a list as templates write them. -/
def itemTexts (items : List Value) (dump : Value → Except Failure String := compact) :
    Except Failure (List String) :=
  match items with
  | [] => .ok []
  | item :: rest => do
    let head ← toText item dump
    let tail ← itemTexts rest dump
    return head :: tail

end

/-- A text in quotes, as messages show it. -/
def quoted (s : String) : String :=
  String.ofList (Text.quote s.toList)

/-- A date or time as messages show it. -/
def inspectTemporal : Temporal → String
  | .date d => s!"datetime.date({d.year}, {d.month}, {d.day})"
  | .time c => s!"datetime.time({c.hour}, {c.minute}{fine c})"
  | .dateTime d c zone =>
    s!"datetime.datetime({d.year}, {d.month}, {d.day}, {c.hour}, {c.minute}{fine c}{shift zone})"
where
  fine (c : Clock) : String :=
    if c.microsecond != 0 then s!", {c.second}, {c.microsecond}"
    else if c.second != 0 then s!", {c.second}"
    else ""
  shift : Option Int → String
    | none => ""
    | some 0 => ", tzinfo=datetime.timezone.utc"
    | some minutes =>
      let days := minutes.fdiv 1440
      let seconds := minutes.fmod 1440 * 60
      let span := if days == 0 then s!"seconds={seconds}" else s!"days={days}, seconds={seconds}"
      s!", tzinfo=datetime.timezone(datetime.timedelta({span}))"

mutual

/-- A value as messages show it. -/
def inspect : Value → Except Failure String
  | .null => .ok "None"
  | .bool b => .ok (if b then "True" else "False")
  | .int n => integerText n
  | .float x => .ok (floatText x)
  | .str s => .ok (quoted s)
  | .list items => do
    let parts ← inspectItems items
    return "[" ++ ", ".intercalate parts ++ "]"
  | .map entries => do
    let parts ← inspectEntries entries
    return "\x7b" ++ ", ".intercalate parts ++ "\x7d"
  | .decimal d => .ok s!"Decimal('{d.text}')"
  | .temporal t => .ok (inspectTemporal t)
  | .thing o => .ok o.text

/-- The items of a list as messages show them. -/
def inspectItems : List Value → Except Failure (List String)
  | [] => .ok []
  | item :: rest => do
    let head ← inspect item
    let tail ← inspectItems rest
    return head :: tail

/-- The entries of a map as messages show them. -/
def inspectEntries : List (Value × Value) → Except Failure (List String)
  | [] => .ok []
  | (key, value) :: rest => do
    let name ← inspect key
    let head ← inspect value
    let tail ← inspectEntries rest
    return (name ++ ": " ++ head) :: tail

end

/-- A value taken as text where a header asks for text: a text is itself and a date its plain
spelling. -/
def display : Value → Except Failure String
  | .str s => .ok s
  | .temporal t => .ok (t.textWith " ")
  | .decimal d => .ok d.text
  | v => inspect v

end Stencil.Value
