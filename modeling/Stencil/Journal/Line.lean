import Stencil.Journal.Event
import Stencil.Value.Text

/-!
Events written as lines: plainly, or as JSON.

A plain line has the severity, the name of the event, and its details sorted by name. Texts that could
not be told from their surroundings are quoted.
-/

namespace Stencil

/-- The word for a severity. -/
def Severity.word : Severity → String
  | .debug => "debug"
  | .info => "info"
  | .warning => "warning"
  | .error => "error"
  | .critical => "critical"

/-- A text filled up with spaces. -/
def padded (width : Nat) (s : String) : String :=
  s ++ String.ofList (List.replicate (width - s.length) ' ')

/-- Whether a text can stand in a plain line without quotes. -/
def needsNoQuotes (s : String) : Bool :=
  s.toList.all fun c => !([' ', '\t', '=', '\r', '\n', '"', '\''].contains c)

/-- A detail's value in a plain line. -/
def plainDetail : Value → Except Failure String
  | .str s => .ok (if needsNoQuotes s then s else Value.quoted s)
  | v => v.inspect

/-- The details of a plain line. -/
def plainDetails : Bindings → Except Failure (List String)
  | [] => .ok []
  | (name, v) :: rest => do
    let head ← plainDetail v
    let tail ← plainDetails rest
    return (name ++ "=" ++ head) :: tail

/-- An event as a plain line. -/
def Event.plainLine (e : Event) : Except Failure String := do
  let sorted := e.details.mergeSort fun a b => a.1 ≤ b.1
  let details ← plainDetails sorted
  let name := if details.isEmpty then e.name else padded 30 e.name
  return " ".intercalate (("[" ++ padded 9 e.severity.word ++ "]") :: name :: details)

/-- A key of a map in a line of JSON. -/
def Value.lineKey : Value → Except Failure String
  | .str s => .ok s
  | .null => .ok "null"
  | .bool b => .ok (if b then "true" else "false")
  | .int n => Value.integerText n
  | .float x => .ok (Number.floatText x)
  | _ => .error .unserializable

mutual

/-- A value in a line of JSON, in ASCII characters. -/
def Value.lineJson : Value → Except Failure String
  | .null => .ok "null"
  | .bool b => .ok (if b then "true" else "false")
  | .int n => Value.integerText n
  | .float x =>
    .ok (if Number.Dyadic.isNaN x then "NaN"
      else if Number.Dyadic.isFinite x then Number.floatText x
      else if Number.Dyadic.isNegative x then "-Infinity" else "Infinity")
  | .str s => .ok (Text.asciiJsonString s)
  | .list items => do
    let parts ← Value.lineItems items
    return "[" ++ ", ".intercalate parts ++ "]"
  | .map entries => do
    let parts ← Value.lineEntries entries
    return "\x7b" ++ ", ".intercalate parts ++ "\x7d"
  | v => do return Text.asciiJsonString (← v.inspect)

/-- The items of a list in a line of JSON. -/
def Value.lineItems : List Value → Except Failure (List String)
  | [] => .ok []
  | item :: rest => do
    let head ← Value.lineJson item
    let tail ← Value.lineItems rest
    return head :: tail

/-- The entries of a map in a line of JSON. -/
def Value.lineEntries : List (Value × Value) → Except Failure (List String)
  | [] => .ok []
  | (key, value) :: rest => do
    let name ← Value.lineKey key
    let head ← Value.lineJson value
    let tail ← Value.lineEntries rest
    return (Text.asciiJsonString name ++ ": " ++ head) :: tail

end

/-- An event as a line of JSON: its details in order, then its name and severity. -/
def Event.jsonLine (e : Event) : Except Failure String :=
  let details : Bindings := e.details
  (Value.ofBindings ((details.set "event" (.str e.name)).set "level" (.str e.severity.word))).lineJson

end Stencil
