import Stencil.Failure
import Stencil.Number.Numeral
import Stencil.Value.Equality

/-!
Dotted paths into values. The first segment names a binding; each further one is a key of a map, a
position in a list, or a member of any other value.

Members may lead beyond data. What they are there, and what things hold that are no data, is up to a
host; `Host.plain` knows the members that templates have a use for.
-/

namespace Stencil

namespace Value

open Stencil.Number

/-- The operations that belong to texts. -/
def textMethods : List String :=
  ["capitalize", "casefold", "center", "count", "encode", "endswith", "expandtabs", "find",
    "format", "format_map", "index", "isalnum", "isalpha", "isascii", "isdecimal", "isdigit",
    "isidentifier", "islower", "isnumeric", "isprintable", "isspace", "istitle", "isupper", "join",
    "ljust", "lower", "lstrip", "maketrans", "partition", "removeprefix", "removesuffix",
    "replace", "rfind", "rindex", "rjust", "rpartition", "rsplit", "rstrip", "split", "splitlines",
    "startswith", "strip", "swapcase", "title", "translate", "upper", "zfill"]

/-- The operations that belong to lists. -/
def listMethods : List String :=
  ["append", "clear", "copy", "count", "extend", "index", "insert", "pop", "remove", "reverse",
    "sort"]

/-- The operations that belong to integers. -/
def integerMethods : List String :=
  ["as_integer_ratio", "bit_count", "bit_length", "conjugate", "from_bytes", "to_bytes"]

/-- The operations that belong to floats. -/
def floatMethods : List String :=
  ["as_integer_ratio", "conjugate", "fromhex", "hex", "is_integer"]

/-- The operations that belong to dates and times. -/
def temporalMethods : List String :=
  ["ctime", "isocalendar", "isoformat", "isoweekday", "replace", "strftime", "timetuple",
    "toordinal", "weekday"]

/-- The name of a value's kind. -/
def kindName : Value → String
  | .null => "NoneType"
  | .bool _ => "bool"
  | .int _ => "int"
  | .float _ => "float"
  | .str _ => "str"
  | .list _ => "list"
  | .map _ => "dict"
  | .decimal _ => "decimal.Decimal"
  | .temporal (.date _) => "datetime.date"
  | .temporal (.time _) => "datetime.time"
  | .temporal (.dateTime _ _ _) => "datetime.datetime"
  | .thing .method => "builtin_function_or_method"
  | .thing (.kindOf _) => "type"
  | .thing (.foreign name) => name

/-- The member of an integer with a given name. An integer is a fraction over one and a complex number
without imaginary part. -/
def integerMember? (n : Int) (name : String) : Option Value :=
  if name == "real" || name == "numerator" then some (.int n)
  else if name == "imag" then some (.int 0)
  else if name == "denominator" then some (.int 1)
  else if integerMethods.contains name then some (.thing .method)
  else none

/-- The part of a date with a given name. -/
def dateMember? (d : Date) (name : String) : Option Value :=
  if name == "year" then some (.int d.year)
  else if name == "month" then some (.int d.month)
  else if name == "day" then some (.int d.day)
  else none

/-- The part of a time of day with a given name. -/
def clockMember? (c : Clock) (name : String) : Option Value :=
  if name == "hour" then some (.int c.hour)
  else if name == "minute" then some (.int c.minute)
  else if name == "second" then some (.int c.second)
  else if name == "microsecond" then some (.int c.microsecond)
  else none

/-- The part of a date or time with a given name. -/
def temporalMember? (t : Temporal) (name : String) : Option Value :=
  let part := match t with
    | .date d => dateMember? d name
    | .time c => clockMember? c name
    | .dateTime d c _ => (dateMember? d name).or (clockMember? c name)
  part.or (if temporalMethods.contains name then some (.thing .method) else none)

/-- The operation with a given name, if it is among those of a kind. -/
def methodAmong? (names : List String) (name : String) : Option Value :=
  if names.contains name then some (.thing .method) else none

/-- The member of a value with a given name. -/
def member? (v : Value) (name : String) : Option Value :=
  if name == "__class__" then some (.thing (.kindOf v.kindName))
  else
    match v with
    | .bool b => integerMember? b.toNat name
    | .int n => integerMember? n name
    | .float x =>
      if name == "real" then some (.float x)
      else if name == "imag" then some (.float 0)
      else methodAmong? floatMethods name
    | .str _ => methodAmong? textMethods name
    | .list _ => methodAmong? listMethods name
    | .temporal t => temporalMember? t name
    | _ => none

/-- What a value holds: entries under names, items in a row, or nothing that a path could enter. -/
inductive Holding where
  | entries (get? : String → Option Value)
  | items (values : List Value)
  | nothing

end Value

/-- What paths find beyond data: the members of values, and what things hold that are no data. -/
structure Host where
  member? : Value → String → Option Value
  holding : Opaque → Value.Holding

/-- A host on which things hold nothing. -/
def Host.plain : Host where
  member? := Value.member?
  holding _ := .nothing

namespace Value

open Stencil.Number

/-- What a value holds on a host. -/
def holding (host : Host) : Value → Holding
  | .map entries => .entries fun name => Assoc.get? entries (.str name)
  | .list items => .items items
  | .thing o => host.holding o
  | _ => .nothing

/-- The position that a segment of digits spells. Digit-like characters without a value, or too many
digits, make it unreadable. -/
def position (segment : String) : Except Failure Nat :=
  if maxIntegerDigits < segment.length then .error .longInteger
  else if segment.toList.all Text.isDecimal then
    .ok (digitsValue (normalizeDigits segment.toList))
  else .error .unreadableIndex

/-- Follows one segment of a path; nothing is given where it leads nowhere. -/
def step (v : Value) (segment : String) (host : Host := .plain) :
    Except Failure (Option Value) :=
  match v.holding host with
  | .entries get? => .ok (get? segment)
  | .items values =>
    if segment != "" && segment.toList.all Text.isDigitLike then do
      let index ← position segment
      return values[index]?
    else .ok (host.member? v segment)
  | .nothing => .ok (host.member? v segment)

/-- Follows the segments of a path one after another. -/
def follow (v : Value) (segments : List String) (host : Host := .plain) :
    Except Failure (Option Value) :=
  match segments with
  | [] => .ok (some v)
  | segment :: rest => do
    match ← v.step segment host with
    | some next => follow next rest host
    | none => return none

/-- Splits a text at every occurrence of a character. -/
def splitAt (mark : Char) : List Char → List (List Char)
  | [] => [[]]
  | c :: rest =>
    if c == mark then [] :: splitAt mark rest
    else
      match splitAt mark rest with
      | [] => [[c]]
      | part :: parts => (c :: part) :: parts

/-- The segments of a dotted path. -/
def pathSegments (path : String) : List String :=
  (splitAt '.' path.toList).map String.ofList

/-- The first segment of a dotted path. -/
def pathRoot (path : String) : String :=
  String.ofList (path.toList.takeWhile (· != '.'))

/-- What follows the first dot of a path, if anything does. -/
def pathRest (path : String) : String :=
  String.ofList ((path.toList.dropWhile (· != '.')).drop 1)

/-- Resolves a dotted path where `get` finds the value of its first segment. A path that ends in its
first dot means that value itself. -/
def resolveWith (get : String → Option Value) (path : String) (host : Host := .plain) :
    Except Failure (Option Value) :=
  match get (pathRoot path) with
  | none => .ok none
  | some v =>
    let rest := pathRest path
    if rest == "" then .ok (some v) else v.follow (pathSegments rest) host

end Value

/-- Resolves a dotted path against bindings. -/
def Bindings.resolve (bindings : Bindings) (path : String) (host : Host := .plain) :
    Except Failure (Option Value) :=
  Value.resolveWith bindings.get? path host

end Stencil
