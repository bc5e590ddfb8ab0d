import Stencil.Number.Shortest

/-!
Calendar dates and times of day, which data files may hold beside numbers and text.
-/

namespace Stencil

/-- A calendar date. -/
structure Date where
  year : Nat
  month : Nat
  day : Nat
  deriving DecidableEq, Repr

/-- A time of day. -/
structure Clock where
  hour : Nat
  minute : Nat
  second : Nat
  microsecond : Nat
  deriving DecidableEq, Repr

/-- A date, a time of day, or both with an optional distance from universal time in minutes. -/
inductive Temporal where
  | date (d : Date)
  | time (c : Clock)
  | dateTime (d : Date) (c : Clock) (offset : Option Int)
  deriving DecidableEq, Repr

/-- The number of days in a month. -/
def daysInMonth (year month : Nat) : Nat :=
  if month == 2 then
    if year % 4 == 0 && (year % 100 != 0 || year % 400 == 0) then 29 else 28
  else if month == 4 || month == 6 || month == 9 || month == 11 then 30
  else 31

/-- Whether a date exists in the calendar of the years 1 to 9999. -/
def Date.isValid (d : Date) : Bool :=
  1 ≤ d.year && d.year ≤ 9999 && 1 ≤ d.month && d.month ≤ 12 && 1 ≤ d.day
    && d.day ≤ daysInMonth d.year d.month

/-- Whether a time of day exists. Leap seconds do not. -/
def Clock.isValid (c : Clock) : Bool :=
  c.hour < 24 && c.minute < 60 && c.second < 60 && c.microsecond < 1000000

/-- A number with at least `width` digits. -/
def zeroPadded (width n : Nat) : String :=
  String.ofList (Number.padDigits width n)

/-- The text of a date: year, month and day. -/
def Date.text (d : Date) : String :=
  zeroPadded 4 d.year ++ "-" ++ zeroPadded 2 d.month ++ "-" ++ zeroPadded 2 d.day

/-- The text of a time of day, with microseconds only where there are any. -/
def Clock.text (c : Clock) : String :=
  zeroPadded 2 c.hour ++ ":" ++ zeroPadded 2 c.minute ++ ":" ++ zeroPadded 2 c.second
    ++ (if c.microsecond == 0 then "" else "." ++ zeroPadded 6 c.microsecond)

/-- The text of a distance from universal time. -/
def offsetText (minutes : Int) : String :=
  (if minutes < 0 then "-" else "+") ++ zeroPadded 2 (minutes.natAbs / 60) ++ ":"
    ++ zeroPadded 2 (minutes.natAbs % 60)

/-- The text of a date or time, with a given separator between the two. -/
def Temporal.textWith (separator : String) : Temporal → String
  | .date d => d.text
  | .time c => c.text
  | .dateTime d c offset =>
    d.text ++ separator ++ c.text ++ (match offset with | some o => offsetText o | none => "")

/-- The number of a day, counted from the first day of the year 1. -/
def Date.ordinal (d : Date) : Nat :=
  let years := d.year - 1
  365 * years + years / 4 - years / 100 + years / 400
    + (List.range (d.month - 1)).foldl (fun days month => days + daysInMonth d.year (month + 1)) 0
    + d.day

/-- The microseconds from midnight to a time of day. -/
def Clock.microseconds (c : Clock) : Nat :=
  ((c.hour * 60 + c.minute) * 60 + c.second) * 1000000 + c.microsecond

/-- The instant of a date and time that tell their distance from universal time, in microseconds. -/
def Temporal.instant? : Temporal → Option Int
  | .dateTime d c (some offset) =>
    some (d.ordinal * 86400000000 + c.microseconds - offset * 60000000)
  | _ => none

/-- Whether two dates or times are the same. Two that tell their distance from universal time are if
they are at the same instant. -/
def Temporal.isSame (s t : Temporal) : Bool :=
  match s.instant?, t.instant? with
  | some a, some b => a == b
  | _, _ => s == t

end Stencil
