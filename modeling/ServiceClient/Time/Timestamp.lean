import ServiceClient.Number.Shortest
import ServiceClient.Time.Calendar

/-!
# Timestamps

A `Timestamp` is what a clock shows, in microseconds, together with the clock's offset from
UTC if that is known. A clock without an offset is read as UTC wherever an instant is needed.

* `Timestamp.instant`: microseconds since 1970-01-01T00:00 UTC.
* `Timestamp.milliseconds`: the instant rounded down to milliseconds.
* `Timestamp.epochSeconds`: the instant as a double, rounded to milliseconds.
* `Timestamp.isoText`, `milliText`, `httpText`: the written forms.
-/

namespace ServiceClient

/-- The reading of a clock. -/
structure Timestamp where
  /-- Microseconds from 1970-01-01T00:00 on the same clock. -/
  clock : Int
  /-- Seconds by which the clock is ahead of UTC, if known. -/
  offset : Option Int
deriving DecidableEq, Repr, Inhabited

/-- The time of the day, in microseconds, taken apart. -/
structure TimeOfDay where
  hour : Nat
  minute : Nat
  second : Nat
  microsecond : Nat
deriving DecidableEq, Repr, Inhabited

namespace TimeOfDay

def ofMicroseconds (n : Nat) : TimeOfDay :=
  ⟨n / 3600000000, n / 60000000 % 60, n / 1000000 % 60, n % 1000000⟩

def toMicroseconds (t : TimeOfDay) : Nat :=
  ((t.hour * 60 + t.minute) * 60 + t.second) * 1000000 + t.microsecond

end TimeOfDay

/-- A natural number with leading zeros up to a width. -/
def zeroPadded (width n : Nat) : String :=
  let digits := decimalDigits n
  String.ofList (List.replicate (width - digits.length) '0' ++ digits)

namespace Timestamp

/-- Microseconds in a day. -/
def microsecondsPerDay : Int := 86400000000

/-- The timestamp with the given date, time of day and offset. -/
def ofParts (date : Date) (time : TimeOfDay) (offset : Option Int) : Timestamp :=
  ⟨date.toDays * microsecondsPerDay + time.toMicroseconds, offset⟩

def date (t : Timestamp) : Date := Date.ofDays (t.clock / microsecondsPerDay)

def timeOfDay (t : Timestamp) : TimeOfDay :=
  TimeOfDay.ofMicroseconds (t.clock % microsecondsPerDay).toNat

/-- Microseconds from 1970-01-01T00:00 UTC; a clock without an offset shows UTC. -/
def instant (t : Timestamp) : Int := t.clock - t.offset.getD 0 * 1000000

/-- The same instant on a UTC clock. -/
def toUtc (t : Timestamp) : Timestamp := ⟨t.instant, some 0⟩

/-- The UTC timestamp of an instant. -/
def ofInstant (microseconds : Int) : Timestamp := ⟨microseconds, some 0⟩

/-- Reads a clock without an offset as UTC. -/
def aware (t : Timestamp) : Timestamp := ⟨t.clock, some (t.offset.getD 0)⟩

/-- The same reading of the clock, with an offset in whole minutes, rounded down. -/
def minuteOffset (t : Timestamp) : Timestamp := ⟨t.clock, t.offset.map fun o => o / 60 * 60⟩

/-- The first microsecond of year 1. -/
def earliest : Int := (Date.toDays ⟨1, 1, 1⟩) * microsecondsPerDay

/-- The first microsecond after year 9999. -/
def latest : Int := (Date.toDays ⟨10000, 1, 1⟩) * microsecondsPerDay

/-- Whether the clock shows a year from 1 to 9999. -/
def inRange (t : Timestamp) : Bool := earliest ≤ t.clock && t.clock < latest

/-- The instant in milliseconds, rounded down. -/
def milliseconds (t : Timestamp) : Int := t.instant / 1000

/-- The instant in seconds as a double, rounded to three decimals. -/
def epochSeconds (t : Timestamp) : Double :=
  (Double.ofIntRatio t.instant 1000000).roundPlaces 3

/-- The date as `YYYY-MM-DD`. -/
def dateText (t : Timestamp) : String :=
  let d := t.date
  zeroPadded 4 d.year.toNat ++ "-" ++ zeroPadded 2 d.month ++ "-" ++ zeroPadded 2 d.day

/-- The time as `HH:MM:SS`. -/
def timeText (t : Timestamp) : String :=
  let c := t.timeOfDay
  zeroPadded 2 c.hour ++ ":" ++ zeroPadded 2 c.minute ++ ":" ++ zeroPadded 2 c.second

/-- An offset as `+HH:MM`, with seconds if it has any. -/
def offsetText (offset : Int) : String :=
  let n := offset.natAbs
  (if offset < 0 then "-" else "+") ++ zeroPadded 2 (n / 3600) ++ ":" ++
    zeroPadded 2 (n / 60 % 60) ++ (if n % 60 = 0 then "" else ":" ++ zeroPadded 2 (n % 60))

/-- Date, separator, time, six digits of fraction if there is one, and the offset if known. -/
def isoTextWith (separator : String) (t : Timestamp) : String :=
  let micro := t.timeOfDay.microsecond
  t.dateText ++ separator ++ t.timeText ++
    (if micro = 0 then "" else "." ++ zeroPadded 6 micro) ++
    (t.offset.map offsetText).getD ""

/-- The timestamp in ISO 8601 with a `T` between date and time. -/
def isoText (t : Timestamp) : String := isoTextWith "T" t

/-- The UTC time with milliseconds, the rest cut off, and a final `Z`. -/
def milliText (t : Timestamp) : String :=
  let u := t.toUtc
  u.dateText ++ "T" ++ u.timeText ++ "." ++ zeroPadded 3 (u.timeOfDay.microsecond / 1000) ++ "Z"

/-- The days of the week, from Monday. -/
def weekdayNames : List String := ["Mon", "Tue", "Wed", "Thu", "Fri", "Sat", "Sun"]

/-- The months of the year. -/
def monthNames : List String :=
  ["Jan", "Feb", "Mar", "Apr", "May", "Jun", "Jul", "Aug", "Sep", "Oct", "Nov", "Dec"]

/-- The UTC time as in HTTP headers: `Tue, 01 Jun 2021 12:30:15 GMT`. -/
def httpText (t : Timestamp) : String :=
  let u := t.toUtc
  let d := u.date
  weekdayNames.getD d.weekday "" ++ ", " ++ zeroPadded 2 d.day ++ " " ++
    monthNames.getD (d.month - 1) "" ++ " " ++ zeroPadded 4 d.year.toNat ++ " " ++
    u.timeText ++ " GMT"

end Timestamp

end ServiceClient
