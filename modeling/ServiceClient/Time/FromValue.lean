import ServiceClient.Time.DateText.Read
import ServiceClient.Time.InternetText
import ServiceClient.ValueText

/-!
# Timestamps from values

A service sends a timestamp as a number of seconds or milliseconds, or as text.

* `Timestamp.ofSeconds`: numbers and numeric text are seconds since 1970, other text a date.
* `Timestamp.ofMilliseconds?`: a number of milliseconds since 1970.
* `TimestampFault.message`: the wording of a refusal.
-/

namespace ServiceClient

/-- Why a value is no timestamp. -/
inductive TimestampFault
  /-- The value, as it is shown, is no date. -/
  | invalid (shown : String) (fault : DateFault)
  /-- The instant lies outside of the years 1 to 9999. -/
  | yearRange (year : Int)
  | notANumber
  /-- A number of seconds, as it is shown, that no clock can hold. -/
  | unreachable (shown : String)
  | nanMilliseconds
  | infiniteMilliseconds
  | hugeMilliseconds
  /-- More days than a duration can have. -/
  | longDuration (days : Int)
  /-- A number of milliseconds outside of the years 1 to 9999. -/
  | outOfRange
  /-- Seconds that are too many for a double. -/
  | hugeSeconds
  /-- The value cannot be shown, since an integer in it is too long. -/
  | longInteger
deriving DecidableEq, Repr

def TimestampFault.message : TimestampFault → String
  | .invalid shown fault => "Invalid timestamp \"" ++ shown ++ "\": " ++ fault.message shown
  | .yearRange year => "year " ++ toString year ++ " is out of range"
  | .notANumber => "Invalid value NaN (not a number)"
  | .unreachable shown =>
    "Unable to calculate correct timezone offset for \"" ++ shown ++ "\""
  | .nanMilliseconds => "cannot convert float NaN to integer"
  | .infiniteMilliseconds => "cannot convert float infinity to integer"
  | .hugeMilliseconds => "Python int too large to convert to C int"
  | .longDuration days =>
    "days=" ++ toString days ++ "; must have magnitude <= 999999999"
  | .outOfRange => "date value out of range"
  | .hugeSeconds => "int too large to convert to float"
  | .longInteger => longIntegerText

/-- The fault of a value, as it is shown, whose text is no date. -/
def TimestampFault.ofDate (shown : String) : DateFault → TimestampFault
  | .huge => .unreachable shown
  | fault => .invalid shown fault

/-- A fault that shows the value. -/
def TimestampFault.showing (v : Value) (fault : String → TimestampFault) : TimestampFault :=
  match v.display? with
  | some shown => fault shown.replaced
  | none => .longInteger

namespace Timestamp

/-- The outcome of reading seconds: a timestamp, a year that has none, or no instant at all. -/
inductive Seconds
  | timestamp (t : Timestamp)
  | year (y : Int)
  | nan
  | unreachable

/-- The largest distance of a calendar year from 1900 that clocks can hold. -/
def maxYearDistance : Int := 2 ^ 31

/-- The outcome for an instant in microseconds. -/
def classify (microseconds : Int) : Seconds :=
  match ofInstant? microseconds with
  | some t => .timestamp t
  | none =>
    let year := (Date.ofDays (microseconds / microsecondsPerDay)).year
    if -maxYearDistance ≤ year - 1900 ∧ year - 1900 < maxYearDistance then .year year
    else .unreachable

/-- The microseconds of a finite number of units, `scale` microseconds each: whole units count
exactly, the fraction as a double product, and a tie goes to the even microsecond. -/
def microsecondsOf (scale : Nat) (d : Double) : Int :=
  let (num, den) := d.ratio
  let part := Double.ofRatio false (num % den * scale) den
  let (pnum, pden) := part.ratio
  let whole := num / den * scale
  let n := roundQuotient (whole * pden + pnum) pden
  if d.isNegative then -(n : Int) else n

/-- The outcome for a double number of seconds. -/
def ofDouble (d : Double) : Seconds :=
  if d.isNaN then .nan
  else if d.isInfinite then .unreachable
  else classify (microsecondsOf 1000000 d)

/-- Reads a text or a number that stands for seconds. -/
def secondsOf? (v : Value) : Option Seconds :=
  match v with
  | .text s => (Double.ofChars? (trimChars s.toList)).map ofDouble
  | .loose t => (Double.ofChars? (trimChars t.text.replaced.toList)).map ofDouble
  | .bytes _ s => (Double.ofChars? (trimChars (s.map fun b => Char.ofNat b.toNat))).map ofDouble
  | .decimal d => some (ofDouble d.toDouble)
  | _ => none

/-- Reads a date from a text or from the text of bytes. A surrogate is a sign of no meaning, as
its mark is. -/
def dateOf (origin : Value.Origin) (v : Value) : Except DateFault Timestamp :=
  match v with
  | .text s => DateText.read s
  | .loose t => DateText.read t.text.replaced
  | .bytes .view _ => .error (.notText (v.className origin))
  | .bytes _ s =>
    match Utf8.decode s with
    | .ok t => DateText.read t
    | .error fault => .error (.undecodable fault)
  | v => .error (.notText (v.className origin))

/-- A timestamp from seconds since 1970 or from a date. Text that is a number without an
instant is tried as a date. -/
def ofSeconds (origin : Value.Origin) (v : Value) : Except TimestampFault Timestamp :=
  let asDate : Except TimestampFault Timestamp :=
    (dateOf origin v).mapError fun fault => .showing v (.ofDate · fault)
  let direct (s : Seconds) : Except TimestampFault Timestamp :=
    match s with
    | .timestamp t => .ok t
    | .year y => .error (.yearRange y)
    | .nan => .error .notANumber
    | .unreachable => .error (.showing v .unreachable)
  match v with
  | .timestamp t => .ok t
  | .bool b => direct (classify (if b then 1000000 else 0))
  | .int n =>
    if (Double.ofInt n).isInfinite then .error .hugeSeconds
    else direct (classify (n * 1000000))
  | .double d => direct (ofDouble d)
  | v =>
    match secondsOf? v with
    | none => asDate
    | some (.timestamp t) => .ok t
    | some .unreachable => .error (.showing v .unreachable)
    | some _ => asDate

/-- A timestamp from an instant in microseconds, in which days are counted as a duration
first. -/
def ofDuration (microseconds : Int) : Except TimestampFault Timestamp :=
  let days := microseconds / microsecondsPerDay
  if days < -(2 ^ 31) ∨ 2 ^ 31 ≤ days then .error .hugeMilliseconds
  else if days < -999999999 ∨ 999999999 < days then .error (.longDuration days)
  else
    match ofInstant? microseconds with
    | some t => .ok t
    | none => .error .outOfRange

/-- A timestamp from milliseconds since 1970; none for a value that is no number. -/
def ofMilliseconds? (v : Value) : Option (Except TimestampFault Timestamp) :=
  match v with
  | .bool b => some (ofDuration (if b then 1000 else 0))
  | .int n => some (ofDuration (n * 1000))
  | .double d =>
    some (if d.isNaN then .error .nanMilliseconds
      else if d.isInfinite then .error .infiniteMilliseconds
      else ofDuration (microsecondsOf 1000 d))
  | _ => none

end Timestamp

end ServiceClient
