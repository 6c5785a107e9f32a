import ServiceClient.Value

/-!
# Internet timestamps

The text form `YYYY-MM-DDTHH:MM:SS` with an optional fraction and a zone that is `Z` or an
offset in hours and minutes.

* `Timestamp.ofInternetText?`: reads the form.
* `Timestamp.ofEpochSeconds?`: the UTC timestamp of a number of seconds.
-/

namespace ServiceClient

/-- A number of exactly `width` digits at the front. -/
def fixedDigits? (width : Nat) (s : List Char) : Option (Nat × List Char) :=
  let taken := s.take width
  if taken.length = width && taken.all Char.isDigit then
    some (Nat.ofDigitChars 10 taken 0, s.drop width)
  else none

/-- Drops one given character from the front. -/
def expectChar? (c : Char) : List Char → Option (List Char)
  | d :: rest => if c = d then some rest else none
  | [] => none

/-- The microseconds that a fraction's digits mean; digits past the sixth are cut off. -/
def microsecondsOfFraction (digits : List Char) : Nat :=
  let kept := digits.take 6
  Nat.ofDigitChars 10 kept 0 * 10 ^ (6 - kept.length)

namespace Timestamp

/-- The timestamp with the given parts, if date and time exist. -/
def ofParts? (date : Date) (time : TimeOfDay) (offset : Option Int) : Option Timestamp :=
  if date.isValid && time.hour < 24 && time.minute < 60 && time.second < 60 then
    some (ofParts date time offset)
  else none

/-- The fraction of a second, if there is one. -/
def readFraction (s : List Char) : Option (Nat × List Char) :=
  match s with
  | '.' :: rest =>
    let digits := rest.takeWhile Char.isDigit
    if digits.isEmpty then none
    else some (microsecondsOfFraction digits, rest.dropWhile Char.isDigit)
  | _ => some (0, s)

/-- An offset in hours and minutes, or `Z`, up to the end of the text. -/
def readZone (s : List Char) : Option Int :=
  match s with
  | ['Z'] => some 0
  | c :: rest => do
    let sign : Int ← if c = '+' then some 1 else if c = '-' then some (-1) else none
    let (h, rest) ← fixedDigits? 2 rest
    let rest ← expectChar? ':' rest
    let (m, rest) ← fixedDigits? 2 rest
    if rest.isEmpty then some (sign * (h * 3600 + m * 60)) else none
  | [] => none

/-- Reads an Internet timestamp. -/
def ofInternetText? (text : String) : Option Timestamp := do
  let (year, s) ← fixedDigits? 4 text.toList
  let s ← expectChar? '-' s
  let (month, s) ← fixedDigits? 2 s
  let s ← expectChar? '-' s
  let (day, s) ← fixedDigits? 2 s
  let s ← expectChar? 'T' s
  let (hour, s) ← fixedDigits? 2 s
  let s ← expectChar? ':' s
  let (minute, s) ← fixedDigits? 2 s
  let s ← expectChar? ':' s
  let (second, s) ← fixedDigits? 2 s
  let (micro, s) ← readFraction s
  let offset ← readZone s
  ofParts? ⟨year, month, day⟩ ⟨hour, minute, second, micro⟩ (some offset)

/-- The UTC timestamp of an instant if its year has one to four digits. -/
def ofInstant? (microseconds : Int) : Option Timestamp :=
  let t := ofInstant microseconds
  if t.inRange then some t else none

/-- The UTC timestamp of a number of seconds, rounded to microseconds, a tie to even. -/
def ofEpochSeconds? (v : Value) : Option Timestamp := do
  let (num, den) ← v.ratio?
  ofInstant? (roundIntQuotient (num * 1000000) den)

end Timestamp

end ServiceClient
