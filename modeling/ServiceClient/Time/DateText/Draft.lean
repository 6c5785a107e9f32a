import ServiceClient.Time.DateText.Token

/-!
# Dates as far as they are read

The numbers of a date stand in the order of their writing, and only some show their part: a
month is a name, a year has more than two digits or is above a hundred. The others are told
apart by size and place.

* `Draft`: what has been read.
* `Draft.addDigits?`, `addNumeral?`, `addMonth?`: one more number of the date.
* `resolve?`: year, month and day of the numbers.
-/

namespace ServiceClient.DateText

/-- The part of a date that a number is by itself. -/
inductive Role
  | year
  | month
deriving DecidableEq, Repr

/-- A number of a date. -/
structure Entry where
  value : Nat
  role : Option Role
deriving DecidableEq, Repr

/-- What has been read of a date. -/
structure Draft where
  entries : List Entry := []
  /-- Whether a year is written with its century. -/
  hasCentury : Bool := false
  hour : Option Nat := none
  minute : Option Nat := none
  second : Option Nat := none
  microsecond : Option Nat := none
  zone : Option Token := none
  /-- Seconds ahead of UTC. -/
  offset : Option Int := none
  /-- Whether a weekday or a half of the day is named. -/
  hasWord : Bool := false
deriving DecidableEq, Repr

namespace Draft

/-- Whether nothing has been read. -/
def isEmpty (d : Draft) : Bool :=
  d.entries.isEmpty && d.hour.isNone && d.minute.isNone && d.second.isNone &&
    d.microsecond.isNone && d.zone.isNone && d.offset.isNone && !d.hasWord

/-- One more number; a part of the date has one number only. -/
def add? (d : Draft) (value : Nat) (role : Option Role) : Option Draft :=
  if role.isSome ∧ d.entries.any (·.role = role) then none
  else
    some { d with
      entries := d.entries ++ [⟨value, role⟩]
      hasCentury := d.hasCentury || role = some .year }

/-- One more number by its digits: more than two are a year. -/
def addDigits? (d : Draft) (t : Token) : Option Draft := do
  d.add? (← natOf? t) (if 2 < t.length then some .year else none)

/-- One more number by its value: above a hundred it is a year. -/
def addNumeral? (d : Draft) (n : Numeral) : Option Draft :=
  d.add? n.whole (if 100 < n.whole ∨ (n.whole = 100 ∧ n.hasFraction) then some .year else none)

def addMonth? (d : Draft) (month : Nat) : Option Draft := d.add? month (some .month)

/-- A month by name or any number by its digits. -/
def addPart? (d : Draft) (t : Token) : Option Draft :=
  match monthOf? t with
  | some month => d.addMonth? month
  | none => d.addDigits? t

/-- The value of the number with a role. -/
def valueOf? (d : Draft) (role : Role) : Option Nat :=
  (d.entries.find? (·.role = some role)).map (·.value)

/-- Whether a number can be the day beside the month and year that are known. -/
def couldBeDay (d : Draft) (n : Numeral) : Bool :=
  let last :=
    match d.valueOf? .month, d.valueOf? .year with
    | none, _ => 31
    | some month, none => daysInMonth 2000 month
    | some month, some year => daysInMonth year month
  1 ≤ n.whole && (n.whole < last || (n.whole = last && !n.hasFraction))

/-- Hours on the clock of twelve: noon is 12 in the second half, midnight 12 in the first. -/
def hourInHalf (half hour : Nat) : Nat :=
  if hour < 12 ∧ half = 1 then hour + 12 else if hour = 12 ∧ half = 0 then 0 else hour

/-- Whole seconds and the fraction of a second. -/
def setSeconds (d : Draft) (n : Numeral) : Draft :=
  { d with second := some n.whole, microsecond := some n.millionths }

/-- Whole minutes, with the fraction of a minute as seconds. -/
def setMinutes (d : Draft) (n : Numeral) : Draft :=
  { d with minute := some n.whole, second := n.sixtieths? }

/-- Whole hours, with the fraction of an hour as minutes. -/
def setHours (d : Draft) (n : Numeral) : Draft :=
  { d with hour := some n.whole, minute := n.sixtieths?.orElse fun _ => d.minute }

end Draft

/-- Year, month and day, each if it is known. -/
structure Partial where
  year : Option Nat
  month : Option Nat
  day : Option Nat
deriving DecidableEq, Repr

/-- The parts of numbers that stand in a known order of roles. -/
def Partial.ofRoles (entries : List Entry) : Partial :=
  let valueOf (role : Option Role) := (entries.find? (·.role = role)).map (·.value)
  ⟨valueOf (some .year), valueOf (some .month), valueOf none⟩

/-- The parts of three numbers of which at most one has a role. -/
def resolveThree (a b c : Entry) : Partial :=
  let parts (year month day : Entry) : Partial :=
    ⟨some year.value, some month.value, some day.value⟩
  if a.role = some .month then (if 31 < b.value then parts b a c else parts c a b)
  else if b.role = some .month then (if 31 < a.value then parts a b c else parts c b a)
  else if c.role = some .month then (if 31 < b.value then parts b c a else parts a c b)
  else if 31 < a.value ∨ a.role = some .year then parts a b c
  else if 12 < a.value then parts c b a
  else parts c a b

/-- The parts of two numbers of which at most one has a role. -/
def resolveTwo (a b : Entry) : Partial :=
  let withMonth (month other : Entry) : Partial :=
    if 31 < other.value then ⟨some other.value, some month.value, none⟩
    else ⟨none, some month.value, some other.value⟩
  if a.role = some .month then withMonth a b
  else if b.role = some .month then withMonth b a
  else if 31 < a.value then ⟨some a.value, some b.value, none⟩
  else if 31 < b.value then ⟨some b.value, some a.value, none⟩
  else ⟨none, some a.value, some b.value⟩

/-- The parts of the numbers of a date; none for more than three numbers. -/
def resolve? (entries : List Entry) : Option Partial :=
  let known := entries.countP (·.role.isSome)
  if (entries.length = known ∧ 0 < known) ∨ (entries.length = 3 ∧ known = 2) then
    some (.ofRoles entries)
  else
    match entries with
    | [] => some ⟨none, none, none⟩
    | [a] => some (if 31 < a.value then ⟨some a.value, none, none⟩ else ⟨none, none, some a.value⟩)
    | [a, b] => some (resolveTwo a b)
    | [a, b, c] => some (resolveThree a b c)
    | _ => none

end ServiceClient.DateText
