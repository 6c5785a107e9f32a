import ServiceClient.Text.Charset
import ServiceClient.Time.DateText.Draft
import ServiceClient.Time.Timestamp

/-!
# Dates in text

Reads a date as people and services write it: numbers with separators or without, names of
months and weekdays, times with colons or units, zones by name or offset. Time and zone may be
missing; a date without a zone keeps an unknown offset.

* `DateText.read`: the timestamp of a text, or what is wrong with it.
* `DateFault.message`: the wording.
-/

namespace ServiceClient

/-- What is wrong with a date. -/
inductive DateFault
  | unknownFormat
  | noDate
  | year (n : Nat)
  | month
  /-- A month that does not exist, of which the last day is asked for. -/
  | monthNumber (n : Nat)
  | day
  | hour
  | minute
  | second
  /-- A number that no part of a date can hold. -/
  | huge
  /-- The bytes are no UTF-8. -/
  | undecodable (fault : DecodeError)
  /-- The value is no text at all. -/
  | notText (className : String)
deriving DecidableEq, Repr

/-- The wording, for a date that is shown as `shown`. -/
def DateFault.message (shown : String) : DateFault → String
  | .unknownFormat => "Unknown string format: " ++ shown
  | .noDate => "String does not contain a date: " ++ shown
  | .year n => "year " ++ toString n ++ " is out of range: " ++ shown
  | .month => "month must be in 1..12: " ++ shown
  | .monthNumber n => "bad month number " ++ toString n ++ "; must be 1-12: " ++ shown
  | .day => "day is out of range for month: " ++ shown
  | .hour => "hour must be in 0..23: " ++ shown
  | .minute => "minute must be in 0..59: " ++ shown
  | .second => "second must be in 0..59: " ++ shown
  | .huge => "signed integer is greater than maximum"
  | .undecodable fault => fault.message
  | .notText name => "Parser must be a string or character stream, not " ++ name

namespace DateText

/-- The unit that a number at some place is counted in, with the tokens after it: the unit
stands behind the number, or else the unit before the number tells the next smaller one. -/
def unitAround? (before after : List Token) : Option (Nat × List Token) :=
  match after.head? >>= unitOf? with
  | some unit => some (unit, after.drop 1)
  | none =>
    match after with
    | [' '] :: t :: rest =>
      match unitOf? t with
      | some unit => some (unit, rest)
      | none => (before.head? >>= unitOf?).map fun unit => (unit + 1, after)
    | _ =>
      match before.head? >>= unitOf?, before, after with
      | some unit, _, _ => some (unit + 1, after)
      | none, [' '] :: t :: _, [] => (unitOf? t).map fun unit => (unit + 1, after)
      | none, _, _ => none

/-- A number counted in a unit. -/
def assign (unit : Nat) (n : Numeral) (d : Draft) : Draft :=
  match unit with
  | 0 => d.setHours n
  | 1 => d.setMinutes n
  | 2 => d.setSeconds n
  | _ => d

/-- Seconds that are digits with or without a fraction. -/
def readSeconds? (t : Token) (d : Draft) : Option Draft :=
  (Numeral.ofToken? t).map d.setSeconds

/-- A date after its first number and a separator. -/
def readSeparated? (separator first : Token) (after : List Token) (d : Draft) :
    Option (List Token × Draft) := do
  let d ← d.addDigits? first
  match after with
  | [] => return ([], d)
  | t :: rest =>
    if isFiller t then return (after, d)
    else
      let d ← d.addPart? t
      match rest with
      | [] => return ([], d)
      | s :: rest' =>
        if s = separator then
          match rest' with
          | [] => none
          | u :: rest'' => return (rest'', ← d.addPart? u)
        else return (rest, d)

/-- A time after its hours and a colon. -/
def readClock? (hours : Numeral) (minutes : Token) (after : List Token) (d : Draft) :
    Option (List Token × Draft) := do
  let d := { d with hour := some hours.whole }.setMinutes (← Numeral.ofToken? minutes)
  match after with
  | [':'] :: seconds :: rest => return (rest, ← readSeconds? seconds d)
  | _ => return (after, d)

/-- A number by what stands around it. -/
def readAmong? (before : List Token) (t : Token) (n : Numeral) (after : List Token) (d : Draft) :
    Option (List Token × Draft) :=
  match unitAround? before after with
  | some (unit, rest) => some (rest, assign unit n d)
  | none =>
    match after with
    | [] => (d.addNumeral? n).map fun d => ([], d)
    | s :: rest =>
      if s = [':'] ∧ rest ≠ [] then readClock? n (rest.headD []) (rest.drop 1) d
      else if s = ['-'] ∨ s = ['/'] ∨ s = ['.'] then readSeparated? s t rest d
      else if isFiller s then
        match rest.head? >>= halfDayOf? with
        | some half => some (rest.drop 1, { d with hour := some (Draft.hourInHalf half n.whole) })
        | none => (d.addNumeral? n).map fun d => (rest, d)
      else
        match halfDayOf? s with
        | some half =>
          if n.whole < 24 then
            some (rest, { d with hour := some (Draft.hourInHalf half n.whole) })
          else if d.couldBeDay n then (d.addNumeral? n).map fun d => (after, d)
          else none
        | none =>
          if d.couldBeDay n then (d.addNumeral? n).map fun d => (after, d) else none

/-- Whether no colon and no unit follows a number. -/
def standsAlone (after : List Token) : Bool :=
  after.head?.all fun s => s ≠ [':'] && (unitOf? s).isNone

/-- A number: behind a date two or four digits are a time, six are a date or a time, and eight,
twelve or fourteen a date with or without a time. -/
def readNumber? (before : List Token) (t : Token) (n : Numeral) (after : List Token) (d : Draft) :
    Option (List Token × Draft) := do
  if d.entries.length = 3 ∧ (t.length = 2 ∨ t.length = 4) ∧ d.hour.isNone ∧ standsAlone after then
    let hour ← natOf? (t.take 2)
    if t.length = 4 then
      return (after, { d with hour := hour, minute := some (← natOf? (t.drop 2)) })
    else return (after, { d with hour := hour })
  else if t.length = 6 ∨ (6 < t.length ∧ t.findIdx? (· = '.') = some 6) then
    if d.entries.isEmpty ∧ ¬ t.contains '.' then
      let d ← d.addDigits? (t.take 2)
      let d ← d.addDigits? ((t.drop 2).take 2)
      return (after, ← d.addDigits? (t.drop 4))
    else
      let hour ← natOf? (t.take 2)
      let minute ← natOf? ((t.drop 2).take 2)
      let d := { d with hour := some hour, minute := some minute }
      return (after, ← readSeconds? (t.drop 4) d)
  else if t.length = 8 ∨ t.length = 12 ∨ t.length = 14 then
    let d ← d.addDigits? (t.take 4)
    let d ← d.addDigits? ((t.drop 4).take 2)
    let d ← d.addDigits? ((t.drop 6).take 2)
    if t.length = 8 then return (after, d)
    else
      let hour ← natOf? ((t.drop 8).take 2)
      let minute ← natOf? ((t.drop 10).take 2)
      let d := { d with hour := some hour, minute := some minute }
      if t.length = 12 then return (after, d)
      else return (after, { d with second := some (← natOf? (t.drop 12)) })
  else readAmong? before t n after d

/-- The year that two digits mean: the one of this century or its neighbours that lies within
fifty years of the reference year. -/
def nearYear (reference year : Nat) : Nat :=
  let near := reference / 100 * 100 + year
  if reference + 50 ≤ near then near - 100
  else if near + 50 < reference then near + 100
  else near

/-- The date whose parts stand in for those that a text leaves out. -/
def reference : Date := ⟨2026, 1, 1⟩

/-- A month by name, and the numbers that are tied to it by a separator or by a word. -/
def readMonth? (month : Nat) (after : List Token) (d : Draft) : Option (List Token × Draft) := do
  let d ← d.addMonth? month
  match after with
  | [' '] :: p :: [' '] :: y :: rest =>
    match natOf? y with
    | some year =>
      if word p = "of" then
        let year := if year < 100 then nearYear reference.year.toNat year else year
        return (rest, ← d.addDigits? (toString year).toList)
      else return (after, d)
    | none => return (after, d)
  | s :: rest =>
    if s = ['-'] ∨ s = ['/'] then
      let d ← d.addDigits? (← rest.head?)
      match rest.drop 1 with
      | [] => return ([], d)
      | s' :: rest' =>
        if s' = s then return (rest'.drop 1, ← d.addDigits? (← rest'.head?))
        else return (s' :: rest', d)
    else return (after, d)
  | [] => return ([], d)

/-- Whether a token can name the zone of what has been read. -/
def couldBeZone (d : Draft) (t : Token) : Bool :=
  d.hour.isSome && d.zone.isNone && d.offset.isNone && isZoneName t

/-- The name of a zone. In a name with an offset, such as `GMT+3`, the sign tells how far UTC is
from the zone. -/
def readZoneName (t : Token) (after : List Token) (d : Draft) : List Token × Draft :=
  let flipped (sign : Token) (rest : List Token) : List Token × Draft :=
    (sign :: rest, { d with zone := if isUniversal t then none else some t })
  match after with
  | ['+'] :: rest => flipped ['-'] rest
  | ['-'] :: rest => flipped ['+'] rest
  | _ => (after, { d with zone := some t, offset := if t = ['z'] then some 0 else none })

/-- An offset after its sign, and the name of its zone in brackets if there is one. -/
def readOffset? (sign : Int) (after : List Token) (d : Draft) : Option (List Token × Draft) := do
  let t ← after.head?
  let rest := after.drop 1
  let (hours, minutes, rest) ←
    if t.length = 4 then
      pure (← natOf? (t.take 2), ← natOf? (t.drop 2), rest)
    else if rest.head? = some [':'] then
      pure (← natOf? t, ← natOf? (← (rest.drop 1).head?), rest.drop 2)
    else if t.length ≤ 2 then
      pure (← natOf? t, 0, rest)
    else none
  let seconds : Int := sign * (hours * 3600 + minutes * 60)
  match rest with
  | filler :: ['('] :: name :: [')'] :: rest' =>
    if isFiller filler ∧ 3 ≤ name.length ∧ couldBeZone { d with offset := none } name then
      return (rest', { d with offset := some seconds, zone := some name })
    else return (rest, { d with offset := some seconds })
  | _ => return (rest, { d with offset := some seconds })

/-- One token with the tokens before it, the nearest first, and after it: the tokens that remain
and what is read then. -/
def readToken? (before : List Token) (t : Token) (after : List Token) (d : Draft) :
    Option (List Token × Draft) :=
  match Numeral.ofToken? t with
  | some n => readNumber? before t n after d
  | none =>
    if isWeekday t then some (after, { d with hasWord := true })
    else
      match monthOf? t, halfDayOf? t with
      | some month, _ => readMonth? month after d
      | none, some half =>
        match d.hour with
        | some hour =>
          if hour ≤ 12 then
            some (after, { d with hour := some (Draft.hourInHalf half hour), hasWord := true })
          else none
        | none => none
      | none, none =>
        if couldBeZone d t then some (readZoneName t after d)
        else if d.hour.isSome ∧ t = ['+'] then readOffset? 1 after d
        else if d.hour.isSome ∧ t = ['-'] then readOffset? (-1) after d
        else if isFiller t then some (after, d)
        else none

/-- All tokens, by steps that each take one or more. The number bounds the steps. -/
def readTokens? : Nat → List Token → List Token → Draft → Option Draft
  | _, _, [], d => some d
  | 0, _, _ :: _, _ => none
  | fuel + 1, before, t :: after, d => do
    let (rest, d) ← readToken? before t after d
    let taken := after.take (after.length - rest.length)
    readTokens? fuel (taken.reverse ++ t :: before) rest d

/-- The offset that a zone and a written offset mean together: a name of universal time outdoes
an offset, and a zone of any other name is unknown by itself. -/
def offsetOf (d : Draft) : Option Int :=
  match d.zone with
  | some zone => if isUniversal zone then some 0 else d.offset
  | none => d.offset

/-- The timestamp of what has been read, if its parts exist. -/
def complete (d : Draft) (parts : Partial) : Except DateFault Timestamp :=
  let year := match parts.year with
    | some year => if year < 100 ∧ !d.hasCentury then nearYear reference.year.toNat year else year
    | none => reference.year.toNat
  let month := parts.month.getD reference.month
  let day := parts.day.getD reference.day
  let time : TimeOfDay :=
    ⟨d.hour.getD 0, d.minute.getD 0, d.second.getD 0, d.microsecond.getD 0⟩
  if parts.day.isNone ∧ (month < 1 ∨ 12 < month) then .error (.monthNumber month)
  else if [year, month, day, time.hour, time.minute, time.second].any (2 ^ 31 ≤ ·) then
    .error .huge
  else if year < 1 ∨ 9999 < year then .error (.year year)
  else if month < 1 ∨ 12 < month then .error .month
  else if day < 1 ∨ daysInMonth year month < day then .error .day
  else if 24 ≤ time.hour then .error .hour
  else if 60 ≤ time.minute then .error .minute
  else if 60 ≤ time.second then .error .second
  else .ok (Timestamp.ofParts ⟨year, month, day⟩ time (offsetOf d))

/-- The timestamp that a text writes. -/
def read (text : String) : Except DateFault Timestamp :=
  let ts := tokens text
  match readTokens? ts.length [] ts {} with
  | none => .error .unknownFormat
  | some d =>
    match resolve? d.entries with
    | none => .error .unknownFormat
    | some parts => if d.isEmpty then .error .noDate else complete d parts

end DateText

end ServiceClient
