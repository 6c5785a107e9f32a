import ServiceClient.Bytes
import ServiceClient.Text.Case
import ServiceClient.Time.Calendar

/-!
# Tokens of a written date

A date in text falls into words, numbers, blanks and single signs. A number may have a fraction;
dots and commas that do not start a fraction are signs.

* `DateText.tokens`: the tokens of a text.
* `DateText.monthOf?`, `unitOf?`, `halfDayOf?` and their like: what a word says.
* `Numeral.ofToken?`: the number that a token writes.
-/

namespace ServiceClient.DateText

/-- A token. A blank of any kind is the token of one space. -/
abbrev Token := List Char

/-- What a run of characters looks like so far. -/
inductive Shape
  | word
  | number
  | dottedWord
  | dottedNumber
deriving DecidableEq, Repr

/-- The shape of a run that begins with a character, if that character begins one. -/
def Shape.start? (c : Char) : Option Shape :=
  if c.isAlpha then some .word else if c.isDigit then some .number else none

/-- The shape of a run, written backwards, after one more character, if that belongs to it. -/
def Shape.next? (run : List Char) (c : Char) : Shape → Option Shape
  | .word => if c.isAlpha then some .word else if c = '.' then some .dottedWord else none
  | .number =>
    if c.isDigit then some .number
    else if c = '.' ∨ (c = ',' ∧ 2 ≤ run.length) then some .dottedNumber
    else none
  | .dottedWord =>
    if c = '.' ∨ c.isAlpha then some .dottedWord
    else if c.isDigit ∧ run.head? = some '.' then some .dottedNumber
    else none
  | .dottedNumber =>
    if c = '.' ∨ c.isDigit then some .dottedNumber
    else if c.isAlpha ∧ run.head? = some '.' then some .dottedWord
    else none

/-- Dots and commas as tokens of their own, and what stands between them. -/
def splitMarks (s : List Char) : List Token :=
  (s.splitBy fun a b => !([a, b].any fun c => c = '.' || c = ','))

/-- The tokens of a run. A run of dots and digits is one number only if it has one mark, inside;
that mark is then written as a dot. -/
def Shape.tokens (run : List Char) : Shape → List Token
  | .word | .number => [run]
  | .dottedWord | .dottedNumber =>
    if run.any Char.isAlpha ∨ 1 < run.count '.' ∨ [some '.', some ','].contains run.getLast? then
      splitMarks run
    else if run.contains '.' then [run]
    else [run.map fun c => if c = ',' then '.' else c]

/-- The tokens from an open run on. -/
def tokensFrom : Option (Shape × List Char) → List Char → List Token
  | none, [] => []
  | some (shape, run), [] => shape.tokens run.reverse
  | current, c :: rest =>
    let fresh (done : List Token) : List Token :=
      match Shape.start? c with
      | some shape => done ++ tokensFrom (some (shape, [c])) rest
      | none => done ++ (if isBlank c then [' '] else [c]) :: tokensFrom none rest
    match current with
    | none => fresh []
    | some (shape, run) =>
      match shape.next? run c with
      | some shape => tokensFrom (some (shape, c :: run)) rest
      | none => fresh (shape.tokens run.reverse)

/-- The tokens of a text. The character zero is no part of any. -/
def tokens (text : String) : List Token :=
  tokensFrom none (asciiDigits (text.toList.filter (· ≠ '\x00')))

/-- A word in lower case. -/
def word (t : Token) : String := lower (String.ofList t)

/-- The position of the list of names that has a word. -/
def positionIn (names : List (List String)) (t : Token) : Option Nat :=
  names.findIdx? (·.contains (word t))

/-- The month that a word names, from 1. -/
def monthOf? (t : Token) : Option Nat :=
  (positionIn [["jan", "january"], ["feb", "february"], ["mar", "march"], ["apr", "april"],
    ["may"], ["jun", "june"], ["jul", "july"], ["aug", "august"], ["sep", "sept", "september"],
    ["oct", "october"], ["nov", "november"], ["dec", "december"]] t).map (· + 1)

/-- Whether a word names a day of the week. -/
def isWeekday (t : Token) : Bool :=
  ["mon", "monday", "tue", "tuesday", "wed", "wednesday", "thu", "thursday", "fri", "friday",
    "sat", "saturday", "sun", "sunday"].contains (word t)

/-- The unit of time that a word names: hours, minutes or seconds, from 0. -/
def unitOf? : Token → Option Nat :=
  positionIn [["h", "hour", "hours"], ["m", "minute", "minutes"], ["s", "second", "seconds"]]

/-- The half of the day that a word names: 0 before noon, 1 after it. -/
def halfDayOf? : Token → Option Nat := positionIn [["am", "a"], ["pm", "p"]]

/-- Whether a token may stand anywhere without a meaning. -/
def isFiller (t : Token) : Bool :=
  [" ", ".", ",", ";", "-", "/", "'", "at", "on", "and", "ad", "m", "t", "of", "st", "nd", "rd",
    "th"].contains (word t)

/-- Whether a word names universal time. -/
def isUniversal (t : Token) : Bool := ["utc", "gmt", "z"].contains (word t)

/-- Whether a token can be the short name of a zone. -/
def isZoneName (t : Token) : Bool :=
  t.length ≤ 5 && t.all Char.isUpper || t = ['z']

/-- The number that digits write. -/
def natOf? (t : Token) : Option Nat :=
  if t ≠ [] ∧ t.all Char.isDigit then some (Nat.ofDigitChars 10 t 0) else none

/-- A number as it is written: the whole part and the digits of the fraction. -/
structure Numeral where
  whole : Nat
  fraction : List Char
deriving DecidableEq, Repr

namespace Numeral

/-- The number that a token writes, with or without a fraction. -/
def ofToken? (t : Token) : Option Numeral := do
  let whole ← natOf? (t.takeWhile Char.isDigit)
  match t.dropWhile Char.isDigit with
  | [] => some ⟨whole, []⟩
  | c :: fraction =>
    if c = '.' ∧ fraction ≠ [] ∧ fraction.all Char.isDigit then some ⟨whole, fraction⟩ else none

/-- Whether the number is no whole number. -/
def hasFraction (n : Numeral) : Bool := n.fraction.any (· ≠ '0')

/-- The whole sixtieths in the fraction, if there is a fraction. -/
def sixtieths? (n : Numeral) : Option Nat :=
  if n.hasFraction then
    some (60 * Nat.ofDigitChars 10 n.fraction 0 / 10 ^ n.fraction.length)
  else none

/-- The fraction in millionths; digits past the sixth are cut off. -/
def millionths (n : Numeral) : Nat :=
  let kept := n.fraction.take 6
  Nat.ofDigitChars 10 kept 0 * 10 ^ (6 - kept.length)

end Numeral

end ServiceClient.DateText
