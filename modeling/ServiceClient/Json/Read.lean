import ServiceClient.ValueText

/-!
# Reading JSON

A JSON text as a value. Besides the grammar the reader takes the words `NaN`, `Infinity` and
`-Infinity`. A repeated key keeps its first place and its last value. There is no limit to the
nesting of a text. The escape of a surrogate that is no half of a pair is a code point of its own,
as is a surrogate that stands in the text itself. The reader goes over characters; a text with
surrogates is read with marks in their places, and `Surrogates` says what stands there.

* `Json.read`: the value of a whole text.
* `Json.readString`: the code points of a string.
* `Json.Error.message`: what is wrong, with line, column and character.
-/

namespace ServiceClient.Json

/-- What is wrong with a text. -/
inductive Reason
  | expectingValue
  | expectingName
  | expectingColon
  | expectingComma
  | unterminatedString
  | invalidEscape
  | invalidUnicodeEscape
  | controlCharacter
  | extraData
  | byteOrderMark
  /-- An integer with so many digits. -/
  | longInteger (digits : Nat)
deriving DecidableEq, Repr

/-- A refusal: the reason, and how many characters were left where it arose. -/
structure Stop where
  reason : Reason
  left : Nat
deriving DecidableEq, Repr

/-- Stops in front of `s`. -/
def stop (reason : Reason) (s : List Char) : Except Stop α := .error ⟨reason, s.length⟩

/-- The four blanks of JSON. -/
def isSpace (c : Char) : Bool := c = ' ' || c = '\t' || c = '\n' || c = '\r'

def skipSpace (s : List Char) : List Char := s.dropWhile isSpace

/-- Four hexadecimal digits that are not the end of the text. -/
def readUnit? (s : List Char) : Option (Nat × List Char) :=
  match s with
  | a :: b :: c :: d :: e :: rest =>
    match hexValue? a, hexValue? b, hexValue? c, hexValue? d with
    | some a, some b, some c, some d => some (((a * 16 + b) * 16 + c) * 16 + d, e :: rest)
    | _, _, _, _ => none
  | _ => none

/-- The character of an escape with one letter. -/
def simpleEscape? (c : Char) : Option Char :=
  if c = '"' ∨ c = '\\' ∨ c = '/' then some c
  else if c = 'b' then some (Char.ofNat 8)
  else if c = 'f' then some (Char.ofNat 12)
  else if c = 'n' then some '\n'
  else if c = 'r' then some '\r'
  else if c = 't' then some '\t'
  else none

/-- The code point of a high and a low surrogate. -/
def joinSurrogates (high low : Nat) : Nat := 0x10000 + (high - 0xD800) * 1024 + (low - 0xDC00)

def isHighSurrogate (n : Nat) : Bool := 0xD800 ≤ n && n < 0xDC00

def isLowSurrogate (n : Nat) : Bool := 0xDC00 ≤ n && n < 0xE000

/-- The rest of a text that starts with the escape of a code unit, behind its `u`; `mark` is
the text from the `u` on. Two escapes of a surrogate pair are one character, and the escape of
any other surrogate is that surrogate. -/
def readUnicode (mark s : List Char) : Except Stop (CodePoint × List Char) :=
  match readUnit? s with
  | none => stop .invalidUnicodeEscape mark
  | some (n, rest) =>
    if isHighSurrogate n then
      match rest with
      | '\\' :: 'u' :: tail =>
        if tail.length ≤ 4 then .ok (.ofNat n, rest)
        else
          match readUnit? tail with
          | none => stop .invalidUnicodeEscape ('u' :: tail)
          | some (m, after) =>
            if isLowSurrogate m then .ok (.ofNat (joinSurrogates n m), after)
            else .ok (.ofNat n, rest)
      | _ => .ok (.ofNat n, rest)
    else .ok (.ofNat n, rest)

/-- The surrogates of a text by the characters behind each of them. -/
abbrev Surrogates := List Char → Option (Fin 2048)

/-- The surrogates of a string: there are none. -/
def Surrogates.empty : Surrogates := fun _ => none

/-- The surrogates of a text. -/
def surrogatesOf (t : Text) : Surrogates :=
  match t.string? with
  | some _ => .empty
  | none =>
    let backwards := t.points.reverse
    fun after => match backwards[after.length]? with
      | some (.surrogate n) => some n
      | _ => none

@[simp] theorem surrogatesOf_ofString (s : String) : surrogatesOf (Text.ofString s) = .empty := by
  unfold surrogatesOf
  rw [Text.string?_ofString]

/-- A character of the text, or the surrogate that it is the mark of. -/
def pointAt (raw : Surrogates) (c : Char) (after : List Char) : CodePoint :=
  match raw after with
  | some n => .surrogate n
  | none => .char c

@[simp] theorem pointAt_empty (c : Char) (after : List Char) :
    pointAt .empty c after = .char c := rfl

/-- The rest of a string behind its opening quote; `start` is the text from that quote on. -/
def readString (raw : Surrogates) (start : List Char) :
    Nat → List Char → Except Stop (List CodePoint × List Char)
  | 0, _ => stop .unterminatedString start
  | _ + 1, [] => stop .unterminatedString start
  | fuel + 1, c :: rest =>
    if c = '"' then .ok ([], rest)
    else if c = '\\' then
      match rest with
      | [] => stop .unterminatedString start
      | 'u' :: tail => do
        let (d, after) ← readUnicode rest tail
        let (ds, after) ← readString raw start fuel after
        return (d :: ds, after)
      | e :: tail =>
        match simpleEscape? e with
        | none => stop .invalidEscape (c :: rest)
        | some d => do
          let (ds, after) ← readString raw start fuel tail
          return (.char d :: ds, after)
    else if c.toNat < 32 then stop .controlCharacter (c :: rest)
    else do
      let (ds, after) ← readString raw start fuel rest
      return (pointAt raw c rest :: ds, after)

/-- The digits of a fraction, with at least one behind the point. -/
def readFraction (s : List Char) : Option (List Char) × List Char :=
  match s with
  | '.' :: d :: rest =>
    if d.isDigit then (some (d :: rest.takeWhile Char.isDigit), rest.dropWhile Char.isDigit)
    else (none, s)
  | _ => (none, s)

/-- The exponent, with at least one digit. -/
def readExponent (s : List Char) : Option Int × List Char :=
  match s with
  | c :: rest =>
    if c = 'e' ∨ c = 'E' then
      let (down, digits) := ScientificText.signed rest
      let taken := digits.takeWhile Char.isDigit
      if taken.isEmpty then (none, s)
      else
        let n : Int := Nat.ofDigitChars 10 taken 0
        (some (if down then -n else n), digits.dropWhile Char.isDigit)
    else (none, s)
  | [] => (none, s)

/-- The whole part of a number: a zero, or digits that do not start with one. -/
def readWhole (s : List Char) : Option (List Char × List Char) :=
  match s with
  | '0' :: rest => some (['0'], rest)
  | c :: rest =>
    if c.isDigit then some (c :: rest.takeWhile Char.isDigit, rest.dropWhile Char.isDigit)
    else none
  | [] => none

/-- A number: an integer unless it has a fraction or an exponent. -/
def readNumber (s : List Char) : Except Stop (Value × List Char) :=
  let (negative, body) := match s with
    | '-' :: rest => (true, rest)
    | _ => (false, s)
  match readWhole body with
  | none => stop .expectingValue s
  | some (whole, rest) =>
    let (fraction, rest) := readFraction rest
    let (exponent, rest) := readExponent rest
    if fraction.isNone && exponent.isNone then
      if maxIntegerDigits < whole.length then stop (.longInteger whole.length) s
      else
        let n : Int := Nat.ofDigitChars 10 whole 0
        .ok (.int (if negative then -n else n), rest)
    else
      let digits := fraction.getD []
      let coefficient := Nat.ofDigitChars 10 (whole ++ digits) 0
      .ok (.double (Double.ofScientific negative coefficient
        (exponent.getD 0 - digits.length)), rest)

/-- The word at the front of a text, if it is there. -/
def word? (word : String) (s : List Char) : Option (List Char) :=
  if word.toList.isPrefixOf s then some (s.drop word.length) else none

/-- A word of the format, or a number. -/
def readWord (s : List Char) : Except Stop (Value × List Char) :=
  match word? "null" s with
  | some rest => .ok (.null, rest)
  | none =>
  match word? "true" s with
  | some rest => .ok (.bool true, rest)
  | none =>
  match word? "false" s with
  | some rest => .ok (.bool false, rest)
  | none =>
  match word? "NaN" s with
  | some rest => .ok (.double Double.nan, rest)
  | none =>
  match word? "Infinity" s with
  | some rest => .ok (.double (Double.infinity false), rest)
  | none =>
  match word? "-Infinity" s with
  | some rest => .ok (.double (Double.infinity true), rest)
  | none => readNumber s

section

variable (raw : Surrogates)

mutual

/-- A value. The number bounds the steps; two for each character are enough. -/
def readValue : Nat → List Char → Except Stop (Value × List Char)
  | 0, s => stop .expectingValue s
  | fuel + 1, s =>
    match s with
    | [] => stop .expectingValue s
    | c :: rest =>
      if c = '"' then do
        let (points, after) ← readString raw s (rest.length + 1) rest
        return (.ofText ⟨points⟩, after)
      else if c = '[' then
        match skipSpace rest with
        | ']' :: after => .ok (.list [], after)
        | inner => do
          let (items, after) ← readItems fuel inner
          return (.list items, after)
      else if c = '{' then
        match skipSpace rest with
        | '}' :: after => .ok (.map [], after)
        | inner => do
          let (fields, after) ← readFields fuel inner
          return (.map (Fields.ofPairs fields), after)
      else readWord s

/-- The items of an array up to its end; at least one. -/
def readItems : Nat → List Char → Except Stop (List Value × List Char)
  | 0, s => stop .expectingValue s
  | fuel + 1, s => do
    let (x, after) ← readValue fuel s
    match skipSpace after with
    | ']' :: after => return ([x], after)
    | ',' :: after => do
      let (xs, after) ← readItems fuel (skipSpace after)
      return (x :: xs, after)
    | after => stop .expectingComma after

/-- The fields of an object up to its end; at least one. -/
def readFields : Nat → List Char → Except Stop (List (Value × Value) × List Char)
  | 0, s => stop .expectingName s
  | fuel + 1, s =>
    match s with
    | '"' :: rest => do
      let (key, after) ← readString raw s (rest.length + 1) rest
      match skipSpace after with
      | ':' :: after => do
        let (x, after) ← readValue fuel (skipSpace after)
        let field := (Value.ofText ⟨key⟩, x)
        match skipSpace after with
        | '}' :: after => return ([field], after)
        | ',' :: after => do
          let (fs, after) ← readFields fuel (skipSpace after)
          return (field :: fs, after)
        | after => stop .expectingComma after
      | after => stop .expectingColon after
    | _ => stop .expectingName s

end

end

/-- A refusal with its place in the text. -/
structure Error where
  reason : Reason
  /-- The number of characters before the place. -/
  position : Nat
  /-- The line of the place, from 1. -/
  line : Nat
  /-- The column of the place, from 1. -/
  column : Nat
deriving DecidableEq, Repr

namespace Error

/-- Locates a refusal in the text. -/
def locate (text : List Char) (stop : Stop) : Error :=
  let position := text.length - stop.left
  let before := text.take position
  let line := before.count '\n' + 1
  let column := (before.reverse.takeWhile (· != '\n')).length + 1
  ⟨stop.reason, position, line, column⟩

def reasonText : Reason → String
  | .expectingValue => "Expecting value"
  | .expectingName => "Expecting property name enclosed in double quotes"
  | .expectingColon => "Expecting ':' delimiter"
  | .expectingComma => "Expecting ',' delimiter"
  | .unterminatedString => "Unterminated string starting at"
  | .invalidEscape => "Invalid \\escape"
  | .invalidUnicodeEscape => "Invalid \\uXXXX escape"
  | .controlCharacter => "Invalid control character at"
  | .extraData => "Extra data"
  | .byteOrderMark => "Unexpected UTF-8 BOM (decode using utf-8-sig)"
  | .longInteger n => longDigitsText n

def message (e : Error) : String :=
  match e.reason with
  | .longInteger _ => reasonText e.reason
  | _ =>
    reasonText e.reason ++ ": line " ++ toString e.line ++ " column " ++ toString e.column ++
      " (char " ++ toString e.position ++ ")"

end Error

/-- The value of a text with nothing but blanks around it. -/
def readChars (raw : Surrogates) (s : List Char) : Except Stop Value := do
  match s with
  | '\uFEFF' :: _ => stop .byteOrderMark s
  | _ =>
    let (v, rest) ← readValue raw (2 * s.length + 2) (skipSpace s)
    match skipSpace rest with
    | [] => return v
    | extra => stop .extraData extra

/-- The value of a JSON text. -/
def read (t : Text) : Except Error Value :=
  let s := t.replaced.toList
  (readChars (surrogatesOf t) s).mapError (Error.locate s)

end ServiceClient.Json
