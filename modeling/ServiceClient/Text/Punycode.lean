/-!
# Punycode

Text of any script in the letters, digits and hyphens of host names (RFC 3492). The ASCII
characters come first; then the others follow in the order of their code points, each as the
distance from the one before, in base 36 with few digits for the distances that are likely.

* `Punycode.encode`: the written form of a text.
* `Punycode.digits`: a distance in digits.
-/

namespace ServiceClient.Punycode

/-- The letters of the digits. -/
def digitChar (d : Nat) : Char :=
  if d < 26 then Char.ofNat ('a'.toNat + d) else Char.ofNat ('0'.toNat + (d - 26))

/-- The least value that does not end a number, at a place counted in steps of 36. -/
def threshold (bias place : Nat) : Nat := max 1 (min 26 (place - bias))

theorem threshold_pos (bias place : Nat) : 1 ≤ threshold bias place := by grind [threshold]

/-- A number from a place on, the lowest digit first. -/
def digits (bias place n : Nat) : List Char :=
  let t := threshold bias place
  if n < t then [digitChar n]
  else digitChar (t + (n - t) % (36 - t)) :: digits bias (place + 36) ((n - t) / (36 - t))
termination_by n
decreasing_by
  have := threshold_pos bias place
  have := Nat.div_le_self (n - threshold bias place) (36 - threshold bias place)
  omega

/-- The bias that suits distances like the scaled one. -/
def biasOf (scaled : Nat) : Nat :=
  if 455 < scaled then 36 + biasOf (scaled / 35) else 36 * scaled / (scaled + 38)
termination_by scaled
decreasing_by omega

/-- The bias after a distance, with the number of characters written by then. -/
def nextBias (isFirst : Bool) (distance written : Nat) : Nat :=
  let scaled := if isFirst then distance / 700 else distance / 2
  biasOf (scaled + scaled / written)

/-- The state between two characters. -/
structure State where
  /-- What is written, backwards. -/
  written : List Char
  distance : Nat
  bias : Nat
  /-- The number of characters that are written. -/
  count : Nat

/-- Passes a character of the text while those of one code point are written. -/
def pass (basic code : Nat) (s : State) (c : Char) : State :=
  if c.toNat < code then { s with distance := s.distance + 1 }
  else if c.toNat = code then
    { written := (digits s.bias 36 s.distance).reverse ++ s.written
      distance := 0
      bias := nextBias (s.count = basic) s.distance (s.count + 1)
      count := s.count + 1 }
  else s

/-- Writes the characters of code points in rising order, from the lowest that is open. -/
def writeCodes (text : List Char) (basic : Nat) : Nat → List Nat → State → State
  | _, [], s => s
  | lowest, code :: rest, s =>
    let s := { s with distance := s.distance + (code - lowest) * (s.count + 1) }
    let s := text.foldl (pass basic code) s
    writeCodes text basic (code + 1) rest { s with distance := s.distance + 1 }

/-- The written form of a text. -/
def encode (text : List Char) : List Char :=
  let ascii := text.filter (·.toNat < 128)
  let codes := ((text.map Char.toNat).filter (128 ≤ ·)).mergeSort.eraseDups
  let s := writeCodes text ascii.length 128 codes ⟨[], 0, 72, ascii.length⟩
  ascii ++ (if ascii.isEmpty then [] else ['-']) ++ s.written.reverse

end ServiceClient.Punycode
