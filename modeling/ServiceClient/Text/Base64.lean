import ServiceClient.Text.Charset

/-!
# Base64

Bytes as text over an alphabet of 64 characters, four characters for three bytes, filled up
with `=`. The decoder is lenient: characters outside of the alphabet are skipped, and a
complete group that ends in `=` ends the input.

* `Base64.encode`: the padded text.
* `Base64.decode`: the bytes of a text in the standard alphabet.
* `Base64.decodeText`: padding may be missing, and `-` and `_` may stand for `+` and `/`.
-/

namespace ServiceClient.Base64

/-- The character of a number below 64. -/
def digit (n : Nat) : Char :=
  if n < 26 then Char.ofNat (65 + n)
  else if n < 52 then Char.ofNat (71 + n)
  else if n < 62 then Char.ofNat (n - 4)
  else if n = 62 then '+'
  else '/'

/-- The number of a character of the alphabet. -/
def value? (c : Char) : Option Nat :=
  let n := c.toNat
  if 65 ≤ n ∧ n ≤ 90 then some (n - 65)
  else if 97 ≤ n ∧ n ≤ 122 then some (n - 71)
  else if 48 ≤ n ∧ n ≤ 57 then some (n + 4)
  else if c = '+' then some 62
  else if c = '/' then some 63
  else none

def encodeChars : Bytes → List Char
  | [] => []
  | [a] => [digit (a.toNat / 4), digit (a.toNat % 4 * 16), '=', '=']
  | [a, b] =>
    [digit (a.toNat / 4), digit (a.toNat % 4 * 16 + b.toNat / 16), digit (b.toNat % 16 * 4), '=']
  | a :: b :: c :: rest =>
    digit (a.toNat / 4) :: digit (a.toNat % 4 * 16 + b.toNat / 16) ::
      digit (b.toNat % 16 * 4 + c.toNat / 64) :: digit (c.toNat % 64) :: encodeChars rest

/-- Bytes as padded text. -/
def encode (s : Bytes) : String := String.ofList (encodeChars s)

/-- Why a text is refused. -/
inductive Error
  /-- The last group has one character only; the number counts all characters. -/
  | loneCharacter (count : Nat)
  /-- The last group is incomplete. -/
  | padding
  /-- The text has a character outside of ASCII. -/
  | notAscii
deriving DecidableEq, Repr, Inhabited

def Error.message : Error → String
  | .loneCharacter n =>
    "Invalid base64-encoded string: number of data characters (" ++ toString n ++
      ") cannot be 1 more than a multiple of 4"
  | .padding => "Incorrect padding"
  | .notAscii => "string argument should contain only ASCII characters"

/-- The characters of the current group, as far as they are read. -/
inductive Group
  | start
  | one (a : Nat)
  /-- Two characters, and the number of `=` since. -/
  | two (a b : Nat) (pads : Nat)
  /-- Three characters. -/
  | three (a b c : Nat)
deriving Repr

/-- The bytes of an incomplete group. -/
def Group.bytes : Group → Bytes
  | .start | .one _ => []
  | .two a b _ => [UInt8.ofNat (a * 4 + b / 16)]
  | .three a b c => [UInt8.ofNat (a * 4 + b / 16), UInt8.ofNat (b % 16 * 16 + c / 4)]

/-- Adds a character to a group: the bytes that it completes, and the group after it. -/
def Group.push (d : Nat) : Group → Bytes × Group
  | .start => ([], .one d)
  | .one a => ([], .two a d 0)
  | .two a b _ => ([], .three a b d)
  | .three a b c =>
    ([UInt8.ofNat (a * 4 + b / 16), UInt8.ofNat (b % 16 * 16 + c / 4),
      UInt8.ofNat (c % 4 * 64 + d)], .start)

/-- Decodes with `group` read so far, in a text of which `done` whole groups are read. -/
def decodeFrom (group : Group) (done : Nat) : List Char → Except Error Bytes
  | [] =>
    match group with
    | .start => .ok []
    | .one _ => .error (.loneCharacter (done * 4 + 1))
    | .two .. | .three .. => .error .padding
  | c :: rest =>
    if c = '=' then
      match group with
      | .two a b 0 => decodeFrom (.two a b 1) done rest
      | .two .. | .three .. => .ok group.bytes
      | .start | .one _ => decodeFrom group done rest
    else
      match value? c with
      | none => decodeFrom group done rest
      | some d =>
        let (out, next) := group.push d
        (decodeFrom next (done + out.length / 3) rest).map (out ++ ·)

/-- The bytes of a text in the standard alphabet. -/
def decode (s : List Char) : Except Error Bytes :=
  if s.all (·.toNat < 128) then decodeFrom .start 0 s else .error .notAscii

/-- Replaces the two characters of the alphabet for URLs by those of the standard one. -/
def standardChar (c : Char) : Char :=
  if c = '-' then '+' else if c = '_' then '/' else c

/-- Fills a text up to a multiple of four characters. -/
def pad (s : List Char) : List Char :=
  if s.length % 4 = 0 then s else s ++ List.replicate (4 - s.length % 4) '='

/-- The bytes of a text that may lack its padding and may use the alphabet for URLs. -/
def decodeText (s : List Char) : Except Error Bytes := decode ((pad s).map standardChar)

end ServiceClient.Base64
