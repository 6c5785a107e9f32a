import ServiceClient.Text.Charset

/-!
# Percent encoding

Text in the parts of a URL. A byte of its UTF-8 form that may not stand for itself is written
as `%` and two hexadecimal digits.

* `Percent.encode`: all but unreserved characters and those of a safe set.
* `Percent.decodeBytes`: the bytes; a `%` without two digits stands for itself.
-/

namespace ServiceClient.Percent

/-- A character that never needs encoding. -/
def isUnreserved (c : Char) : Bool :=
  c.isAlphanum || c = '_' || c = '.' || c = '-' || c = '~'

/-- The upper case hexadecimal digit of a number below 16. -/
def upperHex (n : Nat) : Char := (Nat.digitChar n).toUpper

/-- The escape of a byte. -/
def escape (b : UInt8) : List Char := ['%', upperHex (b.toNat / 16), upperHex (b.toNat % 16)]

/-- A byte as itself if `safe` admits it, else escaped. -/
def encodeByte (safe : Char → Bool) (b : UInt8) : List Char :=
  let c := Char.ofNat b.toNat
  if b.toNat < 128 && (isUnreserved c || safe c) then [c] else escape b

def encodeBytes (safe : Char → Bool) (s : Bytes) : List Char := s.flatMap (encodeByte safe)

/-- A text with every character escaped that is neither unreserved nor safe. -/
def encode (safe : Char → Bool) (s : String) : String :=
  String.ofList (encodeBytes safe (Utf8.encode s))

/-- The byte of an escape's two digits. -/
def escaped? (high low : Char) : Option UInt8 :=
  match hexValue? high, hexValue? low with
  | some h, some l => some (UInt8.ofNat (h * 16 + l))
  | _, _ => none

/-- The bytes that a text stands for. -/
def decodeBytes : List Char → Bytes
  | '%' :: h :: l :: rest =>
    match escaped? h l with
    | some b => b :: decodeBytes rest
    | none => 37 :: decodeBytes (h :: l :: rest)
  | c :: rest => Utf8.encodeChar c ++ decodeBytes rest
  | [] => []
termination_by s => s.length

end ServiceClient.Percent
