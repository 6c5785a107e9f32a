/-!
# Bytes

Byte strings are lists of bytes. A number can stand in them with its highest byte first, in a
fixed width or in as few bytes as it needs; in text a byte is two hexadecimal digits.

* `bigEndian`, `ofBigEndian`: a number in a fixed width, and back.
* `minimalBytes`: a number in as few bytes as possible.
* `takeBytes?`: a front part of exact length, and the rest.
* `hexPadded`, `hexValue?`: numbers and digits in hexadecimal.
* `crc32`: the cyclic redundancy check over the polynomial `0x04C11DB7`, bits reflected.
-/

-- Powers are the core ones in every module, whichever others are in scope there; the second
-- priority stands above the one of every default instance for powers.
attribute [instance (high), default_instance 20000] instPowNat

namespace ServiceClient

abbrev Bytes := List UInt8

/-- The `width` low bytes of a number, the highest first. -/
def bigEndian : Nat → Nat → Bytes
  | 0, _ => []
  | width + 1, n => UInt8.ofNat (n / 256 ^ width) :: bigEndian width n

/-- The number that bytes are, the highest first. -/
def ofBigEndian (s : Bytes) : Nat := s.foldl (fun n b => n * 256 + b.toNat) 0

/-- The number of bytes that a number needs; none for zero. -/
def byteWidth (n : Nat) : Nat := if n = 0 then 0 else Nat.log2 n / 8 + 1

/-- Takes exactly `n` bytes off the front. -/
def takeBytes? (n : Nat) (s : Bytes) : Option (Bytes × Bytes) :=
  if n ≤ s.length then some (s.take n, s.drop n) else none

/-- A number in as few bytes as it needs, the highest first. -/
def minimalBytes (n : Nat) : Bytes := bigEndian (byteWidth n) n

/-- A number in lower case hexadecimal with leading zeros up to a width. -/
def hexPadded (width n : Nat) : List Char :=
  let digits := Nat.toDigits 16 n
  List.replicate (width - digits.length) '0' ++ digits

/-- The value of a hexadecimal digit. -/
def hexValue? (c : Char) : Option Nat :=
  let n := c.toNat
  if 48 ≤ n ∧ n ≤ 57 then some (n - 48)
  else if 65 ≤ n ∧ n ≤ 70 then some (n - 55)
  else if 97 ≤ n ∧ n ≤ 102 then some (n - 87)
  else none

/-- Divides one bit out of the register. -/
def crcBit (r : UInt32) : UInt32 :=
  if r &&& 1 = 1 then (r >>> 1) ^^^ 0xEDB88320 else r >>> 1

/-- Adds one byte to the register. -/
def crcByte (r : UInt32) (b : UInt8) : UInt32 :=
  crcBit (crcBit (crcBit (crcBit (crcBit (crcBit (crcBit (crcBit (r ^^^ b.toUInt32))))))))

/-- The checksum of bytes. -/
def crc32 (s : Bytes) : UInt32 := s.foldl crcByte 0xFFFFFFFF ^^^ 0xFFFFFFFF

end ServiceClient
