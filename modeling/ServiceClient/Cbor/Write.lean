import ServiceClient.Text.Charset
import ServiceClient.Value

/-!
# Writing CBOR

Values as CBOR data items of definite length. Integers and lengths take the shortest head;
integers beyond 64 bits become tagged byte strings.

* `Cbor.write`: the bytes of a value, if it has any.
* `Cbor.head`: a major type with its argument, if it has a head.
-/

namespace ServiceClient

namespace Cbor

/-- The first byte of a data item. -/
def initial (major info : Nat) : UInt8 := UInt8.ofNat (major * 32 + info)

/-- A major type with its argument. No head holds an argument of more than 64 bits. -/
def head (major n : Nat) : Option Bytes :=
  if n < 24 then some [initial major n]
  else if n < 2 ^ 8 then some (initial major 24 :: bigEndian 1 n)
  else if n < 2 ^ 16 then some (initial major 25 :: bigEndian 2 n)
  else if n < 2 ^ 32 then some (initial major 26 :: bigEndian 4 n)
  else if n < 2 ^ 64 then some (initial major 27 :: bigEndian 8 n)
  else none

def writeBytes (s : Bytes) : Option Bytes := do return (← head 2 s.length) ++ s

/-- What is written of an integer beside its sign: a negative one is `-1` less its magnitude. -/
def magnitude (n : Int) : Nat := if n < 0 then (-n - 1).toNat else n.toNat

/-- An integer: a head, or a tag and a byte string if it needs more than 64 bits. -/
def writeInt (n : Int) : Option Bytes :=
  let (major, tag) := if n < 0 then (1, 3) else (0, 2)
  if magnitude n < 2 ^ 64 then head major (magnitude n)
  else do return (← head 6 tag) ++ (← writeBytes (minimalBytes (magnitude n)))

/-- A double in 64 bits; infinities and NaN in 16. -/
def writeDouble (d : Double) : Bytes :=
  if d.isNaN then [0xf9, 0x7e, 0x00]
  else if d.isInfinite then [0xf9, if d.isNegative then 0xfc else 0x7c, 0x00]
  else 0xfb :: bigEndian 8 d.bits.toNat

/-- A decimal: its exponent and its coefficient under a tag. -/
def writeDecimal : Decimal → Option Bytes
  | d@(.finite _ _ e) => do
    return (← head 6 4) ++ (← head 4 2) ++ (← writeInt e) ++ (← writeInt d.signedCoefficient)
  | d => some (writeDouble d.toDouble)

def writeText (s : String) : Option Bytes := do
  let bytes := Utf8.encode s
  return (← head 3 bytes.length) ++ bytes

/-- A timestamp with an offset as text under a tag; one without an offset is refused. -/
def writeTimestamp (t : Timestamp) : Option Bytes :=
  match t.offset with
  | none => none
  | some o => do
    let shown := if o = 0 then (Timestamp.mk t.clock none).isoText ++ "Z" else t.isoText
    return (← head 6 0) ++ (← writeText shown)

mutual

/-- The bytes of a value. -/
def write : Value → Option Bytes
  | .null => some [0xf6]
  | .bool b => some [if b then 0xf5 else 0xf4]
  | .int n => writeInt n
  | .double d => some (writeDouble d)
  | .decimal d => writeDecimal d
  | .text s => writeText s
  | .loose _ => none
  | .bytes .view _ => none
  | .bytes _ s => writeBytes s
  | .timestamp t => writeTimestamp t
  | .list xs => do return (← head 4 xs.length) ++ (← writeItems xs)
  | .tuple xs => do return (← head 4 xs.length) ++ (← writeItems xs)
  | .set xs => do return (← head 6 258) ++ (← head 4 xs.length) ++ (← writeItems xs)
  | .map fs => do return (← head 5 fs.length) ++ (← writeFields fs)
  | .symbol s => writeText s
  | .tagged n v => do return (← head 6 n) ++ (← write v)
  | .simple n => some (if n < 24 then [initial 7 n] else [0xf8, UInt8.ofNat n])
  | .undefined => some [0xf7]

def writeItems : List Value → Option Bytes
  | [] => some []
  | x :: xs => do return (← write x) ++ (← writeItems xs)

def writeFields : List (Value × Value) → Option Bytes
  | [] => some []
  | (k, x) :: rest => do return (← write k) ++ (← write x) ++ (← writeFields rest)

end

end Cbor

end ServiceClient
