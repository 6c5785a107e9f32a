import ServiceClient.Ion.WriteText

/-!
# Writing binary Ion

Values in the binary form of Ion: the version marker, a table of the field names in use, and
the value. A field name is written as its number in the table.

* `Ion.writeBinary`: the bytes of a whole document, if the value has any.
* `Ion.names`: the field names of a value in the order of their first use.
* `Ion.element`: a type code with a length and a content.
-/

namespace ServiceClient.Ion

/-- The four bytes that start a binary document. -/
def versionMarker : Bytes := [0xe0, 0x01, 0x00, 0xea]

/-- The names that every document knows, numbered from 1. -/
def systemNames : List String :=
  ["$ion", "$ion_1_0", "$ion_symbol_table", "name", "version", "imports", "symbols", "max_id",
    "$ion_shared_symbol_table"]

/-- The number of a name in a table that extends the system names. -/
def numberOf? (table : List String) (name : String) : Option Nat :=
  ((systemNames ++ table).findIdx? (· == name)).map (· + 1)

/-- The digits of a number to the base 128, the highest first; none for zero. -/
def sevenBitDigits : Nat → Nat → List Nat
  | 0, _ => []
  | fuel + 1, n => if n = 0 then [] else sevenBitDigits fuel (n / 128) ++ [n % 128]

/-- Sets the mark on the last of a number's bytes. -/
def markLast : List Nat → Bytes
  | [] => []
  | [d] => [UInt8.ofNat (d + 128)]
  | d :: rest => UInt8.ofNat d :: markLast rest

/-- A natural number in bytes of seven bits. -/
def varUInt (n : Nat) : Bytes :=
  markLast (if n = 0 then [0] else sevenBitDigits (Nat.log2 n + 1) n)

/-- An integer in bytes of seven bits, the first of which holds the sign and six bits. -/
def varInt (n : Int) : Bytes :=
  let sign := if n < 0 then 64 else 0
  let digits := if n = 0 then [0] else sevenBitDigits (Nat.log2 n.natAbs + 1) n.natAbs
  match digits with
  | d :: rest => markLast (if d < 64 then (d + sign) :: rest else sign :: d :: rest)
  | [] => []

/-- A sign bit and a magnitude in as few bytes as they need; nothing for a positive zero. -/
def signedBytes (negative : Bool) (magnitude : Nat) : Bytes :=
  let bytes := minimalBytes magnitude
  let sign : Nat := if negative then 128 else 0
  match bytes with
  | [] => if negative then [128] else []
  | b :: rest =>
    if b.toNat < 128 then UInt8.ofNat (b.toNat + sign) :: rest else UInt8.ofNat sign :: bytes

/-- A type code with the length of its content, and the content. -/
def element (code : Nat) (content : Bytes) : Bytes :=
  if content.length < 14 then UInt8.ofNat (code * 16 + content.length) :: content
  else UInt8.ofNat (code * 16 + 14) :: varUInt content.length ++ content

def intElement (n : Int) : Bytes := element (if n < 0 then 3 else 2) (minimalBytes n.natAbs)

/-- A double in eight bytes, a positive zero in none. -/
def doubleElement (d : Double) : Bytes :=
  if d.isZero && !d.isNegative then element 4 [] else element 4 (bigEndian 8 d.bits.toNat)

def decimalElement? : Decimal → Option Bytes
  | .finite negative c e =>
    some (element 5
      (if e = 0 ∧ c = 0 ∧ !negative then [] else varInt e ++ signedBytes negative c))
  | _ => none

/-- A timestamp: the offset in minutes, the parts in UTC, and the microseconds. -/
def timestampElement (t : Timestamp) : Bytes :=
  let u := t.minuteOffset.toUtc
  let d := u.date
  let c := u.timeOfDay
  let offset := match t.offset with
    | some o => varInt (o / 60)
    | none => [0xc0]
  element 6 (offset ++ varUInt d.year.toNat ++ varUInt d.month ++ varUInt d.day ++
    varUInt c.hour ++ varUInt c.minute ++ varUInt c.second ++ varInt (-6) ++
    signedBytes false c.microsecond)

/-- Adds a name that no table has yet. -/
def addName (seen : List String) (name : String) : List String :=
  if (numberOf? seen name).isSome then seen else seen ++ [name]

mutual

/-- The field names and symbols of a value that are not in `seen`, put behind it. -/
def names (seen : List String) : Value → List String
  | .symbol s => addName seen s
  | .list xs => namesOfItems seen xs
  | .tuple xs => namesOfItems seen xs
  | .map fs => namesOfFields seen fs
  | _ => seen

def namesOfItems (seen : List String) : List Value → List String
  | [] => seen
  | x :: xs => namesOfItems (names seen x) xs

def namesOfFields (seen : List String) : List (Value × Value) → List String
  | [] => seen
  | (k, x) :: rest =>
    let seen := match k with
      | .text name => addName seen name
      | _ => seen
    namesOfFields (names seen x) rest

end

mutual

/-- The bytes of a value under a table of names. -/
def binaryOf (table : List String) : Value → Option Bytes
  | .null => some [0x0f]
  | .bool b => some [if b then 0x11 else 0x10]
  | .int n => some (intElement n)
  | .double d => some (doubleElement d)
  | .decimal d => decimalElement? d
  | .text s => some (element 8 (Utf8.encode s))
  | .symbol s => do return element 7 (minimalBytes (← numberOf? table s))
  | .bytes .view _ => none
  | .bytes _ s => some (element 10 s)
  | .timestamp t => some (timestampElement t)
  | .list xs => do return element 11 (← binaryItems table xs)
  | .tuple xs => do return element 11 (← binaryItems table xs)
  | .map fs => do return element 13 (← binaryFields table fs)
  | .loose _ | .set _ | .tagged .. | .simple _ | .undefined => none

def binaryItems (table : List String) : List Value → Option Bytes
  | [] => some []
  | x :: xs => do return (← binaryOf table x) ++ (← binaryItems table xs)

def binaryFields (table : List String) : List (Value × Value) → Option Bytes
  | [] => some []
  | (k, x) :: rest =>
    match k with
    | .text name => do
      let number ← numberOf? table name
      return varUInt number ++ (← binaryOf table x) ++ (← binaryFields table rest)
    | _ => none

end

/-- The table of names: a struct with the list of names, annotated as a symbol table. -/
def tableElement (table : List String) : Bytes :=
  if table.isEmpty then []
  else
    let list := element 11 (table.flatMap fun name => element 8 (Utf8.encode name))
    element 14 (varUInt 1 ++ varUInt 3 ++ element 13 (varUInt 7 ++ list))

/-- A document of one value. -/
def writeBinary (v : Value) : Option Bytes := do
  let table := names [] v
  let body ← binaryOf table v
  return versionMarker ++ tableElement table ++ body

end ServiceClient.Ion
