import ServiceClient.Time.InternetText
import ServiceClient.Ion.WriteBinary

/-!
# Reading binary Ion

Binary Ion documents as lists of their top-level values. Annotations are dropped, nulls of all
types are one null, and symbol tables are kept only while they are in force.

* `Ion.readBinary`: the values of a document, if it is well formed.
* `Ion.readValue`: one value with its type code.
-/

namespace ServiceClient.Ion

/-- Reads on in a number of bytes of seven bits, of which `n` is read. -/
def readVarUIntFrom (n : Nat) : Bytes → Option (Nat × Bytes)
  | [] => none
  | b :: rest =>
    if 128 ≤ b.toNat then some (n * 128 + b.toNat % 128, rest)
    else readVarUIntFrom (n * 128 + b.toNat) rest

def readVarUInt (s : Bytes) : Option (Nat × Bytes) := readVarUIntFrom 0 s

/-- An integer in bytes of seven bits: sign, magnitude and the rest. -/
def readVarInt (s : Bytes) : Option (Bool × Nat × Bytes) :=
  match s with
  | [] => none
  | b :: rest =>
    let negative := b.toNat / 64 % 2 == 1
    let first := b.toNat % 64
    if 128 ≤ b.toNat then some (negative, first, rest)
    else (readVarUIntFrom first rest).map fun (n, rest) => (negative, n, rest)

def signed (negative : Bool) (n : Nat) : Int := if negative then -(n : Int) else n

/-- The sign and the magnitude of a number whose first bit is its sign. -/
def ofSignedBytes (s : Bytes) : Bool × Nat :=
  match s with
  | [] => (false, 0)
  | b :: rest => (128 ≤ b.toNat, ofBigEndian (UInt8.ofNat (b.toNat % 128) :: rest))

/-- The name that a number stands for in a table. -/
def nameOf? (table : List String) (number : Nat) : Option String :=
  if number = 0 then none else (systemNames ++ table)[number - 1]?

/-- A decimal: exponent and coefficient. -/
def readDecimal (s : Bytes) : Option Decimal :=
  if s.isEmpty then some (.finite false 0 0)
  else do
    let (down, e, rest) ← readVarInt s
    let (negative, c) := ofSignedBytes rest
    return .finite negative c (signed down e)

/-- The microseconds of a fraction; what is smaller is cut off. -/
def readFractionBytes (s : Bytes) : Option Nat :=
  if s.isEmpty then some 0
  else do
    let (down, e, rest) ← readVarInt s
    let (negative, c) := ofSignedBytes rest
    if negative && c != 0 then none
    else if !down && e != 0 then (if c = 0 then some 0 else none)
    else
      let micro := if 6 ≤ e then c / 10 ^ (e - 6) else c * 10 ^ (6 - e)
      if micro < 1000000 then some micro else none

/-- A timestamp: parts in UTC, each of which may end the value, and the offset in minutes. A
negative zero offset is an unknown one. -/
def readTimestamp (s : Bytes) : Option Timestamp := do
  let (negative, offset, s) ← readVarInt s
  let zone : Option Int :=
    if negative && offset = 0 then none else some (signed negative offset * 60)
  let finish (d : Date) (c : TimeOfDay) : Option Timestamp := do
    let t ← Timestamp.ofParts? d c none
    return ⟨t.clock + zone.getD 0 * 1000000, zone⟩
  let (year, s) ← readVarUInt s
  if s.isEmpty then return ← (Timestamp.ofParts? ⟨year, 1, 1⟩ ⟨0, 0, 0, 0⟩ none)
  let (month, s) ← readVarUInt s
  if s.isEmpty then return ← (Timestamp.ofParts? ⟨year, month, 1⟩ ⟨0, 0, 0, 0⟩ none)
  let (day, s) ← readVarUInt s
  if s.isEmpty then return ← (Timestamp.ofParts? ⟨year, month, day⟩ ⟨0, 0, 0, 0⟩ none)
  let (hour, s) ← readVarUInt s
  let (minute, s) ← readVarUInt s
  if s.isEmpty then return ← finish ⟨year, month, day⟩ ⟨hour, minute, 0, 0⟩
  let (second, s) ← readVarUInt s
  let micro ← readFractionBytes s
  finish ⟨year, month, day⟩ ⟨hour, minute, second, micro⟩

def utf8Text? (s : Bytes) : Option String :=
  match Utf8.decode s with
  | .ok t => some t
  | .error _ => none

/-- The scalar of a type code with a content. -/
def readScalar (table : List String) (code : Nat) (content : Bytes) : Option Value :=
  match code with
  | 2 => some (.int (ofBigEndian content))
  | 3 =>
    let n := ofBigEndian content
    if n = 0 then none else some (.int (-(n : Int)))
  | 4 =>
    match content.length with
    | 0 => some (.double (Double.zero false))
    | 4 => some (.double (Double.ofSingle (ofBigEndian content)))
    | 8 => some (.double ⟨UInt64.ofNat (ofBigEndian content)⟩)
    | _ => none
  | 5 => (readDecimal content).map .decimal
  | 6 => (readTimestamp content).map .timestamp
  | 7 => (nameOf? table (ofBigEndian content)).map .symbol
  | 8 => (utf8Text? content).map .text
  | 9 | 10 => some (.blob content)
  | _ => none

/-- The content of a type code and the rest; none for the content of a null. -/
def readContent (code low : Nat) (s : Bytes) : Option (Option Bytes × Bytes) :=
  if low = 15 then some (none, s)
  else if low = 14 ∨ (code = 13 ∧ low = 1) then do
    let (length, s) ← readVarUInt s
    let (content, s) ← takeBytes? length s
    return (some content, s)
  else do
    let (content, s) ← takeBytes? low s
    return (some content, s)

/-- What stands in a stream: a value, with the numbers of its annotations, or filling. -/
inductive Item
  | value (annotations : List Nat) (v : Value)
  | padding

/-- The numbers that bytes hold. -/
def readNumbers : Nat → Bytes → Option (List Nat)
  | _, [] => some []
  | 0, _ => none
  | fuel + 1, s => do
    let (n, s) ← readVarUInt s
    let tail ← readNumbers fuel s
    return n :: tail

mutual

/-- The item at the front of bytes. The number bounds the steps. -/
def readItem (table : List String) : Nat → Bytes → Option (Item × Bytes)
  | 0, _ => none
  | _ + 1, [] => none
  | fuel + 1, b :: rest => do
    let code := b.toNat / 16
    let low := b.toNat % 16
    if code = 1 then
      if low = 0 then return (.value [] (.bool false), rest)
      else if low = 1 then return (.value [] (.bool true), rest)
      else if low = 15 then return (.value [] .null, rest)
      else none
    else
      let (content, rest) ← readContent code low rest
      match content with
      | none => if code ≤ 13 then return (.value [] .null, rest) else none
      | some content =>
        if code = 0 then return (.padding, rest)
        else if code = 11 ∨ code = 12 then
          let xs ← readElements table fuel content
          return (.value [] (.list xs), rest)
        else if code = 13 then
          let fs ← readFields table fuel content
          return (.value [] (.map (Fields.ofPairs fs)), rest)
        else if code = 14 then
          let (length, content) ← readVarUInt content
          let (numbers, content) ← takeBytes? length content
          let annotations ← readNumbers numbers.length numbers
          if annotations.isEmpty then none
          else
            match ← readItem table fuel content with
            | (.value [] v, []) => return (.value annotations v, rest)
            | _ => none
        else return (.value [] (← readScalar table code content), rest)

/-- The values that bytes hold, without filling. -/
def readElements (table : List String) : Nat → Bytes → Option (List Value)
  | _, [] => some []
  | 0, _ => none
  | fuel + 1, s => do
    let (item, s) ← readItem table fuel s
    let tail ← readElements table fuel s
    match item with
    | .value _ v => return v :: tail
    | .padding => return tail

/-- The fields that bytes hold, without filling. -/
def readFields (table : List String) : Nat → Bytes → Option (List (Value × Value))
  | _, [] => some []
  | 0, _ => none
  | fuel + 1, s => do
    let (number, s) ← readVarUInt s
    let (item, s) ← readItem table fuel s
    let tail ← readFields table fuel s
    match item with
    | .value _ v => return (.text (← nameOf? table number), v) :: tail
    | .padding => return tail

end

/-- The names that a symbol table's value defines, behind those in force if it imports them. -/
def tableOf (table : List String) (v : Value) : List String :=
  match v with
  | .map fs =>
    let defined := match Fields.get? (.text "symbols") fs with
      | some (.list xs) => xs.map fun x =>
        match x with
        | .text s => s
        | _ => ""
      | _ => []
    match Fields.get? (.text "imports") fs with
    | some (.symbol "$ion_symbol_table") => table ++ defined
    | _ => defined
  | _ => []

/-- The values of a stream under a table of names. -/
def readStream (table : List String) : Nat → Bytes → Option (List Value)
  | _, [] => some []
  | 0, _ => none
  | fuel + 1, s =>
    if versionMarker.isPrefixOf s then readStream [] fuel (s.drop 4)
    else do
      let (item, rest) ← readItem table (2 * s.length + 2) s
      match item with
      | .value (3 :: _) v@(.map _) => readStream (tableOf table v) fuel rest
      | .value _ v => return v :: (← readStream table fuel rest)
      | .padding => readStream table fuel rest

/-- The top-level values of a binary document. -/
def readBinary (s : Bytes) : Option (List Value) := readStream [] (s.length + 1) s

end ServiceClient.Ion
