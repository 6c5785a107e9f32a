import ServiceClient.Cbor.Write
import ServiceClient.Time.InternetText

/-!
# Reading CBOR

One CBOR data item off the front of bytes; what follows it is not looked at. Containers and
strings may have definite or indefinite length, and there is no limit to their nesting. The tags
for times, big integers, decimals and sets become values of their own. Other tags are kept with
their contents, those for shared items and for kinds of values that are no `Value` among them.

* `Cbor.read`: the value at the front of bytes, if it is well formed.
* `Cbor.untag`: what a tag makes of its content.
-/

namespace ServiceClient.Cbor

/-- The argument of a data item's head. -/
inductive Argument
  | value (n : Nat)
  | indefinite
deriving Repr

/-- The argument that a head's low five bits announce. -/
def readArgument (info : Nat) (s : Bytes) : Option (Argument × Bytes) :=
  if info < 24 then some (.value info, s)
  else if info ≤ 27 then do
    let (bytes, rest) ← takeBytes? (2 ^ (info - 24)) s
    return (.value (ofBigEndian bytes), rest)
  else if info = 31 then some (.indefinite, s)
  else none

mutual

/-- A value as the key of a map: lists that can change become fixed ones. -/
def asKey : Value → Value
  | .list xs => .tuple (asKeys xs)
  | .tuple xs => .tuple (asKeys xs)
  | v => v

def asKeys : List Value → List Value
  | [] => []
  | x :: xs => asKey x :: asKeys xs

end

/-- The product of an integer and a power of two as a decimal. -/
def bigFloat (exponent mantissa : Int) : Decimal :=
  let negative := mantissa < 0
  if 0 ≤ exponent then .finite negative (mantissa.natAbs * 2 ^ exponent.toNat) 0
  else .finite negative (mantissa.natAbs * 5 ^ exponent.natAbs) exponent

/-- The value that a tag makes of its content. -/
def untag (tag : Nat) (v : Value) : Option Value :=
  if tag = 0 then
    match v with
    | .text s => (Timestamp.ofInternetText? s).map .timestamp
    | _ => none
  else if tag = 1 then
    match v with
    | .int _ | .double _ => (Timestamp.ofEpochSeconds? v).map .timestamp
    | _ => none
  else if tag = 2 then
    match v with
    | .bytes _ s => some (.int (ofBigEndian s))
    | _ => none
  else if tag = 3 then
    match v with
    | .bytes _ s => some (.int (-(ofBigEndian s : Int) - 1))
    | _ => none
  else if tag = 4 then
    match v with
    | .list [.int e, .int m] => some (.decimal (.finite (m < 0) m.natAbs e))
    | _ => none
  else if tag = 5 then
    match v with
    | .list [.int e, .int m] => some (.decimal (bigFloat e m))
    | _ => none
  else if tag = 258 then
    match v with
    | .list xs =>
      some (.set ((Fields.ofPairs ((asKeys xs).map fun x => (x, x))).map (·.1)))
    | _ => none
  else if tag = 55799 then some v
  else some (.tagged tag v)

/-- A number or word of major type 7. -/
def readSimple (info : Nat) (argument : Argument) : Option Value :=
  match argument with
  | .indefinite => none
  | .value n =>
    if info = 20 then some (.bool false)
    else if info = 21 then some (.bool true)
    else if info = 22 then some .null
    else if info = 23 then some .undefined
    else if info < 24 then some (.simple n)
    else if info = 24 then (if 32 ≤ n then some (.simple n) else none)
    else if info = 25 then some (.double (Double.ofHalf n))
    else if info = 26 then some (.double (Double.ofSingle n))
    else some (.double ⟨UInt64.ofNat n⟩)

/-- The text of bytes in UTF-8. -/
def text? (s : Bytes) : Option String :=
  match Utf8.decode s with
  | .ok t => some t
  | .error _ => none

/-- The pieces of a string of indefinite length, up to the break. -/
def readPieces (major : Nat) : Nat → Bytes → Option (List Bytes × Bytes)
  | 0, _ => none
  | _ + 1, [] => none
  | fuel + 1, b :: rest =>
    if b = 0xff then some ([], rest)
    else if b.toNat / 32 = major then do
      let (argument, rest) ← readArgument (b.toNat % 32) rest
      match argument with
      | .indefinite => none
      | .value n =>
        let (piece, rest) ← takeBytes? n rest
        let (pieces, rest) ← readPieces major fuel rest
        return (piece :: pieces, rest)
    else none

/-- The pieces of a string of any length. -/
def readString (major : Nat) (argument : Argument) (s : Bytes) : Option (List Bytes × Bytes) :=
  match argument with
  | .value n => do
    let (piece, rest) ← takeBytes? n s
    return ([piece], rest)
  | .indefinite => readPieces major (s.length + 1) s

mutual

/-- The value at the front of bytes. The number bounds the steps. -/
def readValue : Nat → Bytes → Option (Value × Bytes)
  | 0, _ => none
  | _ + 1, [] => none
  | fuel + 1, b :: rest => do
    let info := b.toNat % 32
    let major := b.toNat / 32
    let (argument, rest) ← readArgument info rest
    if major = 7 then
      return (← readSimple info argument, rest)
    else if major = 2 then
      let (pieces, rest) ← readString 2 argument rest
      return (.blob pieces.flatten, rest)
    else if major = 3 then
      let (pieces, rest) ← readString 3 argument rest
      let texts ← pieces.mapM text?
      return (.text (String.join texts), rest)
    else if major = 4 then
      let (xs, rest) ← match argument with
        | .value n => readItems fuel n rest
        | .indefinite => readItemsToBreak fuel rest
      return (.list xs, rest)
    else if major = 5 then
      let (fs, rest) ← match argument with
        | .value n => readFields fuel n rest
        | .indefinite => readFieldsToBreak fuel rest
      return (.map (Fields.ofPairs fs), rest)
    else
      match argument with
      | .indefinite => none
      | .value n =>
        if major = 0 then return (.int n, rest)
        else if major = 1 then return (.int (-(n : Int) - 1), rest)
        else
          let (v, rest) ← readValue fuel rest
          return (← untag n v, rest)

/-- As many values as the number after the bound says. -/
def readItems : Nat → Nat → Bytes → Option (List Value × Bytes)
  | _, 0, s => some ([], s)
  | 0, _, _ => none
  | fuel + 1, n + 1, s => do
    let (x, s) ← readValue fuel s
    let (xs, s) ← readItems fuel n s
    return (x :: xs, s)

/-- Values up to a break. -/
def readItemsToBreak : Nat → Bytes → Option (List Value × Bytes)
  | 0, _ => none
  | fuel + 1, s =>
    match s with
    | [] => none
    | b :: rest =>
      if b = 0xff then some ([], rest)
      else do
        let (x, s) ← readValue fuel s
        let (xs, s) ← readItemsToBreak fuel s
        return (x :: xs, s)

/-- As many fields as the number after the bound says. -/
def readFields : Nat → Nat → Bytes → Option (List (Value × Value) × Bytes)
  | _, 0, s => some ([], s)
  | 0, _, _ => none
  | fuel + 1, n + 1, s => do
    let (k, s) ← readValue fuel s
    let (x, s) ← readValue fuel s
    let (fs, s) ← readFields fuel n s
    return ((asKey k, x) :: fs, s)

/-- Fields up to a break. -/
def readFieldsToBreak : Nat → Bytes → Option (List (Value × Value) × Bytes)
  | 0, _ => none
  | fuel + 1, s =>
    match s with
    | [] => none
    | b :: rest =>
      if b = 0xff then some ([], rest)
      else do
        let (k, s) ← readValue fuel s
        let (x, s) ← readValue fuel s
        let (fs, s) ← readFieldsToBreak fuel s
        return ((asKey k, x) :: fs, s)

end

/-- The value at the front of bytes. -/
def read (s : Bytes) : Option Value := (readValue (2 * s.length + 2) s).map (·.1)

end ServiceClient.Cbor
