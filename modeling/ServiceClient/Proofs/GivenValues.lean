import ServiceClient.Value

/-!
# Values that a caller gives

A caller gives values of every kind but three: tags, simple values and the undefined value of CBOR,
which have no meaning of their own. Timestamps stand in them in two places: where a writer meets
them, and inside of sets and keys, which are written as a whole.

* `Value.Given`: a value whose timestamps satisfy a condition for each of the two places.
-/

namespace ServiceClient

namespace Value

/-- A value that a caller gives: `free` holds of the timestamps that a writer meets, `fixed` of
those inside of sets and keys. -/
inductive Given (fixed : Timestamp → Prop) : (Timestamp → Prop) → Value → Prop
  | null {free} : Given fixed free .null
  | bool {free} (b : Bool) : Given fixed free (.bool b)
  | int {free} (n : Int) : Given fixed free (.int n)
  | double {free} (d : Double) : Given fixed free (.double d)
  | decimal {free} (d : Decimal) : Given fixed free (.decimal d)
  | text {free} (s : String) : Given fixed free (.text s)
  | loose {free} (t : Loose) : Given fixed free (.loose t)
  | symbol {free} (s : String) : Given fixed free (.symbol s)
  | bytes {free} (kind : BytesKind) (s : Bytes) : Given fixed free (.bytes kind s)
  | timestamp {free} {t : Timestamp} (h : free t) : Given fixed free (.timestamp t)
  | list {free} {items : List Value} (h : ∀ v ∈ items, Given fixed free v) :
    Given fixed free (.list items)
  | tuple {free} {items : List Value} (h : ∀ v ∈ items, Given fixed free v) :
    Given fixed free (.tuple items)
  | set {free} {items : List Value} (h : ∀ v ∈ items, Given fixed fixed v) :
    Given fixed free (.set items)
  | map {free} {fields : Fields} (hk : ∀ p ∈ fields, Given fixed fixed p.1)
    (hx : ∀ p ∈ fields, Given fixed free p.2) : Given fixed free (.map fields)

end Value

end ServiceClient
