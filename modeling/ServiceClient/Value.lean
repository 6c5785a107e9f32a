import ServiceClient.Number.Decimal
import ServiceClient.Text.Charset
import ServiceClient.Time.Timestamp

/-!
# Values

The dynamic values that requests carry, documents hold and responses contain. A map keeps its
fields in the order in which their keys first came.

* `Value`: the values of all formats together.
* `Value.ofText`: the value of a text, a string or not.
* `Value.sameKey`: when two keys of a map are one.
* `Fields.put`, `Fields.get?`: writing and reading a field.
-/

namespace ServiceClient

/-- The three kinds of byte string that a caller can pass. -/
inductive BytesKind
  | fixed
  | array
  | view
deriving DecidableEq, Repr, Inhabited

/-- A dynamic value. -/
inductive Value
  | null
  | bool (b : Bool)
  | int (n : Int)
  | double (d : Double)
  | decimal (d : Decimal)
  | text (s : String)
  /-- A text that no string is, since it has a surrogate. -/
  | loose (t : Loose)
  | bytes (kind : BytesKind) (data : Bytes)
  | timestamp (t : Timestamp)
  | list (items : List Value)
  | tuple (items : List Value)
  | set (items : List Value)
  | map (fields : List (Value × Value))
  /-- A symbol of the Ion formats. -/
  | symbol (s : String)
  /-- A CBOR tag without a meaning of its own. -/
  | tagged (tag : Nat) (content : Value)
  /-- A CBOR simple value without a meaning of its own. -/
  | simple (n : Nat)
  /-- The value of CBOR that stands for no value at all. It is not null. -/
  | undefined
deriving Repr, Inhabited

/-- The fields of a map, in order. -/
abbrev Fields := List (Value × Value)

namespace Value

/-- The byte string that readers produce. -/
abbrev blob (data : Bytes) : Value := .bytes .fixed data

/-- The value of a text. -/
def ofText (t : Text) : Value :=
  match h : t.string? with
  | some s => .text s
  | none => .loose ⟨t, h⟩

@[simp] theorem ofText_ofString (s : String) : ofText (Text.ofString s) = .text s := by
  unfold ofText
  split
  · next s' h =>
    rw [Text.string?_ofString] at h
    cases h
    rfl
  · next h =>
    rw [Text.string?_ofString] at h
    cases h

theorem ofText_loose (t : Loose) : ofText t.text = .loose t := by
  unfold ofText
  split
  · next h =>
    rw [t.isLoose] at h
    cases h
  · rfl

/-- The text that a value is. -/
def text? : Value → Option Text
  | .text s => some s
  | .loose t => some t.text
  | _ => none

@[simp] theorem text?_ofText (t : Text) : (ofText t).text? = some t := by
  unfold ofText
  split
  · next h => rw [text?, Text.string?_eq_some.1 h]
  · rfl

/-- A value is a text if it is the value of that text. -/
theorem text?_eq_some {v : Value} {t : Text} : v.text? = some t ↔ v = ofText t := by
  constructor
  · intro h
    cases v with
    | text s => rw [← Option.some.inj h, ofText_ofString]
    | loose l => rw [← Option.some.inj h, ofText_loose]
    | _ => cases h
  · rintro rfl
    exact text?_ofText t

theorem ofText_injective {a b : Text} (h : ofText a = ofText b) : a = b :=
  Option.some.inj (by rw [← text?_ofText a, h, text?_ofText])

@[simp] theorem ofText_inj {a b : Text} : ofText a = ofText b ↔ a = b :=
  ⟨ofText_injective, congrArg ofText⟩

/-- A number as a quotient, for those that are finite. -/
def ratio? : Value → Option (Int × Nat)
  | .bool b => some (if b then 1 else 0, 1)
  | .int n => some (n, 1)
  | .double d => if d.isFinite then some (d.numerator, d.ratio.2) else none
  | .decimal d => d.ratio?
  | _ => none

/-- The sign of an infinite number. -/
def infinite? : Value → Option Bool
  | .double d => if d.isInfinite then some d.isNegative else none
  | .decimal (.infinity negative) => some negative
  | _ => none

/-- Whether two values are numbers of equal size; a NaN equals nothing. -/
def sameNumber (a b : Value) : Bool :=
  match a.ratio?, b.ratio? with
  | some (n, d), some (m, e) => n * e == m * d
  | _, _ =>
    match a.infinite?, b.infinite? with
    | some s, some t => s == t
    | _, _ => false

mutual

/-- Whether two values are one key of a map: numbers by their size, all else by kind and
content, timestamps with an offset by their instant. -/
def sameKey : Value → Value → Bool
  | .null, .null => true
  | .text s, .text t => s == t
  | .loose s, .loose t => s == t
  | .symbol s, .symbol t => s == t
  | .bytes _ s, .bytes _ t => s == t
  | .timestamp s, .timestamp t =>
    s.offset.isSome == t.offset.isSome && s.instant == t.instant
  | .simple n, .simple m => n == m
  | .undefined, .undefined => true
  | .tagged n v, .tagged m w => n == m && sameKey v w
  | .tuple xs, .tuple ys => sameItems xs ys
  | .list xs, .list ys => sameItems xs ys
  | .set xs, .set ys => sameItems xs ys
  | .map xs, .map ys => sameFields xs ys
  | a, b => sameNumber a b

def sameItems : List Value → List Value → Bool
  | [], [] => true
  | x :: xs, y :: ys => sameKey x y && sameItems xs ys
  | _, _ => false

def sameFields : List (Value × Value) → List (Value × Value) → Bool
  | [], [] => true
  | (k, x) :: xs, (l, y) :: ys => sameKey k l && sameKey x y && sameFields xs ys
  | _, _ => false

end

mutual

/-- The first part of a value that keeps it from being a key: a container that can change. -/
def changeable? : Value → Option Value
  | .list xs => some (.list xs)
  | .set xs => some (.set xs)
  | .map fs => some (.map fs)
  | .bytes .array s => some (.bytes .array s)
  | .tuple xs => changeableItem? xs
  | _ => none

def changeableItem? : List Value → Option Value
  | [] => none
  | x :: xs =>
    match changeable? x with
    | some part => some part
    | none => changeableItem? xs

end

/-- Null, false, zero and everything empty. -/
def isFalsy : Value → Bool
  | .null | .undefined => true
  | .bool b => !b
  | .int n => n == 0
  | .double d => d.isZero
  | .decimal (.finite _ c _) => c == 0
  | .text s => s.isEmpty
  | .bytes _ s => s.isEmpty
  | .list xs | .tuple xs | .set xs => xs.isEmpty
  | .map fs => fs.isEmpty
  | _ => false

/-- The value of a text is a string, or a text with a surrogate. -/
theorem ofText_cases (t : Text) :
    (∃ s : String, t = s ∧ ofText t = .text s) ∨ ∃ l : Loose, t = l.text ∧ ofText t = .loose l := by
  cases h : t.string? with
  | some s =>
    have ht := Text.string?_eq_some.1 h
    exact .inl ⟨s, ht, by rw [ht, ofText_ofString]⟩
  | none => exact .inr ⟨⟨t, h⟩, rfl, ofText_loose ⟨t, h⟩⟩

/-- Two strings are one key if they are equal. -/
@[simp] theorem sameKey_text (s t : String) : sameKey (.text s) (.text t) = (s == t) := by
  unfold sameKey
  rfl

/-- Two texts are one key if they are equal. -/
@[simp] theorem sameKey_ofText (a b : Text) : sameKey (ofText a) (ofText b) = (a == b) := by
  -- a string and a text with a surrogate are different texts
  have hne : ∀ (s : String) (l : Loose), Text.ofString s ≠ l.text := by
    intro s l h
    have hl := l.isLoose
    rw [← h, Text.string?_ofString] at hl
    cases hl
  rcases ofText_cases a with ⟨s, rfl, ha⟩ | ⟨l, rfl, ha⟩ <;>
    rcases ofText_cases b with ⟨t, rfl, hb⟩ | ⟨m, rfl, hb⟩ <;> rw [ha, hb]
  · rw [sameKey_text, Bool.eq_iff_iff, beq_iff_eq, beq_iff_eq, Text.ofString_inj]
  · rw [beq_false_of_ne (hne s m)]
    unfold sameKey
    rfl
  · rw [beq_false_of_ne (hne t l).symm]
    unfold sameKey
    rfl
  · have hsame : sameKey (.loose l) (.loose m) = (l == m) := by
      unfold sameKey
      rfl
    have htext : l = m ↔ l.text = m.text := by
      cases l
      cases m
      rw [Loose.mk.injEq]
    rw [hsame, Bool.eq_iff_iff, beq_iff_eq, beq_iff_eq, htext]

/-- A text cannot change, so it can be a key. -/
@[simp] theorem changeable?_ofText (t : Text) : (ofText t).changeable? = none := by
  rcases ofText_cases t with ⟨s, -, h⟩ | ⟨l, -, h⟩ <;> rw [h] <;> unfold changeable? <;> rfl

end Value

namespace Fields

/-- Writes a field: a key that is there keeps its place and gets the new value, a new key goes
last. -/
def put (key value : Value) : Fields → Fields
  | [] => [(key, value)]
  | (k, v) :: rest =>
    if Value.sameKey k key then (k, value) :: rest else (k, v) :: put key value rest

/-- The value of a key. -/
def get? (key : Value) : Fields → Option Value
  | [] => none
  | (k, v) :: rest => if Value.sameKey k key then some v else get? key rest

/-- The fields of pairs in which keys may repeat. -/
def ofPairs (pairs : List (Value × Value)) : Fields :=
  pairs.foldl (fun fields kv => put kv.1 kv.2 fields) []

end Fields

end ServiceClient
