import ServiceClient.Text.Quoted
import ServiceClient.Value

/-!
# Values in text

How values read in headers, query strings and messages. A text by itself stands as it is; in a
container it is quoted. An integer with too many digits has no text, and neither has a container
with such an integer in it.

* `Value.quoted?`: a value as it is shown in a container.
* `Value.display?`: a value by itself.
* `Value.typeName`, `Value.className`: the name of a value's type in messages.
* `Text.excerpt`: the start of a long text, for messages.
-/

namespace ServiceClient

/-- The longest integer that is read or written, in digits. -/
def maxIntegerDigits : Nat := 4300

/-- The refusal of an integer that is too long to be written. -/
def longIntegerText : String :=
  "Exceeds the limit (" ++ toString maxIntegerDigits ++ " digits) for integer string " ++
    "conversion; use sys.set_int_max_str_digits() to increase the limit"

/-- The refusal of digits that are too many to be read. -/
def longDigitsText (digits : Nat) : String :=
  "Exceeds the limit (" ++ toString maxIntegerDigits ++ " digits) for integer string " ++
    "conversion: value has " ++ toString digits ++
    " digits; use sys.set_int_max_str_digits() to increase the limit"

/-- Whether an integer has too many digits to be written. -/
def isLongInteger (n : Int) : Bool := maxIntegerDigits < (decimalDigits n.natAbs).length

/-- A list of texts between brackets, with commas. -/
def bracketed (before after : String) (items : List String) : String :=
  before ++ ", ".intercalate items ++ after

/-- An offset as it is shown in a container. -/
def offsetQuoted (offset : Int) : String :=
  if offset = 0 then "datetime.timezone.utc"
  else
    let days := offset / 86400
    let seconds := offset % 86400
    let parts :=
      (if days = 0 then [] else ["days=" ++ toString days]) ++
        (if seconds = 0 then [] else ["seconds=" ++ toString seconds])
    "datetime.timezone(datetime.timedelta(" ++ ", ".intercalate parts ++ "))"

/-- A timestamp as it is shown in a container: its parts without trailing zero seconds. -/
def Timestamp.quoted (t : Timestamp) : String :=
  let d := t.date
  let c := t.timeOfDay
  let parts := [d.year.toNat, d.month, d.day, c.hour, c.minute] ++
    (if c.microsecond = 0 then (if c.second = 0 then [] else [c.second])
      else [c.second, c.microsecond])
  let zone := (t.offset.map fun o => ", tzinfo=" ++ offsetQuoted o).getD ""
  "datetime.datetime(" ++ ", ".intercalate (parts.map toString) ++ zone ++ ")"

namespace Value

mutual

/-- A value as it is shown in a container. -/
def quoted? : Value → Option String
  | .null => some "None"
  | .bool b => some (if b then "True" else "False")
  | .int n => if isLongInteger n then none else some (toString n)
  | .double d => some d.text
  | .decimal d => some ("Decimal('" ++ d.text ++ "')")
  | .text s => some (quoteText s)
  | .loose t => some (quoteText t.text)
  | .bytes .fixed s => some (quoteBytes s)
  | .bytes .array s => some ("bytearray(" ++ quoteBytes s ++ ")")
  | .bytes .view _ => some "<memory>"
  | .timestamp t => some t.quoted
  | .list xs => do return bracketed "[" "]" (← quotedItems? xs)
  | .tuple xs => do
    match ← quotedItems? xs with
    | [x] => return "(" ++ x ++ ",)"
    | items => return bracketed "(" ")" items
  | .set xs => do
    match ← quotedItems? xs with
    | [] => return "set()"
    | items => return bracketed "\x7b" "\x7d" items
  | .map fs => do return bracketed "\x7b" "\x7d" (← quotedFields? fs)
  | .symbol s => some ("SymbolToken(text=" ++ quoteText s ++ ", sid=None, location=None)")
  | .tagged n v => do return "CBORTag(" ++ toString n ++ ", " ++ (← quoted? v) ++ ")"
  | .simple n => some ("CBORSimpleValue(value=" ++ toString n ++ ")")
  | .undefined => some "undefined"

def quotedItems? : List Value → Option (List String)
  | [] => some []
  | x :: xs => do return (← quoted? x) :: (← quotedItems? xs)

def quotedFields? : List (Value × Value) → Option (List String)
  | [] => some []
  | (k, v) :: rest => do
    let key ← quoted? k
    let value ← quoted? v
    return (key ++ ": " ++ value) :: (← quotedFields? rest)

end

/-- A value by itself. -/
def display? : Value → Option Text
  | .text s => some s
  | .loose t => some t.text
  | .decimal d => some d.text
  | .timestamp t => some (t.isoTextWith " ")
  | v => v.quoted?.map Text.ofString

/-- Where a value comes from. Scalars read from an Ion document have types of their own. -/
inductive Origin
  | memory
  | ion
deriving DecidableEq, Repr, Inhabited

/-- The full name of a value's type. -/
def typeName (origin : Origin) (v : Value) : String :=
  match origin, v with
  | .ion, .null => "NoneType"
  | .ion, .bool _ => "IonPyBool"
  | .ion, .int _ => "IonPyInt"
  | .ion, .double _ => "IonPyFloat"
  | .ion, .decimal _ => "IonPyDecimal"
  | .ion, .text _ | .ion, .loose _ => "IonPyText"
  | .ion, .bytes .. => "IonPyBytes"
  | .ion, .timestamp _ => "IonPyTimestamp"
  | _, .null => "NoneType"
  | _, .bool _ => "bool"
  | _, .int _ => "int"
  | _, .double _ => "float"
  | _, .decimal _ => "decimal.Decimal"
  | _, .text _ | _, .loose _ => "str"
  | _, .bytes .fixed _ => "bytes"
  | _, .bytes .array _ => "bytearray"
  | _, .bytes .view _ => "memoryview"
  | _, .timestamp _ => "datetime.datetime"
  | _, .list _ => "list"
  | _, .tuple _ => "tuple"
  | _, .set _ => "set"
  | _, .map _ => "dict"
  | _, .symbol _ => "IonPySymbol"
  | _, .tagged .. => "CBORTag"
  | _, .simple _ => "CBORSimpleValue"
  | _, .undefined => "UndefinedType"

/-- The name of a value's type without its module. -/
def className (origin : Origin) (v : Value) : String :=
  match origin, v with
  | .memory, .decimal _ => "Decimal"
  | .memory, .timestamp _ => "datetime"
  | _, _ => typeName origin v

end Value

namespace Text

/-- The code points before an end that counts from the front, or from the back if it is
negative. -/
def takeUpTo (stop : Int) (points : List CodePoint) : List CodePoint :=
  if 0 ≤ stop then points.take stop.toNat else points.take (points.length - stop.natAbs)

/-- A text of at most `limit` code points as it is; of a longer one the start and three dots. -/
def excerpt (limit : Int) (t : Text) : Text :=
  if limit < t.length then ⟨takeUpTo limit t.points⟩ ++ ("..." : Text) else t

end Text

/-- The limit of the excerpts in messages. -/
def excerptLimit : Int := 100

/-- The excerpt of a value. A value that is empty or zero has an empty one. -/
def Value.excerpt? (limit : Int) (v : Value) : Option Text :=
  if v.isFalsy then some (Text.excerpt limit "") else v.display?.map (Text.excerpt limit)

end ServiceClient
