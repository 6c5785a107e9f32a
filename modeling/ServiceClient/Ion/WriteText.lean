import ServiceClient.Text.Base64
import ServiceClient.Value

/-!
# Writing Ion text

Values in the text form of Ion, behind the version marker and without blanks.

* `Ion.writeText`: the text of a whole document, if the value has one.
* `Ion.textOf`: the text of a value.
-/

namespace ServiceClient.Ion

/-- The escape of a character, if it needs one in text between `quote` marks. -/
def escape (quote c : Char) : List Char :=
  if c = quote ∨ c = '\\' then ['\\', c]
  else if 32 ≤ c.toNat then [c]
  else
    match c.toNat with
    | 0 => ['\\', '0']
    | 7 => ['\\', 'a']
    | 8 => ['\\', 'b']
    | 9 => ['\\', 't']
    | 10 => ['\\', 'n']
    | 11 => ['\\', 'v']
    | 12 => ['\\', 'f']
    | 13 => ['\\', 'r']
    | n => '\\' :: 'x' :: hexPadded 2 n

/-- A text between quote marks. -/
def quoted (quote : Char) (s : String) : List Char :=
  quote :: s.toList.flatMap (escape quote) ++ [quote]

/-- A character that can start a bare name. -/
def isNameStart (c : Char) : Bool := c.isAlpha || c = '_' || c = '$'

/-- The words that are no bare names. -/
def reservedWords : List String := ["null", "true", "false", "nan"]

/-- A name of the form `$` and digits, which refers to a symbol by number. -/
def isNumbered (s : List Char) : Bool :=
  match s with
  | '$' :: rest => !rest.isEmpty && rest.all Char.isDigit
  | _ => false

/-- Whether a name can stand without quotes. -/
def isBareName (s : String) : Bool :=
  match s.toList with
  | [] => false
  | c :: rest =>
    isNameStart c && rest.all (fun d => isNameStart d || d.isDigit) &&
      !isNumbered (c :: rest) && !reservedWords.contains s

/-- The name of a field, quoted where it has to be. -/
def nameText (s : String) : List Char := if isBareName s then s.toList else quoted '\'' s

/-- A double with twenty significant digits and always an exponent. -/
def doubleText (d : Double) : String :=
  if d.isNaN then "nan"
  else if d.isInfinite then (if d.isNegative then "-inf" else "+inf")
  else if d.isZero then (if d.isNegative then "-0e0" else "0e0")
  else
    let s := d.general 20
    if s.toList.contains 'e' then s else s ++ "e+0"

/-- A decimal with its digits kept; whole numbers end in `d0`. -/
def decimalText? : Decimal → Option String
  | d@(.finite ..) =>
    let s := d.text.toList.map fun c => if c = 'E' then 'd' else c
    some (String.ofList (if s.contains '.' || s.contains 'd' then s else s ++ ['d', '0']))
  | _ => none

/-- A timestamp with six digits of fraction. -/
def timestampText (t : Timestamp) : String :=
  t.dateText ++ "T" ++ t.timeText ++ "." ++ zeroPadded 6 t.timeOfDay.microsecond ++
    (match t.minuteOffset.offset with
      | none => "-00:00"
      | some o => if o = 0 then "Z" else Timestamp.offsetText o)

mutual

/-- The text of a value. -/
def textOf : Value → Option (List Char)
  | .null => some "null".toList
  | .bool b => some (if b then "true" else "false").toList
  | .int n => some (toString n).toList
  | .double d => some (doubleText d).toList
  | .decimal d => (decimalText? d).map String.toList
  | .text s => some (quoted '"' s)
  | .symbol s => some (nameText s)
  | .bytes .view _ => none
  | .bytes _ s => some ('{' :: '{' :: Base64.encodeChars s ++ ['}', '}'])
  | .timestamp t => some (timestampText t).toList
  | .list xs => do return '[' :: (← itemsText xs) ++ [']']
  | .tuple xs => do return '[' :: (← itemsText xs) ++ [']']
  | .map fs => do return '{' :: (← fieldsText fs) ++ ['}']
  | .loose _ | .set _ | .tagged .. | .simple _ | .undefined => none

def itemsText : List Value → Option (List Char)
  | [] => some []
  | x :: xs => do
    let head ← textOf x
    let tail ← itemsText xs
    return head ++ (if xs.isEmpty then [] else [',']) ++ tail

def fieldsText : List (Value × Value) → Option (List Char)
  | [] => some []
  | (k, x) :: rest =>
    match k with
    | .text name => do
      let head ← textOf x
      let tail ← fieldsText rest
      return nameText name ++ ':' :: head ++ (if rest.isEmpty then [] else [',']) ++ tail
    | _ => none

end

/-- The word that starts a document. -/
def versionWord : String := "$ion_1_0"

/-- A document of one value. -/
def writeText (v : Value) : Option String := do
  let body ← textOf v
  return versionWord ++ " " ++ String.ofList body

end ServiceClient.Ion
