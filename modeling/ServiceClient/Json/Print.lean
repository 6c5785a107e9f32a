import ServiceClient.Json.Read

/-!
# Writing JSON

Values as JSON text in ASCII. Numbers that JSON lacks are written `NaN`, `Infinity` and
`-Infinity`; keys that are numbers, booleans or null become strings. A surrogate is written as
its escape. An integer that is too long to be read is too long to be written.

* `Json.print`: the text of a value under a choice of separators.
* `Json.quote`: the escapes of a string.
-/

namespace ServiceClient.Json

/-- What stands between the items of a container and after a key. -/
structure Separators where
  item : List Char
  key : List Char

/-- No blanks at all. -/
def compact : Separators := ⟨[','], [':']⟩

/-- A blank after each separator. -/
def spaced : Separators := ⟨[',', ' '], [':', ' ']⟩

/-- Why a value has no JSON text. -/
inductive PrintError
  /-- A key that is no string, number, boolean or null. -/
  | key (className : String)
  /-- A value that JSON cannot hold. -/
  | value (className : String)
  /-- An integer with more digits than are written. -/
  | longInteger
deriving DecidableEq, Repr

def PrintError.message : PrintError → String
  | .key name => "keys must be str, int, float, bool or None, not " ++ name
  | .value name => "Object of type " ++ name ++ " is not JSON serializable"
  | .longInteger => longIntegerText

/-- The escape of a code unit of 16 bits. -/
def unitEscape (n : Nat) : List Char := '\\' :: 'u' :: hexPadded 4 n

/-- A character of a string: printable ASCII as it is, all else escaped. -/
def escape (c : Char) : List Char :=
  if c = '"' ∨ c = '\\' then ['\\', c]
  else if 32 ≤ c.toNat ∧ c.toNat < 127 then [c]
  else if c = '\n' then ['\\', 'n']
  else if c = '\r' then ['\\', 'r']
  else if c = '\t' then ['\\', 't']
  else if c.toNat = 8 then ['\\', 'b']
  else if c.toNat = 12 then ['\\', 'f']
  else if c.toNat < 0x10000 then unitEscape c.toNat
  else
    let n := c.toNat - 0x10000
    unitEscape (0xD800 + n / 1024) ++ unitEscape (0xDC00 + n % 1024)

/-- A string between double quotes. -/
def quote (s : List Char) : List Char := '"' :: s.flatMap escape ++ ['"']

/-- A code point of a string. -/
def escapePoint : CodePoint → List Char
  | .char c => escape c
  | p => unitEscape p.toNat

/-- Code points between double quotes. -/
def quotePoints (points : List CodePoint) : List Char := '"' :: points.flatMap escapePoint ++ ['"']

@[simp] theorem quotePoints_map_char (s : List Char) : quotePoints (s.map .char) = quote s := by
  unfold quotePoints quote
  rw [List.flatMap_map]
  rfl

/-- A double: the shortest text that reads back, or a word. -/
def printDouble (d : Double) : List Char :=
  if d.isNaN then "NaN".toList
  else if d.isInfinite then (if d.isNegative then "-Infinity" else "Infinity").toList
  else d.text.toList

def printInt (n : Int) : List Char :=
  if n < 0 then '-' :: decimalDigits n.natAbs else decimalDigits n.natAbs

/-- The text of an integer, if it has not too many digits. -/
def integerText (n : Int) : Except PrintError (List Char) :=
  if maxIntegerDigits < (decimalDigits n.natAbs).length then .error .longInteger
  else .ok (printInt n)

/-- The string that a key becomes. -/
def keyText (k : Value) : Except PrintError Text :=
  match k with
  | .text s => .ok s
  | .loose t => .ok t.text
  | .null => .ok "null"
  | .bool b => .ok (if b then "true" else "false" : String)
  | .int n => (integerText n).map Text.ofChars
  | .double d => .ok (.ofChars (printDouble d))
  | k => .error (.key (k.className .memory))

mutual

/-- The JSON text of a value. -/
def print (sep : Separators) : Value → Except PrintError (List Char)
  | .null => .ok "null".toList
  | .bool b => .ok (if b then "true" else "false").toList
  | .int n => integerText n
  | .double d => .ok (printDouble d)
  | .text s => .ok (quote s.toList)
  | .loose t => .ok (quotePoints t.text.points)
  | .list xs => do return '[' :: (← printItems sep xs) ++ [']']
  | .tuple xs => do return '[' :: (← printItems sep xs) ++ [']']
  | .map fs => do return '{' :: (← printFields sep fs) ++ ['}']
  | v => .error (.value (v.className .memory))

/-- The items of an array, each but the last with a separator. -/
def printItems (sep : Separators) : List Value → Except PrintError (List Char)
  | [] => .ok []
  | x :: xs => do
    let head ← print sep x
    let tail ← printItems sep xs
    return head ++ (if xs.isEmpty then [] else sep.item) ++ tail

/-- The fields of an object, each but the last with a separator. -/
def printFields (sep : Separators) : List (Value × Value) → Except PrintError (List Char)
  | [] => .ok []
  | (k, x) :: rest => do
    let key ← keyText k
    let head ← print sep x
    let tail ← printFields sep rest
    return quotePoints key.points ++ sep.key ++ head ++
      (if rest.isEmpty then [] else sep.item) ++ tail

end

end ServiceClient.Json
