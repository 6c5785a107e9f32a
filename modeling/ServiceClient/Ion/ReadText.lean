import ServiceClient.Ion.ReadBinary

/-!
# Reading Ion text

Ion text documents as lists of their top-level values. Annotations are dropped, nulls of all
types are one null, and symbol tables are kept only while they are in force.

* `Ion.readText`: the values of a document, if it is well formed.
* `Ion.readTextValue`: one value with its annotations.
-/

namespace ServiceClient.Ion

/-- The blanks of Ion text. -/
def isTextSpace (c : Char) : Bool :=
  c = ' ' || c = '\t' || c = '\n' || c = '\r' || c.toNat = 11 || c.toNat = 12

/-- Drops a comment between `/*` and `*/`. -/
def dropBlockComment : List Char → Option (List Char)
  | '*' :: '/' :: rest => some rest
  | _ :: rest => dropBlockComment rest
  | [] => none

/-- Drops blanks and comments. The number bounds the comments. -/
def skipFill : Nat → List Char → Option (List Char)
  | 0, _ => none
  | fuel + 1, s =>
    match s.dropWhile isTextSpace with
    | '/' :: '/' :: rest => skipFill fuel (rest.dropWhile (· != '\n'))
    | '/' :: '*' :: rest => do skipFill fuel (← dropBlockComment rest)
    | rest => some rest

/-- Drops blanks and comments. -/
def skip (s : List Char) : Option (List Char) := skipFill (s.length + 1) s

/-- The number of exactly `width` hexadecimal digits at the front. -/
def readHex? (width : Nat) (s : List Char) : Option (Nat × List Char) := do
  let (digits, rest) := (s.take width, s.drop width)
  if digits.length = width then
    let n ← digits.foldlM (fun n c => (hexValue? c).map (n * 16 + ·)) 0
    return (n, rest)
  else none

/-- The character of a code point that is no surrogate. -/
def charOf? (n : Nat) : Option Char := if n.isValidChar then some (Char.ofNat n) else none

/-- What an escape stands for, behind its backslash: a character, or nothing for an escaped
line break. -/
def readEscape (s : List Char) : Option (List Char × List Char) :=
  match s with
  | '0' :: rest => some ([Char.ofNat 0], rest)
  | 'a' :: rest => some ([Char.ofNat 7], rest)
  | 'b' :: rest => some ([Char.ofNat 8], rest)
  | 't' :: rest => some (['\t'], rest)
  | 'n' :: rest => some (['\n'], rest)
  | 'f' :: rest => some ([Char.ofNat 12], rest)
  | 'r' :: rest => some (['\r'], rest)
  | 'v' :: rest => some ([Char.ofNat 11], rest)
  | '"' :: rest => some (['"'], rest)
  | '\'' :: rest => some (['\''], rest)
  | '?' :: rest => some (['?'], rest)
  | '\\' :: rest => some (['\\'], rest)
  | '/' :: rest => some (['/'], rest)
  | '\r' :: '\n' :: rest => some ([], rest)
  | '\n' :: rest => some ([], rest)
  | '\r' :: rest => some ([], rest)
  | 'x' :: rest => do
    let (n, rest) ← readHex? 2 rest
    return ([← charOf? n], rest)
  | 'u' :: rest => do
    let (n, rest) ← readHex? 4 rest
    if 0xD800 ≤ n ∧ n < 0xDC00 then
      match rest with
      | '\\' :: 'u' :: tail =>
        let (m, rest) ← readHex? 4 tail
        if 0xDC00 ≤ m ∧ m < 0xE000 then
          return ([← charOf? (0x10000 + (n - 0xD800) * 1024 + (m - 0xDC00))], rest)
        else none
      | _ => none
    else return ([← charOf? n], rest)
  | 'U' :: rest => do
    let (n, rest) ← readHex? 8 rest
    return ([← charOf? n], rest)
  | _ => none

/-- The rest of a text up to its closing quote mark. -/
def readQuoted (quote : Char) : Nat → List Char → Option (List Char × List Char)
  | 0, _ => none
  | _ + 1, [] => none
  | fuel + 1, c :: rest =>
    if c = quote then some ([], rest)
    else if c = '\\' then do
      let (part, rest) ← readEscape rest
      let (tail, rest) ← readQuoted quote fuel rest
      return (part ++ tail, rest)
    else if c.toNat < 32 ∧ c ≠ '\t' ∧ c.toNat ≠ 11 ∧ c.toNat ≠ 12 then none
    else do
      let (tail, rest) ← readQuoted quote fuel rest
      return (c :: tail, rest)

/-- The rest of a long text up to its three closing quote marks. -/
def readLong : Nat → List Char → Option (List Char × List Char)
  | 0, _ => none
  | fuel + 1, s =>
    match s with
    | [] => none
    | '\'' :: '\'' :: '\'' :: rest => some ([], rest)
    | '\\' :: rest => do
      let (part, rest) ← readEscape rest
      let (tail, rest) ← readLong fuel rest
      return (part ++ tail, rest)
    | '\r' :: '\n' :: rest => do
      let (tail, rest) ← readLong fuel rest
      return ('\n' :: tail, rest)
    | c :: rest => do
      let (tail, rest) ← readLong fuel rest
      return ((if c = '\r' then '\n' else c) :: tail, rest)

/-- A long text behind its opening quote marks, together with those that follow it. -/
def readLongs : Nat → List Char → Option (List Char × List Char)
  | 0, _ => none
  | fuel + 1, s => do
    let (part, rest) ← readLong (s.length + 1) s
    match ← skip rest with
    | '\'' :: '\'' :: '\'' :: tail =>
      let (more, rest) ← readLongs fuel tail
      return (part ++ more, rest)
    | _ => return (part, rest)

/-- A character that ends a number. -/
def endsNumber (s : List Char) : Bool :=
  match s with
  | [] => true
  | c :: _ => isTextSpace c || ['{', '}', '[', ']', '(', ')', ',', '"', '\'', ':', '/'].contains c

/-- Removes underscores between digits; none if one stands elsewhere. -/
def plainDigits? (s : List Char) : Option (List Char) :=
  match s with
  | [] => none
  | '_' :: _ => none
  | _ =>
    if s.getLast? = some '_' then none
    else if (s.zip s.tail).any (· == ('_', '_')) then none
    else some (s.filter (· != '_'))

/-- A whole part is a zero or does not start with one. -/
def isWholePart (s : List Char) : Bool :=
  match s with
  | '0' :: _ :: _ => false
  | s => !s.isEmpty

def isDigitOrBar (c : Char) : Bool := c.isDigit || c = '_'

/-- The exponent behind its letter. -/
def readExponentPart (s : List Char) : Option (Int × List Char) := do
  let (down, s) := ScientificText.signed s
  let digits ← plainDigits? (s.takeWhile isDigitOrBar)
  let n : Int := Nat.ofDigitChars 10 digits 0
  return (if down then -n else n, s.dropWhile isDigitOrBar)

/-- A number in hexadecimal or binary digits, behind its two-character mark. -/
def readBased (base : Nat) (negative : Bool) (s : List Char) : Option (Value × List Char) := do
  let taken := s.takeWhile fun c => c.isAlphanum || c = '_'
  let digits ← plainDigits? taken
  let n ← digits.foldlM (fun n c => do
    let d ← hexValue? c
    if d < base then some (n * base + d) else none) 0
  return (.int (signed negative n), s.dropWhile fun c => c.isAlphanum || c = '_')

/-- The digits behind a point, and whether there is a point. -/
def readPoint (s : List Char) : Option (Bool × List Char × List Char) :=
  match s with
  | '.' :: rest =>
    let digits := rest.takeWhile isDigitOrBar
    if digits.isEmpty then some (true, [], rest)
    else (plainDigits? digits).map fun d => (true, d, rest.dropWhile isDigitOrBar)
  | _ => some (false, [], s)

/-- The number of the digits before and behind the point with the exponent that follows: a double
with an `e`, a decimal with a `d` or a point, else an integer. -/
def readScaled (negative hasPoint : Bool) (whole fraction s : List Char) :
    Option (Value × List Char) :=
  let coefficient := Nat.ofDigitChars 10 (whole ++ fraction) 0
  let plain : Value :=
    if hasPoint then .decimal (.finite negative coefficient (-(fraction.length : Int)))
    else .int (signed negative coefficient)
  match s with
  | [] => some (plain, [])
  | c :: tail =>
    if c = 'e' ∨ c = 'E' then do
      let (e, rest) ← readExponentPart tail
      return (.double (Double.ofScientific negative coefficient (e - fraction.length)), rest)
    else if c = 'd' ∨ c = 'D' then do
      let (e, rest) ← readExponentPart tail
      return (.decimal (.finite negative coefficient (e - fraction.length)), rest)
    else some (plain, s)

/-- A number without its sign. -/
def readUnsigned (negative : Bool) (s : List Char) : Option (Value × List Char) :=
  match s with
  | '0' :: 'x' :: rest => readBased 16 negative rest
  | '0' :: 'X' :: rest => readBased 16 negative rest
  | '0' :: 'b' :: rest => readBased 2 negative rest
  | '0' :: 'B' :: rest => readBased 2 negative rest
  | _ => do
    let whole ← plainDigits? (s.takeWhile isDigitOrBar)
    if !isWholePart whole then none
    else
      let (hasPoint, fraction, rest) ← readPoint (s.dropWhile isDigitOrBar)
      readScaled negative hasPoint whole fraction rest

/-- A number up to a character that ends it. -/
def readTextNumber (s : List Char) : Option (Value × List Char) := do
  let (v, rest) ← match s with
    | '-' :: rest => readUnsigned true rest
    | _ => readUnsigned false s
  if endsNumber rest then return (v, rest) else none

/-- The offset of a timestamp; `-00:00` is an unknown one. -/
def readTextOffset (s : List Char) : Option (Option Int × List Char) :=
  match s with
  | 'Z' :: rest => some (some 0, rest)
  | c :: rest => do
    let negative ← if c = '+' then some false else if c = '-' then some true else none
    let (h, rest) ← fixedDigits? 2 rest
    let rest ← expectChar? ':' rest
    let (m, rest) ← fixedDigits? 2 rest
    if 24 ≤ h ∨ 60 ≤ m then none
    else if negative && h = 0 && m = 0 then return (none, rest)
    else return (some (signed negative (h * 3600 + m * 60)), rest)
  | [] => none

/-- A timestamp with as many parts as are given. -/
def readTextTimestamp (s : List Char) : Option (Value × List Char) := do
  let midnight : TimeOfDay := ⟨0, 0, 0, 0⟩
  let finish (d : Date) (c : TimeOfDay) (zone : Option Int) (rest : List Char) :
      Option (Value × List Char) := do
    let t ← Timestamp.ofParts? d c zone
    if endsNumber rest then return (.timestamp t, rest) else none
  let (year, s) ← fixedDigits? 4 s
  match s with
  | 'T' :: rest => finish ⟨year, 1, 1⟩ midnight none rest
  | _ =>
    let s ← expectChar? '-' s
    let (month, s) ← fixedDigits? 2 s
    match s with
    | 'T' :: rest => finish ⟨year, month, 1⟩ midnight none rest
    | _ =>
      let s ← expectChar? '-' s
      let (day, s) ← fixedDigits? 2 s
      match s with
      | 'T' :: h :: rest =>
        if h.isDigit then
          let (hour, s) ← fixedDigits? 2 (h :: rest)
          let s ← expectChar? ':' s
          let (minute, s) ← fixedDigits? 2 s
          let (second, micro, s) ← match s with
            | ':' :: rest => do
              let (second, s) ← fixedDigits? 2 rest
              let (micro, s) ← Timestamp.readFraction s
              some (second, micro, s)
            | _ => some (0, 0, s)
          let (zone, s) ← readTextOffset s
          finish ⟨year, month, day⟩ ⟨hour, minute, second, micro⟩ zone s
        else finish ⟨year, month, day⟩ midnight none (h :: rest)
      | 'T' :: rest => finish ⟨year, month, day⟩ midnight none rest
      | rest => finish ⟨year, month, day⟩ midnight none rest

/-- Whether four digits and a hyphen or a `T` start the text. -/
def startsTimestamp (s : List Char) : Bool :=
  match s with
  | a :: b :: c :: d :: e :: _ =>
    a.isDigit && b.isDigit && c.isDigit && d.isDigit && (e = '-' || e = 'T')
  | _ => false

/-- The word at the front. -/
def takeName (s : List Char) : List Char × List Char :=
  (s.takeWhile fun c => isNameStart c || c.isDigit, s.dropWhile fun c => isNameStart c || c.isDigit)

/-- Whether `inf` stands at the front as a word of its own. -/
def isInfinityWord (s : List Char) : Bool :=
  match s with
  | 'i' :: 'n' :: 'f' :: rest => endsNumber rest
  | _ => false

/-- The types that a null can have. -/
def nullTypes : List String :=
  ["null", "bool", "int", "float", "decimal", "timestamp", "symbol", "string", "clob", "blob",
    "list", "sexp", "struct"]

/-- A character of the operators that s-expressions have. -/
def isOperator (c : Char) : Bool := "!#%&*+-./;<=>?@^|~".toList.contains c || c.toNat = 96

/-- The content of a blob: base 64 with blanks anywhere, exactly padded. -/
def readBlob (s : List Char) : Option (Value × List Char) := do
  let body := s.takeWhile (· != '}')
  match s.dropWhile (· != '}') with
  | '}' :: '}' :: rest =>
    let plain := body.filter fun c => !isTextSpace c
    let digits := plain.takeWhile (· != '=')
    let pads := plain.dropWhile (· != '=')
    if plain.length % 4 = 0 && digits.all (fun c => (Base64.value? c).isSome) &&
        pads.all (· == '=') && pads.length ≤ 2 then
      match Base64.decode plain with
      | .ok bytes => return (.blob bytes, rest)
      | .error _ => none
    else none
  | _ => none

/-- The bytes of a clob's text, which is ASCII with escapes for the rest. -/
def clobBytes? (s : List Char) : Option Bytes :=
  s.mapM fun c => if c.toNat < 256 then some (UInt8.ofNat c.toNat) else none

/-- A clob behind its opening braces. -/
def readClob (s : List Char) : Option (Value × List Char) := do
  let (chars, rest) ← match s with
    | '"' :: rest => readQuoted '"' (rest.length + 1) rest
    | '\'' :: '\'' :: '\'' :: rest => readLongs (rest.length + 1) rest
    | _ => none
  match rest.dropWhile isTextSpace with
  | '}' :: '}' :: rest => return (.blob (← clobBytes? chars), rest)
  | _ => none

/-- The text of a symbol: a name, or a number under a table. -/
def symbolText? (table : List String) (word : List Char) : Option String :=
  if isNumbered word then nameOf? table (Nat.ofDigitChars 10 word.tail 0)
  else some (String.ofList word)

/-- A value that starts with a word: a null, a boolean, NaN or a symbol. The flag tells whether
it can be an annotation. -/
def readNamed (table : List String) (s : List Char) : Option (Value × Bool × List Char) := do
  let (word, rest) := takeName s
  if word = "null".toList then
    match rest with
    | '.' :: tail =>
      let (type, rest) := takeName tail
      if nullTypes.contains (String.ofList type) then return (.null, false, rest) else none
    | _ => return (.null, false, rest)
  else if word = "true".toList then return (.bool true, false, rest)
  else if word = "false".toList then return (.bool false, false, rest)
  else if word = "nan".toList then return (.double Double.nan, false, rest)
  else return (.symbol (← symbolText? table word), true, rest)

/-- The name of a field up to its colon. -/
def readFieldName (table : List String) (s : List Char) : Option (String × List Char) := do
  let (name, rest) ← match s with
    | '"' :: rest => do
      let (chars, rest) ← readQuoted '"' (rest.length + 1) rest
      some (String.ofList chars, rest)
    | '\'' :: '\'' :: '\'' :: rest => do
      let (chars, rest) ← readLongs (rest.length + 1) rest
      some (String.ofList chars, rest)
    | '\'' :: rest => do
      let (chars, rest) ← readQuoted '\'' (rest.length + 1) rest
      some (String.ofList chars, rest)
    | c :: _ =>
      if isNameStart c then
        let (word, rest) := takeName s
        if reservedWords.contains (String.ofList word) then none
        else (symbolText? table word).map fun name => (name, rest)
      else none
    | [] => none
  match ← skip rest with
  | ':' :: rest => return (name, rest)
  | _ => none

/-- Passes on a symbol as an annotation if two colons follow it. -/
def annotation? (s : List Char) : Option (List Char) :=
  match skip s with
  | some (':' :: ':' :: rest) => some rest
  | _ => none

mutual

/-- A value with its annotations, from its first character on. The number bounds the steps;
`inner` tells whether an s-expression is around the value. -/
def readTextValue (table : List String) (inner : Bool) :
    Nat → List Char → Option (List String × Value × List Char)
  | 0, _ => none
  | fuel + 1, s =>
    match s with
    | [] => none
    | '{' :: '{' :: rest => do
      -- slashes start no comment here: they are digits of base 64
      let rest := rest.dropWhile isTextSpace
      let (v, rest) ← match rest with
        | '"' :: _ => readClob rest
        | '\'' :: _ => readClob rest
        | _ => readBlob rest
      return ([], v, rest)
    | '{' :: rest => do
      let (fs, rest) ← readTextFields table fuel (← skip rest)
      return ([], .map (Fields.ofPairs fs), rest)
    | '[' :: rest => do
      let (xs, rest) ← readTextItems table fuel (← skip rest)
      return ([], .list xs, rest)
    | '(' :: rest => do
      let (xs, rest) ← readTextSexp table fuel (← skip rest)
      return ([], .list xs, rest)
    | '"' :: rest => do
      let (chars, rest) ← readQuoted '"' (rest.length + 1) rest
      return ([], .text (String.ofList chars), rest)
    | '\'' :: '\'' :: '\'' :: rest => do
      let (chars, rest) ← readLongs (rest.length + 1) rest
      return ([], .text (String.ofList chars), rest)
    | '\'' :: rest => do
      let (chars, rest) ← readQuoted '\'' (rest.length + 1) rest
      match annotation? rest with
      | some rest => do
        let (names, v, rest) ← readTextValue table inner fuel (← skip rest)
        return (String.ofList chars :: names, v, rest)
      | none => return ([], .symbol (String.ofList chars), rest)
    | c :: rest =>
      if isNameStart c then do
        let (v, isSymbol, rest) ← readNamed table s
        match isSymbol, v, annotation? rest with
        | true, .symbol name, some rest => do
          let (names, v, rest) ← readTextValue table inner fuel (← skip rest)
          return (name :: names, v, rest)
        | _, _, _ => return ([], v, rest)
      else if c.isDigit then do
        let (v, rest) ← if startsTimestamp s then readTextTimestamp s else readTextNumber s
        return ([], v, rest)
      else if (c = '-' || c = '+') && isInfinityWord rest then
        return ([], .double (Double.infinity (c = '-')), rest.drop 3)
      else if c = '-' && (rest.head?.map Char.isDigit).getD false then do
        let (v, rest) ← readTextNumber s
        return ([], v, rest)
      else if inner && isOperator c then
        return ([], .symbol (String.ofList (s.takeWhile isOperator)), s.dropWhile isOperator)
      else none

/-- The items of a list up to its end; a comma may follow the last one. -/
def readTextItems (table : List String) : Nat → List Char → Option (List Value × List Char)
  | 0, _ => none
  | fuel + 1, s =>
    match s with
    | ']' :: rest => some ([], rest)
    | _ => do
      let (_, x, rest) ← readTextValue table false fuel s
      match ← skip rest with
      | ']' :: rest => return ([x], rest)
      | ',' :: rest => do
        let (xs, rest) ← readTextItems table fuel (← skip rest)
        return (x :: xs, rest)
      | _ => none

/-- The items of an s-expression up to its end. -/
def readTextSexp (table : List String) : Nat → List Char → Option (List Value × List Char)
  | 0, _ => none
  | fuel + 1, s =>
    match s with
    | ')' :: rest => some ([], rest)
    | _ => do
      let (_, x, rest) ← readTextValue table true fuel s
      let (xs, rest) ← readTextSexp table fuel (← skip rest)
      return (x :: xs, rest)

/-- The fields of a struct up to its end; a comma may follow the last one. -/
def readTextFields (table : List String) :
    Nat → List Char → Option (List (Value × Value) × List Char)
  | 0, _ => none
  | fuel + 1, s =>
    match s with
    | '}' :: rest => some ([], rest)
    | _ => do
      let (name, rest) ← readFieldName table s
      let (_, x, rest) ← readTextValue table false fuel (← skip rest)
      match ← skip rest with
      | '}' :: rest => return ([(.text name, x)], rest)
      | ',' :: rest => do
        let (fs, rest) ← readTextFields table fuel (← skip rest)
        return ((.text name, x) :: fs, rest)
      | _ => none

end

/-- The values of a stream under a table of names. -/
def readTextStream (table : List String) : Nat → List Char → Option (List Value)
  | 0, _ => none
  | fuel + 1, s => do
    let s ← skip s
    if s.isEmpty then return []
    else
      let (names, v, rest) ← readTextValue table false (2 * s.length + 2) s
      match names, v with
      | [], .symbol "$ion_1_0" => readTextStream [] fuel rest
      | "$ion_symbol_table" :: _, .map _ => readTextStream (tableOf table v) fuel rest
      | _, _ => return v :: (← readTextStream table fuel rest)

/-- The top-level values of a text document. -/
def readText (s : String) : Option (List Value) := readTextStream [] (s.length + 1) s.toList

end ServiceClient.Ion
