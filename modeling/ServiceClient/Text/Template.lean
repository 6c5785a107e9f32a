import ServiceClient.Text.Quoted
import ServiceClient.ValueText

/-!
# Message templates

A template is text with directives such as `%s` or `%05.2f`, each of which shows the next of the
arguments. A directive can name a field of a single map of arguments instead.

* `Template.ofText`: the pieces of a template.
* `Template.fill`: the text for arguments.
-/

namespace ServiceClient

/-- The size in a directive: not there, the next argument, or a number. -/
inductive Size
  | absent
  | argument
  | given (n : Nat)
deriving DecidableEq, Repr, Inhabited

/-- The field that a directive names. -/
inductive FieldKey
  | absent
  | unclosed
  | named (name : String)
deriving DecidableEq, Repr, Inhabited

/-- A directive. -/
structure Directive where
  key : FieldKey
  flags : List Char
  width : Size
  precision : Size
  /-- The letter that says how the argument is shown; none if the template ends before it. -/
  conversion : Option Char
  /-- The position of that letter in the template. -/
  position : Nat
deriving Repr, Inhabited

/-- A piece of a template. -/
inductive TemplatePiece
  | literal (c : Char)
  | directive (d : Directive)
deriving Repr, Inhabited

/-- Why a template and its arguments do not fit. -/
inductive FormatFault
  | tooFewArguments
  | surplusArguments
  | notReal (conversion : Char) (typeName : String)
  | notIntegral (conversion : Char) (typeName : String)
  | notFloating (typeName : String)
  | notCharacter
  | characterRange
  | unsupported (conversion : Char) (position : Nat)
  | incomplete
  | sizeNotIntegral
  | noFields
  | unclosedKey
  | missingField (shown : String)
  | infiniteInteger
  | nanInteger
  | hugeInteger
  /-- An integer with too many digits to be written. -/
  | longInteger
deriving DecidableEq, Repr

def FormatFault.message : FormatFault → String
  | .tooFewArguments => "not enough arguments for format string"
  | .surplusArguments => "not all arguments converted during string formatting"
  | .notReal c type =>
    "%" ++ String.singleton c ++ " format: a real number is required, not " ++ type
  | .notIntegral c type =>
    "%" ++ String.singleton c ++ " format: an integer is required, not " ++ type
  | .notFloating type => "must be real number, not " ++ type
  | .notCharacter => "%c requires int or char"
  | .characterRange => "%c arg not in range(0x110000)"
  | .unsupported c position =>
    let shown := if 31 ≤ c.toNat ∧ c.toNat ≤ 126 then c else '?'
    "unsupported format character '" ++ String.singleton shown ++ "' (0x" ++
      String.ofList (hexPadded 1 c.toNat) ++ ") at index " ++ toString position
  | .incomplete => "incomplete format"
  | .sizeNotIntegral => "* wants int"
  | .noFields => "format requires a mapping"
  | .unclosedKey => "incomplete format key"
  | .missingField shown => shown
  | .infiniteInteger => "cannot convert float infinity to integer"
  | .nanInteger => "cannot convert float NaN to integer"
  | .hugeInteger => "int too large to convert to float"
  | .longInteger => longIntegerText

/-- The pieces of a template, in order. -/
abbrev Template := List TemplatePiece

namespace Template

/-- The name up to the bracket that closes it, and what follows; brackets inside pair up. -/
def closeKey (depth : Nat) : List Char → Option (List Char × List Char)
  | [] => none
  | c :: rest =>
    if c = ')' ∧ depth = 0 then some ([], rest)
    else
      let depth := if c = '(' then depth + 1 else if c = ')' then depth - 1 else depth
      (closeKey depth rest).map fun (name, after) => (c :: name, after)

def readKey : List Char → FieldKey × List Char
  | '(' :: rest =>
    match closeKey 0 rest with
    | some (name, after) => (.named (String.ofList name), after)
    | none => (.unclosed, [])
  | s => (.absent, s)

def readSize : List Char → Size × List Char
  | '*' :: rest => (.argument, rest)
  | s =>
    let digits := s.takeWhile Char.isDigit
    (if digits.isEmpty then .absent else .given (Nat.ofDigitChars 10 digits 0),
      s.dropWhile Char.isDigit)

def readPrecision : List Char → Size × List Char
  | '.' :: rest =>
    match readSize rest with
    | (.absent, rest) => (.given 0, rest)
    | found => found
  | s => (.absent, s)

def isFlag (c : Char) : Bool := "-+ #0".toList.contains c

/-- A letter before the conversion that changes nothing. -/
def dropLength : List Char → List Char
  | c :: rest => if c = 'h' ∨ c = 'l' ∨ c = 'L' then rest else c :: rest
  | [] => []

/-- The directive after a percent sign at a position, and what follows. -/
def readDirective (position : Nat) (s : List Char) : Directive × List Char :=
  let (key, rest) := readKey s
  let flags := rest.takeWhile isFlag
  let (width, rest) := readSize (rest.dropWhile isFlag)
  let (precision, rest) := readPrecision rest
  let rest := dropLength rest
  (⟨key, flags, width, precision, rest.head?, position + (s.length - rest.length) + 1⟩,
    rest.drop 1)

/-- The pieces of a text that starts at a position. Two percent signs stand for one. -/
def ofChars (position : Nat) : List Char → Template
  | [] => []
  | '%' :: '%' :: rest => .literal '%' :: ofChars (position + 2) rest
  | c :: rest =>
    if c = '%' then
      let (d, after) := readDirective position rest
      let used := rest.length - after.length
      .directive d :: ofChars (position + 1 + used) (rest.drop used)
    else .literal c :: ofChars (position + 1) rest
termination_by s => s.length
decreasing_by all_goals simp; try omega

def ofText (s : String) : Template := ofChars 0 s.toList

/-- The arguments that are left, and the fields that directives can name. -/
structure Arguments where
  fields : Option Fields
  pending : List Value

namespace Arguments

/-- A single map of arguments has fields; it is an argument as a whole as well. -/
def ofValues (values : List Value) : Arguments :=
  match values with
  | [.map (f :: fs)] => ⟨some (f :: fs), values⟩
  | _ => ⟨none, values⟩

def next (a : Arguments) : Except FormatFault (Value × Arguments) :=
  match a.pending with
  | v :: rest => .ok (v, { a with pending := rest })
  | [] => .error .tooFewArguments

/-- Makes the field that a directive names the next argument. -/
def select (a : Arguments) (key : FieldKey) : Except FormatFault Arguments :=
  match key, a.fields with
  | .absent, _ => .ok a
  | _, none => .error .noFields
  | .unclosed, some _ => .error .unclosedKey
  | .named name, some fields =>
    match Fields.get? (.text name) fields with
    | some v => .ok { a with pending := [v] }
    | none => .error (.missingField (quoteText name))

/-- A size, possibly taken from the arguments. -/
def size (a : Arguments) (s : Size) : Except FormatFault (Option Int × Arguments) :=
  match s with
  | .absent => .ok (none, a)
  | .given n => .ok (some n, a)
  | .argument => do
    let (v, a) ← a.next
    match v with
    | .int n => return (some n, a)
    | .bool b => return (some (if b then 1 else 0), a)
    | _ => throw .sizeNotIntegral

end Arguments

/-- How wide a text becomes, on which side it stands, and what fills a number up. -/
structure Padding where
  width : Nat
  leftAligned : Bool
  zeros : Bool
  /-- The sign of numbers that are not negative. -/
  plus : String

/-- Fills a text up with blanks. -/
def Padding.text (p : Padding) (s : List CodePoint) : List CodePoint :=
  let fill := List.replicate (p.width - s.length) (.char ' ')
  if p.leftAligned then s ++ fill else fill ++ s

/-- Fills a number up: with blanks outside of its sign or with zeros behind it. -/
def Padding.number (p : Padding) (negative : Bool) (mark digits : List Char) :
    List CodePoint :=
  let sign := (if negative then "-" else p.plus).toList ++ mark
  if p.zeros && !p.leftAligned then
    (sign ++ List.replicate (p.width - sign.length - digits.length) '0' ++ digits).map .char
  else p.text ((sign ++ digits).map .char)

/-- A whole number; real numbers lose their fraction. -/
def wholeNumber (conversion : Char) (v : Value) : Except FormatFault Int :=
  let type := v.typeName .memory
  let integral := conversion = 'x' ∨ conversion = 'X' ∨ conversion = 'o'
  match v with
  | .int n => .ok n
  | .bool b => .ok (if b then 1 else 0)
  | .double d =>
    if integral then .error (.notIntegral conversion type)
    else if d.isNaN then .error .nanInteger
    else if d.isInfinite then .error .infiniteInteger
    else .ok (d.numerator.tdiv d.ratio.2)
  | .decimal d =>
    if integral then .error (.notIntegral conversion type)
    else
      match d with
      | .nan => .error .nanInteger
      | .infinity _ => .error .infiniteInteger
      | d => match d.ratio? with
        | some (n, den) => .ok (n.tdiv den)
        | none => .error .nanInteger
  | _ =>
    .error (if integral then .notIntegral conversion type else .notReal conversion type)

/-- The digits of a whole number, and the mark of their base. -/
def wholeDigits (conversion : Char) (n : Nat) : List Char × List Char :=
  match conversion with
  | 'x' => ("0x".toList, Nat.toDigits 16 n)
  | 'X' => ("0X".toList, (Nat.toDigits 16 n).map Char.toUpper)
  | 'o' => ("0o".toList, Nat.toDigits 8 n)
  | _ => ([], decimalDigits n)

/-- A real number. -/
def realNumber (v : Value) : Except FormatFault Double :=
  match v with
  | .double d => .ok d
  | .decimal d => .ok d.toDouble
  | .bool b => .ok (.ofInt (if b then 1 else 0))
  | .int n =>
    let d := Double.ofInt n
    if d.isFinite then .ok d else .error .hugeInteger
  | v => .error (.notFloating (v.typeName .memory))

/-- A magnitude with a fixed number of decimal places. -/
def fixedPlaces (d : Double) (places : Nat) (point : Bool) : List Char :=
  let (num, den) := d.ratio
  let digits := decimalDigits (roundQuotient (num * 10 ^ places) den)
  let padded := List.replicate (places + 1 - digits.length) '0' ++ digits
  let whole := padded.take (padded.length - places)
  let fraction := padded.drop (padded.length - places)
  whole ++ (if fraction.isEmpty && !point then [] else '.' :: fraction)

/-- The digits of a magnitude rounded to `n` places, and the power of ten of the first. -/
def significant (d : Double) (n : Nat) : List Char × Int :=
  if d.isZero then (List.replicate n '0', 0)
  else
    let (digits, top) := d.roundedDigits n
    (digits ++ List.replicate (n - digits.length) '0', top)

/-- A magnitude with an exponent. -/
def withExponent (digits : List Char) (top : Int) (point : Bool) : List Char :=
  let fraction := digits.drop 1
  digits.take 1 ++ (if fraction.isEmpty && !point then [] else '.' :: fraction) ++
    'e' :: (NumberLayout.exponentText top).toList

/-- A magnitude in the shorter of the two forms; zeros at the end go unless they are kept. -/
def generalForm (d : Double) (n : Nat) (keepZeros : Bool) : List Char :=
  let (digits, top) := significant d n
  let kept := if keepZeros then digits else
    digits.take 1 ++ ((digits.drop 1).reverse.dropWhile (· = '0')).reverse
  if -4 ≤ top ∧ top < n then
    let digits := List.replicate (-top).toNat '0' ++ kept
    let whole := if top < 0 then 1 else (top + 1).toNat
    let digits := digits ++ List.replicate (whole - digits.length) '0'
    let fraction := digits.drop whole
    digits.take whole ++ (if fraction.isEmpty && !keepZeros then [] else '.' :: fraction)
  else withExponent kept top keepZeros

/-- The magnitude of a real number under a conversion. -/
def realDigits (conversion : Char) (d : Double) (precision : Nat) (alternate : Bool) :
    List Char :=
  let form :=
    if d.isNaN then "nan".toList
    else if d.isInfinite then "inf".toList
    else
      match conversion.toLower with
      | 'f' => fixedPlaces d precision alternate
      | 'e' =>
        let (digits, top) := significant d (precision + 1)
        withExponent digits top alternate
      | _ => generalForm d (max precision 1) alternate
  if conversion.isUpper then form.map Char.toUpper else form

/-- A text with all characters outside of ASCII escaped. -/
def asciiOnly (s : String) : List Char :=
  s.toList.flatMap fun c => if c.toNat < 128 then [c] else codePointEscape c.toNat

/-- The code point that a value stands for. -/
def codePointOf (v : Value) : Except FormatFault CodePoint :=
  let ofCode (n : Int) : Except FormatFault CodePoint :=
    if 0 ≤ n ∧ n < 0x110000 then .ok (.ofNat n.toNat) else .error .characterRange
  match v, v.text? with
  | .int n, _ => ofCode n
  | .bool b, _ => ofCode (if b then 1 else 0)
  | _, some ⟨[p]⟩ => .ok p
  | _, _ => .error .notCharacter

/-- What a value shows, if it can be shown. -/
def shown (text : Option α) : Except FormatFault α :=
  match text with
  | some t => .ok t
  | none => .error .longInteger

/-- An argument under the conversion of a directive. -/
def convert (d : Directive) (conversion : Char) (p : Padding) (precision : Option Nat) (v : Value) :
    Except FormatFault (List CodePoint) :=
  let alternate := d.flags.contains '#'
  let cut (s : List CodePoint) : List CodePoint := p.text (s.take (precision.getD s.length))
  match conversion with
  | 's' => do return cut (← shown v.display?).points
  | 'r' => do return cut ((← shown v.quoted?).toList.map .char)
  | 'a' => do return cut ((asciiOnly (← shown v.quoted?)).map .char)
  | 'c' => do return p.text [← codePointOf v]
  | 'd' | 'i' | 'u' | 'x' | 'X' | 'o' => do
    let n ← wholeNumber conversion v
    let decimal := conversion = 'd' ∨ conversion = 'i' ∨ conversion = 'u'
    if decimal ∧ isLongInteger n then throw .longInteger
    let (mark, digits) := wholeDigits conversion n.natAbs
    let digits := List.replicate (precision.getD 0 - digits.length) '0' ++ digits
    return p.number (n < 0) (if alternate then mark else []) digits
  | 'e' | 'E' | 'f' | 'F' | 'g' | 'G' => do
    let x ← realNumber v
    return p.number (x.isNegative && !x.isNaN) []
      (realDigits conversion x (precision.getD 6) alternate)
  | c => .error (.unsupported c d.position)

/-- The text of a directive, and the arguments after it. -/
def fillDirective (d : Directive) (a : Arguments) :
    Except FormatFault (List CodePoint × Arguments) := do
  let a ← a.select d.key
  let (width, a) ← a.size d.width
  let (precision, a) ← a.size d.precision
  match d.conversion with
  | none => throw .incomplete
  | some conversion =>
    let (v, a) ← a.next
    let width := width.getD 0
    let padding : Padding := {
      width := width.natAbs
      leftAligned := d.flags.contains '-' || width < 0
      zeros := d.flags.contains '0'
      plus := if d.flags.contains '+' then "+" else if d.flags.contains ' ' then " " else "" }
    let text ← convert d conversion padding (precision.map Int.toNat) v
    return (text, a)

/-- The code points of a template for arguments, all of which it must show. -/
def fillPoints (a : Arguments) : Template → Except FormatFault (List CodePoint)
  | [] => if a.fields.isNone && !a.pending.isEmpty then .error .surplusArguments else .ok []
  | .literal c :: rest => do return .char c :: (← fillPoints a rest)
  | .directive d :: rest => do
    let (text, a) ← fillDirective d a
    return text ++ (← fillPoints a rest)

/-- The text of a template for arguments. -/
def fill (t : Template) (values : List Value) : Except FormatFault Text :=
  (fillPoints (.ofValues values) t).map Text.mk

end Template

end ServiceClient
