import ServiceClient.Number.Shortest
import ServiceClient.Text.Character

/-!
# Decimal numbers

A `Decimal` keeps its digits as they were written: `1.5` and `1.50` are different values of
equal size. There is one `NaN`, without a sign or a payload.

* `Decimal.text`: positional for small exponents, else with `E`.
* `Decimal.ofText?`: reads what `text` writes.
* `Decimal.toDouble`: the nearest double.
-/

namespace ServiceClient

/-- A decimal number: `coefficient * 10 ^ exponent` with a sign, or one of the specials. -/
inductive Decimal
  | finite (negative : Bool) (coefficient : Nat) (exponent : Int)
  | infinity (negative : Bool)
  | nan
deriving DecidableEq, Repr, Inhabited

namespace Decimal

/-- The signed coefficient, zero for the specials. -/
def signedCoefficient : Decimal → Int
  | .finite negative c _ => if negative then -(c : Int) else c
  | _ => 0

/-- Positional if the exponent is at most zero and the first digit counts at least `10 ^ -6`;
otherwise one digit before the point and an `E` exponent with its sign. -/
def text : Decimal → String
  | .nan => "NaN"
  | .infinity negative => if negative then "-Infinity" else "Infinity"
  | .finite negative c e =>
    let digits := decimalDigits c
    let left : Int := digits.length + e
    let point : Int := if e ≤ 0 ∧ -6 < left then left else 1
    let body :=
      if point ≤ 0 then "0." ++ String.ofList (List.replicate (-point).toNat '0' ++ digits)
      else if (digits.length : Int) ≤ point then
        String.ofList (digits ++ List.replicate (point.toNat - digits.length) '0')
      else String.ofList (digits.take point.toNat) ++ "." ++ String.ofList (digits.drop point.toNat)
    let tail :=
      if left = point then ""
      else
        let shown := left - point
        "E" ++ (if shown < 0 then "-" else "+") ++ String.ofList (decimalDigits shown.natAbs)
    (if negative then "-" else "") ++ body ++ tail

/-- The double nearest to a decimal. -/
def toDouble : Decimal → Double
  | .finite negative c e => Double.ofScientific negative c e
  | .infinity negative => Double.infinity negative
  | .nan => Double.nan

/-- The value of a finite decimal as a quotient of an integer and a natural. -/
def ratio? : Decimal → Option (Int × Nat)
  | d@(.finite _ _ e) => some (d.signedCoefficient * 10 ^ e.toNat, 10 ^ (-e).toNat)
  | _ => none

end Decimal

/-- A number written as digits with an optional fraction and exponent. -/
structure ScientificText where
  negative : Bool
  coefficient : Nat
  /-- The power of ten that the last digit of the coefficient counts. -/
  exponent : Int

namespace ScientificText

/-- Splits off an optional sign. -/
def signed : List Char → Bool × List Char
  | '-' :: r => (true, r)
  | '+' :: r => (false, r)
  | r => (false, r)

/-- Reads `digits [. digits] [e [sign] digits]` with at least one digit before the exponent. -/
def ofChars? (s : List Char) : Option ScientificText :=
  let (negative, s) := signed s
  let whole := s.takeWhile Char.isDigit
  let s := s.dropWhile Char.isDigit
  let (fraction, s) := match s with
    | '.' :: r => (r.takeWhile Char.isDigit, r.dropWhile Char.isDigit)
    | r => ([], r)
  if whole.isEmpty && fraction.isEmpty then none
  else
    let digits := whole ++ fraction
    let coefficient := Nat.ofDigitChars 10 digits 0
    let finish (e : Int) : ScientificText := ⟨negative, coefficient, e - fraction.length⟩
    match s with
    | [] => some (finish 0)
    | c :: r =>
      if c = 'e' ∨ c = 'E' then
        let (down, r) := signed r
        if !r.isEmpty && r.all Char.isDigit then
          let e := Nat.ofDigitChars 10 r 0
          some (finish (if down then -(e : Int) else e))
        else none
      else none

/-- The double nearest to the written number. -/
def toDouble (t : ScientificText) : Double :=
  Double.ofScientific t.negative t.coefficient t.exponent

end ScientificText

namespace Decimal

/-- Reads a decimal number. -/
def ofText? (s : String) : Option Decimal :=
  match s with
  | "NaN" => some .nan
  | "Infinity" => some (.infinity false)
  | "-Infinity" => some (.infinity true)
  | s => (ScientificText.ofChars? s.toList).map fun t => .finite t.negative t.coefficient t.exponent

end Decimal

namespace Double

/-- Removes the underscores that stand between two digits; none if one stands elsewhere. -/
def dropSeparators? (s : List Char) : Option (List Char) :=
  let rec go (previous : Option Char) : List Char → Option (List Char)
    | [] => some []
    | '_' :: r =>
      match previous, r with
      | some p, n :: _ => if p.isDigit && n.isDigit then go (some '_') r else none
      | _, _ => none
    | c :: r => (go (some c) r).map (c :: ·)
  go none s

/-- Reads a number in decimal, in the digits of any script and with underscores allowed between
them, or the words for the infinities and NaN in any case. The text must not have blanks around
it. -/
def ofChars? (s : List Char) : Option Double :=
  let s := asciiDigits s
  let (negative, word) := ScientificText.signed s
  let lower := String.ofList (word.map Char.toLower)
  if lower == "inf" || lower == "infinity" then some (infinity negative)
  else if lower == "nan" then some nan
  else
    match dropSeparators? s with
    | none => none
    | some plain => (ScientificText.ofChars? plain).map ScientificText.toDouble

end Double

end ServiceClient
