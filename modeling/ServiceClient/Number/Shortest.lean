import ServiceClient.Number.Double

/-!
# Decimal digits of a double

Two ways to write a finite double in decimal: with the fewest digits that read back as the
same number, and rounded to a fixed number of significant digits. Both compute on the exact
value `m * 2 ^ q`.

* `Double.shortestDigits`: digits and decimal point position of the shortest text.
* `Double.roundedDigits`: exactly `n` significant digits, ties to even.
* `Double.text`: the shortest text, positional between `1e-4` and `1e16`.
* `Double.general`: `n` significant digits without trailing zeros.
-/

namespace ServiceClient

/-- The decimal digits of a natural number, without leading zeros. -/
def decimalDigits (n : Nat) : List Char := Nat.toDigits 10 n

/-- The largest `e` with `10 ^ e ≤ num / den`, for positive `num` and `den`. -/
def log10Quotient (num den : Nat) : Int :=
  if den ≤ num then ((decimalDigits (num / den)).length : Int) - 1
  else -((decimalDigits ((den - 1) / num)).length : Int)

/-- Removes the trailing zeros of a positive number's digits. -/
def trimZeros (digits : List Char) : List Char :=
  (digits.reverse.dropWhile (· == '0')).reverse

namespace Double

/-- The bounds of the interval of reals that round to a finite positive magnitude, over the
common denominator that comes third. -/
def roundingInterval (d : Double) : Nat × Nat × Nat :=
  let (m, q) := d.magnitude
  let below := if d.fraction = 0 ∧ 1 < d.exponentField then 1 else 2
  let scale := 2 ^ q.toNat
  ((4 * m - below) * scale, (4 * m + 2) * scale, 4 * 2 ^ (-q).toNat)

/-- The two neighbours of a positive magnitude on the decimal grid of spacing `10 ^ s`: the
nearer one that lies in the interval of reals rounding to the magnitude, if any does. -/
def gridPoint (d : Double) (s : Int) : Option Nat :=
  let (num, den) := d.ratio
  let (low, high, common) := d.roundingInterval
  let closed := d.magnitude.1 % 2 = 0
  let up := 10 ^ s.toNat
  let down := 10 ^ (-s).toNat
  let inside (n : Nat) : Bool :=
    let v := n * up * common
    if closed then low * down ≤ v && v ≤ high * down else low * down < v && v < high * down
  let base := num * down / (den * up)
  let rest := num * down % (den * up)
  let nearestFirst := 2 * rest < den * up ∨ (2 * rest = den * up ∧ base % 2 = 0)
  let first := if nearestFirst then base else base + 1
  let second := if nearestFirst then base + 1 else base
  if 0 < first && inside first then some first
  else if 0 < second && inside second then some second
  else none

/-- The first of the grids with `n, n + 1, …` significant digits that has a point reading
back as the number, among as many grids as the first number says. -/
def searchDigits (d : Double) (top : Int) : Nat → Nat → Nat × Int
  | 0, _ => (0, 0)
  | fuel + 1, n =>
    let s := top - (n : Int) + 1
    match d.gridPoint s with
    | some point => (point, s)
    | none => searchDigits d top fuel (n + 1)

/-- The fewest digits that read back as a finite positive magnitude, and the power of ten of
the first of them. Seventeen digits always suffice. -/
def shortestDigits (d : Double) : List Char × Int :=
  let top := log10Quotient d.ratio.1 d.ratio.2
  let (point, s) := d.searchDigits top 17 1
  let digits := decimalDigits point
  (trimZeros digits, s + digits.length - 1)

/-- A finite positive magnitude rounded to `n` significant digits, without trailing zeros, and
the power of ten of the first of them. -/
def roundedDigits (d : Double) (n : Nat) : List Char × Int :=
  let (num, den) := d.ratio
  let s := log10Quotient num den - (n : Int) + 1
  let point := roundQuotient (num * 10 ^ (-s).toNat) (den * 10 ^ s.toNat)
  let digits := decimalDigits point
  (trimZeros digits, s + digits.length - 1)

end Double

/-- How digits with a decimal point position become text. -/
structure NumberLayout where
  /-- Powers of ten of the first digit below this one are written with an exponent. -/
  lowest : Int
  /-- Powers of ten of the first digit from this one on are written with an exponent. -/
  highest : Int
  /-- What a positional text without a fraction ends in. -/
  wholeSuffix : String

namespace NumberLayout

/-- A signed exponent of at least two digits. -/
def exponentText (e : Int) : String :=
  let digits := decimalDigits e.natAbs
  let padded := if digits.length < 2 then '0' :: digits else digits
  String.ofList ((if e < 0 then '-' else '+') :: padded)

/-- Writes the digits, the first of which counts `10 ^ top`. -/
def write (layout : NumberLayout) (digits : List Char) (top : Int) : String :=
  if layout.lowest ≤ top ∧ top < layout.highest then
    if top < 0 then
      "0." ++ String.ofList (List.replicate (-top - 1).toNat '0' ++ digits)
    else
      let whole := (top + 1).toNat
      if digits.length ≤ whole then
        String.ofList (digits ++ List.replicate (whole - digits.length) '0') ++ layout.wholeSuffix
      else
        String.ofList (digits.take whole) ++ "." ++ String.ofList (digits.drop whole)
  else
    let lead := String.ofList (digits.take 1)
    let rest := digits.drop 1
    let mantissa := if rest.isEmpty then lead else lead ++ "." ++ String.ofList rest
    mantissa ++ "e" ++ exponentText top

end NumberLayout

namespace Double

/-- The shortest text is positional from `1e-4` up to below `1e16`, and a whole number keeps
one decimal. -/
def shortestLayout : NumberLayout := ⟨-4, 16, ".0"⟩

/-- The shortest text that reads back as the number; `nan`, `inf` and `-inf` for the rest. -/
def text (d : Double) : String :=
  let sign := if d.isNegative then "-" else ""
  if d.isNaN then "nan"
  else if d.isInfinite then sign ++ "inf"
  else if d.isZero then sign ++ "0.0"
  else
    let (digits, top) := d.shortestDigits
    sign ++ shortestLayout.write digits top

/-- At most `n` significant digits, positional from `1e-4` up to below `10 ^ n`. -/
def general (d : Double) (n : Nat) : String :=
  let sign := if d.isNegative then "-" else ""
  if d.isZero then sign ++ "0"
  else
    let (digits, top) := d.roundedDigits n
    sign ++ NumberLayout.write ⟨-4, n, ""⟩ digits top

/-- The number rounded to `places` decimal places, a tie of the exact value to even: the
nearest double to that decimal. -/
def roundPlaces (d : Double) (places : Nat) : Double :=
  if d.isFinite then
    let (num, den) := d.ratio
    ofRatio d.isNegative (roundQuotient (num * 10 ^ places) den) (10 ^ places)
  else d

end Double

end ServiceClient
