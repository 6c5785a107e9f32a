import ServiceClient.Bytes

/-!
# Binary floating-point numbers

A `Double` is a 64-bit binary floating-point number, kept as its bit pattern. Everything a
number means is read off three natural numbers (sign, biased exponent, fraction), and every
operation is exact arithmetic on naturals followed by one rounding.

* `roundQuotient`, `roundIntQuotient`: a quotient rounded to the nearest whole number, a tie to
  the even one.
* `Double.magnitude`: a finite number is `m * 2 ^ q` up to its sign.
* `Double.ofRatio`: the double nearest to a quotient of naturals, a tie to the even one.
* `Double.numerator`: the signed numerator of a finite number over the denominator of its ratio.
-/

namespace ServiceClient

/-- The quotient of two naturals rounded to the nearest natural, a tie to the even one. -/
def roundQuotient (num den : Nat) : Nat :=
  let q := num / den
  let twice := 2 * (num % den)
  if twice < den then q
  else if twice = den then q + q % 2
  else q + 1

/-- The quotient of an integer and a natural rounded to the nearest integer, a tie to the
even one. -/
def roundIntQuotient (num : Int) (den : Nat) : Int :=
  if num < 0 then -(roundQuotient num.natAbs den : Int) else (roundQuotient num.natAbs den : Int)

/-- A 64-bit binary floating-point number. Equality is equality of bit patterns. -/
structure Double where
  /-- The sign, the biased exponent and the fraction, from the highest bit down. -/
  bits : UInt64
deriving DecidableEq, Repr, Inhabited

namespace Double

/-- Whether the sign bit is set. -/
def isNegative (d : Double) : Bool := d.bits.toNat / 2 ^ 63 % 2 == 1

/-- The biased exponent field. -/
def exponentField (d : Double) : Nat := d.bits.toNat / 2 ^ 52 % 2048

/-- The fraction field. -/
def fraction (d : Double) : Nat := d.bits.toNat % 2 ^ 52

/-- Neither infinite nor a NaN. -/
def isFinite (d : Double) : Bool := d.exponentField != 2047

/-- Not a number. -/
def isNaN (d : Double) : Bool := d.exponentField == 2047 && d.fraction != 0

/-- One of the two infinities. -/
def isInfinite (d : Double) : Bool := d.exponentField == 2047 && d.fraction == 0

/-- Positive or negative zero. -/
def isZero (d : Double) : Bool := d.exponentField == 0 && d.fraction == 0

/-- Assembles a number from its sign and the 63 bits below it. -/
def ofFields (negative : Bool) (low : Nat) : Double :=
  ⟨UInt64.ofNat (low + if negative then 2 ^ 63 else 0)⟩

def nan : Double := ⟨0x7ff8000000000000⟩
def infinity (negative : Bool) : Double := ofFields negative (2047 * 2 ^ 52)
def zero (negative : Bool) : Double := ofFields negative 0

/-- The pair `(m, q)` for which a finite number is `m * 2 ^ q` up to its sign. -/
def magnitude (d : Double) : Nat × Int :=
  if d.exponentField = 0 then (d.fraction, -1074)
  else (2 ^ 52 + d.fraction, (d.exponentField : Int) - 1075)

/-- The magnitude of a finite number as a quotient of naturals. -/
def ratio (d : Double) : Nat × Nat :=
  let (m, q) := d.magnitude
  (m * 2 ^ q.toNat, 2 ^ (-q).toNat)

/-- The largest `e` with `2 ^ e ≤ num / den`, for positive `num` and `den`. -/
def log2Quotient (num den : Nat) : Int :=
  let k : Int := (Nat.log2 num : Int) - (Nat.log2 den : Int)
  if den * 2 ^ k.toNat ≤ num * 2 ^ (-k).toNat then k else k - 1

/-- The double nearest to `num / den`, a tie to the one with an even last bit; a quotient
beyond the largest finite number becomes infinite. -/
def ofRatio (negative : Bool) (num den : Nat) : Double :=
  if num = 0 ∨ den = 0 then zero negative
  else
    let q := max (log2Quotient num den - 52) (-1074)
    let n := roundQuotient (num * 2 ^ (-q).toNat) (den * 2 ^ q.toNat)
    let low := n + (q + 1074).toNat * 2 ^ 52
    if low < 2047 * 2 ^ 52 then ofFields negative low else infinity negative

/-- The double nearest to `coefficient * 10 ^ exponent`. Exponents far outside of the range
are answered without computing the power. -/
def ofScientific (negative : Bool) (coefficient : Nat) (exponent : Int) : Double :=
  if coefficient = 0 then zero negative
  else
    let top : Int := (Nat.toDigits 10 coefficient).length + exponent
    if top > 400 then infinity negative
    else if top < -400 then zero negative
    else ofRatio negative (coefficient * 10 ^ exponent.toNat) (10 ^ (-exponent).toNat)

/-- The double nearest to an integer. -/
def ofInt (n : Int) : Double := ofRatio (n < 0) n.natAbs 1

/-- The number `n / den` for an integer `n`. -/
def ofIntRatio (n : Int) (den : Nat) : Double := ofRatio (n < 0) n.natAbs den

/-- The signed numerator of a finite number over the denominator of `ratio`. -/
def numerator (d : Double) : Int :=
  if d.isNegative then -(d.ratio.1 : Int) else (d.ratio.1 : Int)

/-- The double of a half precision number. -/
def ofHalf (n : Nat) : Double :=
  let negative := n / 2 ^ 15 % 2 == 1
  let e := n / 2 ^ 10 % 32
  let f := n % 2 ^ 10
  if e = 31 then (if f = 0 then infinity negative else nan)
  else if e = 0 then ofRatio negative f (2 ^ 24)
  else ofRatio negative ((2 ^ 10 + f) * 2 ^ e) (2 ^ 25)

/-- The double of a single precision number. -/
def ofSingle (n : Nat) : Double :=
  let negative := n / 2 ^ 31 % 2 == 1
  let e := n / 2 ^ 23 % 256
  let f := n % 2 ^ 23
  if e = 255 then (if f = 0 then infinity negative else nan)
  else if e = 0 then ofRatio negative f (2 ^ 149)
  else ofRatio negative ((2 ^ 23 + f) * 2 ^ e) (2 ^ 150)

end Double

end ServiceClient
