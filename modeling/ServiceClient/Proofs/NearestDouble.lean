import Mathlib.Algebra.Order.Field.Power
import Mathlib.Tactic.FieldSimp
import Mathlib.Tactic.Linarith
import Mathlib.Tactic.NormNum
import Mathlib.Tactic.Positivity
import Mathlib.Tactic.Ring
import ServiceClient.Proofs.NumberText

/-!
# Rounding to a double

Rounding is specified on rational numbers, apart from the naturals that it is computed with: what
matters of a double is the number that it stands for, and which numbers are rounded to it.

* `IsNearest`: a nearest whole number, the even one of two; `isNearest_roundIntQuotient`.
* `Double.size`: the number that a double stands for, up to its sign.
* `Double.Covers`: the numbers that are rounded to a double.
* `Double.rounds_ofRatio`: the double of a quotient covers it and is near to it.
-/

namespace ServiceClient

/-! ### The nearest whole number -/

/-- A whole number nearest to a rational one: of two that are as near, the even one. -/
structure IsNearest (z : ℚ) (n : ℤ) : Prop where
  lower : (n : ℚ) - 1 / 2 ≤ z
  upper : z ≤ n + 1 / 2
  tie : z = n - 1 / 2 ∨ z = n + 1 / 2 → n % 2 = 0

/-- Rounding a quotient of naturals, without its denominator. -/
theorem roundQuotient_bounds (num : ℕ) {den : ℕ} (hden : 0 < den) :
    2 * roundQuotient num den * den ≤ 2 * num + den ∧
      2 * num ≤ (2 * roundQuotient num den + 1) * den ∧
      (2 * roundQuotient num den * den = 2 * num + den ∨
        2 * num = (2 * roundQuotient num den + 1) * den → roundQuotient num den % 2 = 0) := by
  obtain ⟨q, hq⟩ : ∃ q, q = num / den := ⟨_, rfl⟩
  obtain ⟨r, hr⟩ : ∃ r, r = num % den := ⟨_, rfl⟩
  have hlt : r < den := hr ▸ Nat.mod_lt num hden
  have hnum : num = q * den + r := by
    have := Nat.div_add_mod num den
    rw [hq, hr, Nat.mul_comm]
    omega
  -- the result is the quotient or the number after it
  have hdown : 2 * q * den = 2 * (q * den) := Nat.mul_assoc 2 q den
  have hup : 2 * (q + 1) * den = 2 * (q * den) + 2 * den := by ring
  have hmid : (2 * q + 1) * den = 2 * (q * den) + den := by ring
  have htop : (2 * (q + 1) + 1) * den = 2 * (q * den) + 3 * den := by ring
  obtain ⟨P, hP⟩ : ∃ P, P = q * den := ⟨_, rfl⟩
  unfold roundQuotient
  rw [← hq, ← hr]
  rw [← hP] at hnum hdown hup hmid htop
  dsimp only
  split
  · rw [hdown, hmid]
    omega
  · split
    · have hparity : q % 2 = 0 ∨ q % 2 = 1 := by omega
      rcases hparity with heven | hodd
      · rw [heven, Nat.add_zero, hdown, hmid]
        omega
      · rw [hodd, hup, htop]
        omega
    · rw [hup, htop]
      omega

/-- **A rounded quotient is nearest.** -/
theorem isNearest_roundQuotient (num : ℕ) {den : ℕ} (hden : 0 < den) :
    IsNearest ((num : ℚ) / den) (roundQuotient num den : ℕ) := by
  obtain ⟨hlow, hhigh, htie⟩ := roundQuotient_bounds num hden
  obtain ⟨n, hn⟩ : ∃ n, n = roundQuotient num den := ⟨_, rfl⟩
  rw [← hn] at hlow hhigh htie ⊢
  have hpos : (0 : ℚ) < den := Nat.cast_pos.2 hden
  have hlow' : (2 * n * den : ℚ) ≤ 2 * num + den := by exact_mod_cast hlow
  have hhigh' : (2 * num : ℚ) ≤ (2 * n + 1) * den := by exact_mod_cast hhigh
  refine ⟨?_, ?_, fun h => ?_⟩
  · rw [Int.cast_natCast, le_div_iff₀ hpos]
    linarith
  · rw [Int.cast_natCast, div_le_iff₀ hpos]
    linarith
  · have hcross : 2 * n * den = 2 * num + den ∨ 2 * num = (2 * n + 1) * den := by
      rcases h with h | h
      · left
        rw [Int.cast_natCast, div_eq_iff hpos.ne'] at h
        have : (2 * n * den : ℚ) = 2 * num + den := by linarith
        exact_mod_cast this
      · right
        rw [Int.cast_natCast, div_eq_iff hpos.ne'] at h
        have : (2 * num : ℚ) = (2 * n + 1) * den := by linarith
        exact_mod_cast this
    have := htie hcross
    omega

namespace IsNearest

/-- Rounding does not depend on the sign. -/
theorem neg {z : ℚ} {n : ℤ} (h : IsNearest z n) : IsNearest (-z) (-n) := by
  obtain ⟨hlow, hhigh, htie⟩ := h
  refine ⟨?_, ?_, fun heq => ?_⟩
  · push_cast
    linarith
  · push_cast
    linarith
  · push_cast at heq
    have hback : z = n - 1 / 2 ∨ z = n + 1 / 2 := by
      rcases heq with heq | heq
      · right; linarith
      · left; linarith
    have := htie hback
    omega

/-- Between two whole numbers, their middle decides. -/
theorem eq_iff {z : ℚ} {n m : ℤ} (h : IsNearest z n) (hlow : (m : ℚ) - 1 / 2 < z)
    (hhigh : z < m + 3 / 2) :
    (n = m ∨ n = m + 1) ∧ (n = m ↔ z < m + 1 / 2 ∨ z = m + 1 / 2 ∧ m % 2 = 0) := by
  obtain ⟨hl, hu, htie⟩ := h
  have hge : m ≤ n := by
    have : (m : ℚ) < n + 1 := by linarith
    have : m < n + 1 := by exact_mod_cast this
    omega
  have hle : n ≤ m + 1 := by
    have : (n : ℚ) < m + 2 := by linarith
    have : n < m + 2 := by exact_mod_cast this
    omega
  obtain rfl | rfl : n = m ∨ n = m + 1 := by omega
  · refine ⟨.inl rfl, fun _ => ?_, fun _ => rfl⟩
    rcases lt_or_eq_of_le hu with hlt | heq
    · exact .inl hlt
    · exact .inr ⟨heq, htie (.inr heq)⟩
  · refine ⟨.inr rfl, fun hfalse => absurd hfalse (by omega), fun hcase => ?_⟩
    -- the next number is at most as far only from the middle on, and odd numbers lose there
    push_cast at hl htie
    rcases hcase with hlt | ⟨heq, heven⟩
    · linarith
    · have := htie (.inl (by linarith))
      omega

/-- The nearest number of a natural one is no negative one. -/
theorem natCast_bounds {z : ℚ} {n k : ℕ} (h : IsNearest z n) (hlow : (k : ℚ) ≤ z) : k ≤ n := by
  have hup := h.upper
  rw [Int.cast_natCast] at hup
  have : (k : ℚ) < n + 1 := by linarith
  have : k < n + 1 := by exact_mod_cast this
  omega

end IsNearest

/-- An integer is its magnitude with its sign. -/
theorem cast_eq_sign_mul (n : ℤ) : (n : ℚ) = (if n < 0 then -1 else 1) * (n.natAbs : ℚ) := by
  have hcast : ((n.natAbs : ℤ) : ℚ) = (n.natAbs : ℚ) := Int.cast_natCast _
  split
  · have hneg : n = -(n.natAbs : ℤ) := by omega
    rw [← hcast]
    conv_lhs => rw [hneg]
    push_cast
    ring
  · have hpos : (n.natAbs : ℤ) = n := by omega
    rw [← hcast, hpos, one_mul]

/-- **A rounded quotient of an integer is nearest.** -/
theorem isNearest_roundIntQuotient (num : ℤ) {den : ℕ} (hden : 0 < den) :
    IsNearest ((num : ℚ) / den) (roundIntQuotient num den) := by
  have habs := isNearest_roundQuotient num.natAbs hden
  unfold roundIntQuotient
  rw [cast_eq_sign_mul]
  split
  · rw [neg_one_mul, neg_div]
    exact habs.neg
  · rw [one_mul]
    exact habs

/-! ### Powers with any exponent -/

/-- A power is a quotient of two powers of naturals, one of which is one. -/
theorem zpow_eq_div (b : ℚ) (k : ℤ) : b ^ k = b ^ k.toNat / b ^ (-k).toNat := by
  rcases le_total 0 k with hk | hk
  · obtain ⟨n, rfl⟩ := Int.eq_ofNat_of_zero_le hk
    have hneg : (-(n : ℤ)).toNat = 0 := by omega
    rw [hneg, pow_zero, div_one, Int.toNat_natCast, zpow_natCast]
  · obtain ⟨n, hn⟩ := Int.eq_ofNat_of_zero_le (show 0 ≤ -k by omega)
    obtain rfl : k = -(n : ℤ) := by omega
    have hpos : (-(n : ℤ)).toNat = 0 := by omega
    rw [hpos, neg_neg, Int.toNat_natCast, pow_zero, zpow_neg, zpow_natCast, one_div]

/-- A power against a quotient, in naturals. -/
theorem zpow_le_div_iff {b : ℕ} (hb : 0 < b) (k : ℤ) (num : ℕ) {den : ℕ} (hden : 0 < den) :
    (b : ℚ) ^ k ≤ (num : ℚ) / den ↔ den * b ^ k.toNat ≤ num * b ^ (-k).toNat := by
  have hpos : (0 : ℚ) < den := Nat.cast_pos.2 hden
  have hpow : (0 : ℚ) < (b : ℚ) ^ (-k).toNat := pow_pos (Nat.cast_pos.2 hb) _
  rw [zpow_eq_div, div_le_div_iff₀ hpow hpos, mul_comm ((b : ℚ) ^ k.toNat)]
  exact_mod_cast Iff.rfl

/-- **The power of two below a quotient.** -/
theorem log2Quotient_spec {num den : ℕ} (hnum : 0 < num) (hden : 0 < den) :
    (2 : ℚ) ^ Double.log2Quotient num den ≤ (num : ℚ) / den ∧
      (num : ℚ) / den < 2 ^ (Double.log2Quotient num den + 1) := by
  obtain ⟨a, ha⟩ : ∃ a, a = Nat.log2 num := ⟨_, rfl⟩
  obtain ⟨b, hb⟩ : ∃ b, b = Nat.log2 den := ⟨_, rfl⟩
  have hnumlow : ((2 : ℚ) ^ a) ≤ num := by
    have := Nat.log2_self_le hnum.ne'
    rw [← ha] at this
    exact_mod_cast this
  have hnumhigh : (num : ℚ) < 2 ^ (a + 1) := by
    have := Nat.lt_log2_self (n := num)
    rw [← ha] at this
    exact_mod_cast this
  have hdenlow : ((2 : ℚ) ^ b) ≤ den := by
    have := Nat.log2_self_le hden.ne'
    rw [← hb] at this
    exact_mod_cast this
  have hdenhigh : (den : ℚ) < 2 ^ (b + 1) := by
    have := Nat.lt_log2_self (n := den)
    rw [← hb] at this
    exact_mod_cast this
  have hpos : (0 : ℚ) < den := Nat.cast_pos.2 hden
  -- the difference of the logarithms is right or too large by one
  have htop : (num : ℚ) / den < 2 ^ ((a : ℤ) - b + 1) := by
    have hpow : (2 : ℚ) ^ ((a : ℤ) - b + 1) = 2 ^ (a + 1) / 2 ^ b := by
      rw [show (a : ℤ) - b + 1 = ((a + 1 : ℕ) : ℤ) - (b : ℕ) by push_cast; ring,
        zpow_sub₀ two_ne_zero, zpow_natCast, zpow_natCast]
    rw [hpow, div_lt_div_iff₀ hpos (by positivity)]
    have h1 : (num : ℚ) * 2 ^ b < 2 ^ (a + 1) * 2 ^ b := by
      exact mul_lt_mul_of_pos_right hnumhigh (by positivity)
    have h2 : (2 : ℚ) ^ (a + 1) * 2 ^ b ≤ 2 ^ (a + 1) * den :=
      mul_le_mul_of_nonneg_left hdenlow (by positivity)
    linarith
  have hbottom : (2 : ℚ) ^ ((a : ℤ) - b - 1) ≤ (num : ℚ) / den := by
    have hpow : (2 : ℚ) ^ ((a : ℤ) - b - 1) = 2 ^ a / 2 ^ (b + 1) := by
      rw [show (a : ℤ) - b - 1 = (a : ℕ) - ((b + 1 : ℕ) : ℤ) by push_cast; ring,
        zpow_sub₀ two_ne_zero, zpow_natCast, zpow_natCast]
    rw [hpow, div_le_div_iff₀ (by positivity) hpos]
    have h1 : (2 : ℚ) ^ a * den ≤ 2 ^ a * 2 ^ (b + 1) :=
      mul_le_mul_of_nonneg_left hdenhigh.le (by positivity)
    have h2 : (2 : ℚ) ^ a * 2 ^ (b + 1) ≤ num * 2 ^ (b + 1) :=
      mul_le_mul_of_nonneg_right hnumlow (by positivity)
    linarith
  have htest := zpow_le_div_iff (show 0 < 2 by decide) ((a : ℤ) - b) num hden
  unfold Double.log2Quotient
  rw [← ha, ← hb]
  dsimp only
  split
  · rename_i hle
    exact ⟨htest.2 hle, htop⟩
  · rename_i hgt
    rw [sub_add_cancel]
    refine ⟨hbottom, ?_⟩
    by_contra hge
    exact hgt (htest.1 (not_lt.1 hge))

namespace Double

/-! ### The number that a double stands for -/

/-- The number that a finite double stands for, up to its sign. -/
def size (d : Double) : ℚ := d.magnitude.1 * 2 ^ d.magnitude.2

theorem ratio_den_pos (d : Double) : 0 < d.ratio.2 := by
  unfold ratio
  exact Nat.pow_pos (by decide)

theorem ratio_eq_size (d : Double) : (d.ratio.1 : ℚ) / d.ratio.2 = d.size := by
  unfold ratio size
  dsimp only
  rw [zpow_eq_div]
  push_cast
  ring

/-- How far numbers below a double are rounded to it, in units of its last place: half of one,
and half as much next to a smaller exponent. -/
def reach (d : Double) : ℚ := if d.fraction = 0 ∧ 1 < d.exponentField then 1 / 4 else 1 / 2

/-- **The numbers that are rounded to a double**: those from the middle between it and the double
below up to the middle between it and the double above. The two middles belong to a double whose
last bit is zero. -/
def Covers (d : Double) (x : ℚ) : Prop :=
  if d.magnitude.1 % 2 = 0 then
    (d.magnitude.1 - d.reach) * 2 ^ d.magnitude.2 ≤ x ∧
      x ≤ (d.magnitude.1 + 1 / 2) * 2 ^ d.magnitude.2
  else
    (d.magnitude.1 - d.reach) * 2 ^ d.magnitude.2 < x ∧
      x < (d.magnitude.1 + 1 / 2) * 2 ^ d.magnitude.2

theorem Covers.bounds {d : Double} {x : ℚ} (h : d.Covers x) :
    (d.magnitude.1 - d.reach) * 2 ^ d.magnitude.2 ≤ x ∧
      x ≤ (d.magnitude.1 + 1 / 2) * 2 ^ d.magnitude.2 := by
  unfold Covers at h
  split at h
  · exact h
  · exact ⟨h.1.le, h.2.le⟩

/-- **Covered numbers are close to each other**, if the double has all its bits. -/
theorem Covers.dist {d : Double} {x y : ℚ} (hx : d.Covers x) (hy : d.Covers y)
    (hnormal : 2 ^ 52 ≤ d.magnitude.1) : |x - y| ≤ d.size / 2 ^ 52 := by
  obtain ⟨hxl, hxu⟩ := hx.bounds
  obtain ⟨hyl, hyu⟩ := hy.bounds
  obtain ⟨u, hu⟩ : ∃ u : ℚ, u = 2 ^ d.magnitude.2 := ⟨_, rfl⟩
  have hpos : 0 < u := hu ▸ zpow_pos two_pos _
  have hreach : d.reach ≤ 1 / 2 := by
    unfold reach
    split <;> norm_num
  have hunit : u ≤ d.size / 2 ^ 52 := by
    have hbits : (2 ^ 52 : ℚ) ≤ d.magnitude.1 := by exact_mod_cast hnormal
    rw [size, ← hu, le_div_iff₀ (by positivity), mul_comm]
    exact mul_le_mul_of_nonneg_right hbits hpos.le
  -- the interval is at most one unit wide
  rw [← hu] at hxl hxu hyl hyu
  have hreach' : d.reach * u ≤ 1 / 2 * u := mul_le_mul_of_nonneg_right hreach hpos.le
  rw [abs_le]
  constructor <;> linarith

/-! ### The bits of a double -/

section Fields

variable {low : ℕ} (negative : Bool)

theorem toNat_ofFields (h : low < 2 ^ 63) :
    (ofFields negative low).bits.toNat = low + if negative then 2 ^ 63 else 0 := by
  unfold ofFields
  apply UInt64.toNat_ofNat_of_lt'
  have hsize : UInt64.size = 2 ^ 64 := rfl
  rw [hsize]
  split <;> omega

theorem exponentField_ofFields (h : low < 2 ^ 63) :
    (ofFields negative low).exponentField = low / 2 ^ 52 := by
  unfold exponentField
  rw [toNat_ofFields negative h]
  split <;> omega

theorem fraction_ofFields (h : low < 2 ^ 63) :
    (ofFields negative low).fraction = low % 2 ^ 52 := by
  unfold fraction
  rw [toNat_ofFields negative h]
  split <;> omega

theorem isNegative_ofFields (h : low < 2 ^ 63) :
    (ofFields negative low).isNegative = negative := by
  unfold isNegative
  rw [toNat_ofFields negative h]
  cases negative with
  | true =>
    have hbit : (low + 2 ^ 63) / 2 ^ 63 % 2 = 1 := by omega
    rw [if_pos rfl, hbit]
    rfl
  | false =>
    have hbit : (low + 0) / 2 ^ 63 % 2 = 0 := by omega
    rw [if_neg Bool.false_ne_true, hbit]
    rfl

/-- A number of 53 bits with an exponent that is not at its bounds. -/
theorem magnitude_ofFields {n e : ℕ} (hlow : 2 ^ 52 ≤ n) (hhigh : n < 2 ^ 53) (he : e < 2046) :
    (ofFields negative (n + e * 2 ^ 52)).magnitude = (n, (e : ℤ) - 1074) ∧
      (ofFields negative (n + e * 2 ^ 52)).exponentField = e + 1 ∧
      (ofFields negative (n + e * 2 ^ 52)).fraction = n - 2 ^ 52 := by
  have hlt : n + e * 2 ^ 52 < 2 ^ 63 := by omega
  have hexp : (ofFields negative (n + e * 2 ^ 52)).exponentField = e + 1 := by
    rw [exponentField_ofFields negative hlt]
    omega
  have hfrac : (ofFields negative (n + e * 2 ^ 52)).fraction = n - 2 ^ 52 := by
    rw [fraction_ofFields negative hlt]
    omega
  refine ⟨?_, hexp, hfrac⟩
  unfold magnitude
  rw [hexp, hfrac, if_neg (by omega)]
  refine Prod.ext ?_ ?_
  · show 2 ^ 52 + (n - 2 ^ 52) = n
    omega
  · show ((e + 1 : ℕ) : ℤ) - 1075 = e - 1074
    omega

end Fields

/-! ### Rounding a quotient -/

/-- A finite double with all its bits, next to a number that is rounded to it. -/
structure Rounds (d : Double) (x : ℚ) : Prop where
  finite : d.isFinite = true
  normal : 2 ^ 52 ≤ d.magnitude.1
  covers : d.Covers x
  /-- The distance is half a unit of the last place that the number has. -/
  near : ∃ e : ℤ, 2 ^ e ≤ x ∧ |d.size - x| ≤ 2 ^ e / 2 ^ 53

/-- Rounding changes a number by a small part of it. -/
theorem Rounds.near_self {d : Double} {x : ℚ} (h : d.Rounds x) : |d.size - x| ≤ x / 2 ^ 53 := by
  obtain ⟨e, he, hdist⟩ := h.near
  exact hdist.trans (div_le_div_of_nonneg_right he (by positivity))

/-- Rounding changes all numbers below a power of two by at most as much as the largest of them. -/
theorem Rounds.near_of_lt {d : Double} {x : ℚ} (h : d.Rounds x) {k : ℤ} (hx : x < 2 ^ (k + 1)) :
    |d.size - x| ≤ 2 ^ k / 2 ^ 53 := by
  obtain ⟨e, he, hdist⟩ := h.near
  have hlt : e < k + 1 := (zpow_lt_zpow_iff_right₀ one_lt_two).1 (he.trans_lt hx)
  have hpow : (2 : ℚ) ^ e ≤ 2 ^ k := zpow_le_zpow_right₀ one_le_two (by omega)
  exact hdist.trans (div_le_div_of_nonneg_right hpow (by positivity))

/-- What is covered, in units of the last place. -/
theorem covers_of_units {d : Double} {x : ℚ}
    (hlow : (d.magnitude.1 : ℚ) - d.reach ≤ x / 2 ^ d.magnitude.2)
    (hhigh : x / 2 ^ d.magnitude.2 ≤ d.magnitude.1 + 1 / 2)
    (hodd : d.magnitude.1 % 2 = 1 → (d.magnitude.1 : ℚ) - d.reach < x / 2 ^ d.magnitude.2 ∧
      x / 2 ^ d.magnitude.2 < d.magnitude.1 + 1 / 2) : d.Covers x := by
  have hpos : (0 : ℚ) < 2 ^ d.magnitude.2 := zpow_pos two_pos _
  unfold Covers
  split
  · exact ⟨(le_div_iff₀ hpos).1 hlow, (div_le_iff₀ hpos).1 hhigh⟩
  · obtain ⟨hl, hh⟩ := hodd (by omega)
    exact ⟨(lt_div_iff₀ hpos).1 hl, (div_lt_iff₀ hpos).1 hh⟩

variable {x z : ℚ} {q : ℤ} {n : ℕ} {d : Double}

/-- The distance to a whole number of units. -/
theorem near_of_units (hz : z = x / 2 ^ q) (hlow : 2 ^ 52 ≤ z) (hsize : d.size = n * 2 ^ q)
    (hl : (n : ℚ) - 1 / 2 ≤ z) (hu : z ≤ n + 1 / 2) :
    ∃ e : ℤ, 2 ^ e ≤ x ∧ |d.size - x| ≤ 2 ^ e / 2 ^ 53 := by
  have hpos : (0 : ℚ) < 2 ^ q := zpow_pos two_pos _
  have hx : x = z * 2 ^ q := by rw [hz, div_mul_cancel₀ _ hpos.ne']
  have hunit : (2 : ℚ) ^ (q + 52) = 2 ^ 52 * 2 ^ q := by
    rw [zpow_add₀ two_ne_zero, mul_comm]
    norm_cast
  have hhalf : |(n : ℚ) - z| ≤ 1 / 2 := by
    rw [abs_le]
    constructor <;> linarith
  refine ⟨q + 52, ?_, ?_⟩
  · rw [hx, hunit]
    exact mul_le_mul_of_nonneg_right hlow hpos.le
  · rw [hsize, hx, ← sub_mul, abs_mul, abs_of_pos hpos, hunit]
    calc |(n : ℚ) - z| * 2 ^ q ≤ 1 / 2 * 2 ^ q := mul_le_mul_of_nonneg_right hhalf hpos.le
      _ = 2 ^ 52 * 2 ^ q / 2 ^ 53 := by ring

/-- A number of 53 bits next to one in units of its last place. -/
theorem rounds_of_bits (hz : z = x / 2 ^ q) (hnear : IsNearest z n) (hlow : 2 ^ 52 ≤ z)
    (hbits : 2 ^ 52 ≤ n) (hfinite : d.isFinite = true) (hmagnitude : d.magnitude = (n, q))
    (hfraction : d.fraction = n - 2 ^ 52) : d.Rounds x := by
  obtain ⟨hl, hu, htie⟩ := hnear
  rw [Int.cast_natCast] at hl hu htie
  have hm : d.magnitude.1 = n := congrArg Prod.fst hmagnitude
  have hq : d.magnitude.2 = q := congrArg Prod.snd hmagnitude
  -- next to the smaller exponent, the number is not below the double
  have hreach : (n : ℚ) - d.reach ≤ z := by
    unfold reach
    split
    · rename_i hedge
      have hn : n = 2 ^ 52 := by
        have := hedge.1
        rw [hfraction] at this
        omega
      rw [hn]
      push_cast
      linarith
    · exact hl
  have hodd : n % 2 = 1 → (n : ℚ) - d.reach < z ∧ z < n + 1 / 2 := by
    intro hone
    have hne : ¬ (z = n - 1 / 2 ∨ z = n + 1 / 2) := fun h => by
      have := htie h
      omega
    rw [not_or] at hne
    have hhalf : d.reach = 1 / 2 := by
      unfold reach
      rw [hfraction, if_neg (by omega)]
    rw [hhalf]
    exact ⟨lt_of_le_of_ne hl (Ne.symm hne.1), lt_of_le_of_ne hu hne.2⟩
  refine ⟨hfinite, by rw [hm]; exact hbits, ?_, ?_⟩
  · apply covers_of_units
    · rw [hm, hq, ← hz]; exact hreach
    · rw [hm, hq, ← hz]; exact hu
    · rw [hm, hq, ← hz]; exact hodd
  · exact near_of_units hz hlow (by rw [size, hm, hq]) hl hu

/-- A number that is rounded up to the next power of two. -/
theorem rounds_of_carry (hz : z = x / 2 ^ q) (hnear : IsNearest z (2 ^ 53 : ℕ)) (hhigh : z < 2 ^ 53)
    (hfinite : d.isFinite = true) (hmagnitude : d.magnitude = (2 ^ 52, q + 1)) : d.Rounds x := by
  have hl := hnear.lower
  rw [Int.cast_natCast] at hl
  push_cast at hl
  have hpos : (0 : ℚ) < 2 ^ q := zpow_pos two_pos _
  have hm : d.magnitude.1 = 2 ^ 52 := congrArg Prod.fst hmagnitude
  have hq : d.magnitude.2 = q + 1 := congrArg Prod.snd hmagnitude
  have hx : x = z * 2 ^ q := by rw [hz, div_mul_cancel₀ _ hpos.ne']
  have hunit : (2 : ℚ) ^ (q + 1) = 2 * 2 ^ q := by rw [zpow_add_one₀ two_ne_zero, mul_comm]
  -- the double has the next exponent, so its units are twice as large
  have hscaled : x / 2 ^ (q + 1) = z / 2 := by
    rw [hx, hunit]
    field_simp
  have hquarter : (1 / 4 : ℚ) ≤ d.reach := by
    unfold reach
    split <;> norm_num
  refine ⟨hfinite, by rw [hm], ?_, ?_⟩
  · apply covers_of_units
    · rw [hm, hq, hscaled]
      push_cast
      linarith
    · rw [hm, hq, hscaled]
      push_cast
      linarith
    · rw [hm]
      intro hone
      exact absurd hone (by decide)
  · have hsize : d.size = (2 ^ 53 : ℕ) * 2 ^ q := by
      rw [size, hm, hq, hunit]
      push_cast
      ring
    refine near_of_units hz (by linarith) hsize ?_ ?_
    · push_cast
      exact hl
    · push_cast
      linarith

/-- The bits of a rounded quotient: in units of its last place, it has 53 of them before its
point. -/
theorem exists_bits_ofRatio (negative : Bool) {num den : ℕ} (hnum : 0 < num) (hden : 0 < den)
    (hlow : (2 : ℚ) ^ (-1000 : ℤ) ≤ (num : ℚ) / den) (hhigh : (num : ℚ) / den < 2 ^ (1000 : ℤ)) :
    ∃ (n k : ℕ) (q : ℤ), (k : ℤ) = q + 1074 ∧ k < 2040 ∧ 2 ^ 52 ≤ n ∧ n ≤ 2 ^ 53 ∧
      ofRatio negative num den = ofFields negative (n + k * 2 ^ 52) ∧
      2 ^ 52 ≤ (num : ℚ) / den / 2 ^ q ∧ (num : ℚ) / den / 2 ^ q < 2 ^ 53 ∧
      IsNearest ((num : ℚ) / den / 2 ^ q) n := by
  obtain ⟨hbelow, habove⟩ := log2Quotient_spec hnum hden
  obtain ⟨e, he⟩ : ∃ e, e = log2Quotient num den := ⟨_, rfl⟩
  obtain ⟨x, hx⟩ : ∃ x : ℚ, x = num / den := ⟨_, rfl⟩
  rw [← he, ← hx] at hbelow habove
  rw [← hx] at hlow hhigh ⊢
  have hemin : -1000 < e + 1 := (zpow_lt_zpow_iff_right₀ one_lt_two).1 (hlow.trans_lt habove)
  have hemax : e < 1000 := (zpow_lt_zpow_iff_right₀ one_lt_two).1 (hbelow.trans_lt hhigh)
  obtain ⟨q, rfl⟩ : ∃ q, e = q + 52 := ⟨e - 52, by omega⟩
  obtain ⟨k, hk⟩ : ∃ k : ℕ, (k : ℤ) = q + 1074 := ⟨(q + 1074).toNat, by omega⟩
  have hpos : (0 : ℚ) < 2 ^ q := zpow_pos two_pos _
  -- in units of the last place the quotient has 53 bits before its point
  have hzlow : 2 ^ 52 ≤ x / 2 ^ q := by
    rw [le_div_iff₀ hpos, ← zpow_natCast, ← zpow_add₀ two_ne_zero]
    rwa [show ((52 : ℕ) : ℤ) + q = q + 52 by push_cast; ring]
  have hzhigh : x / 2 ^ q < 2 ^ 53 := by
    rw [div_lt_iff₀ hpos, ← zpow_natCast, ← zpow_add₀ two_ne_zero]
    rwa [show ((53 : ℕ) : ℤ) + q = q + 52 + 1 by push_cast; ring]
  obtain ⟨n, hn⟩ : ∃ n, n = roundQuotient (num * 2 ^ (-q).toNat) (den * 2 ^ q.toNat) := ⟨_, rfl⟩
  have hnear : IsNearest (x / 2 ^ q) n := by
    have hquot : x / 2 ^ q = ((num * 2 ^ (-q).toNat : ℕ) : ℚ) / (den * 2 ^ q.toNat : ℕ) := by
      rw [hx, zpow_eq_div]
      push_cast
      rw [div_div_div_eq]
    rw [hquot, hn]
    exact isNearest_roundQuotient _ (Nat.mul_pos hden (Nat.pow_pos (by decide)))
  have hnlow : 2 ^ 52 ≤ n := hnear.natCast_bounds (by push_cast; exact hzlow)
  have hnhigh : n ≤ 2 ^ 53 := by
    have hl := hnear.lower
    rw [Int.cast_natCast] at hl
    have : (n : ℚ) < 2 ^ 53 + 1 := by linarith
    have : n < 2 ^ 53 + 1 := by exact_mod_cast this
    omega
  refine ⟨n, k, q, hk, by omega, hnlow, hnhigh, ?_, hzlow, hzhigh, hnear⟩
  have hexp : max (log2Quotient num den - 52) (-1074) = q := by omega
  have hbias : (q + 1074).toNat = k := by omega
  unfold ofRatio
  rw [if_neg (by omega), hexp]
  dsimp only
  rw [← hn, hbias, if_pos (by omega)]

/-- **The double of a quotient** covers it and is near to it. -/
theorem rounds_ofRatio (negative : Bool) {num den : ℕ} (hnum : 0 < num) (hden : 0 < den)
    (hlow : (2 : ℚ) ^ (-1000 : ℤ) ≤ (num : ℚ) / den) (hhigh : (num : ℚ) / den < 2 ^ (1000 : ℤ)) :
    (ofRatio negative num den).Rounds (num / den) ∧
      (ofRatio negative num den).isNegative = negative := by
  obtain ⟨n, k, q, hq, hk, hnlow, hnhigh, hfields, hzlow, hzhigh, hnear⟩ :=
    exists_bits_ofRatio negative hnum hden hlow hhigh
  have hfinite : ∀ {d : Double} {e : ℕ},
      d.exponentField = e + 1 → e < 2046 → d.isFinite = true := by
    intro d e hd hlt
    unfold isFinite
    rw [bne_iff_ne, hd]
    omega
  rw [hfields]
  refine ⟨?_, isNegative_ofFields negative (by omega)⟩
  -- rounded up to one bit more, the number is the next power of two
  rcases Nat.lt_or_eq_of_le hnhigh with hlt | rfl
  · obtain ⟨hmagnitude, hexp, hfrac⟩ :=
      magnitude_ofFields negative hnlow hlt (show k < 2046 by omega)
    have hexponent : (k : ℤ) - 1074 = q := by omega
    rw [hexponent] at hmagnitude
    exact rounds_of_bits rfl hnear hzlow hnlow (hfinite hexp (by omega)) hmagnitude hfrac
  · have hcarry : 2 ^ 53 + k * 2 ^ 52 = 2 ^ 52 + (k + 1) * 2 ^ 52 := by omega
    obtain ⟨hmagnitude, hexp, -⟩ :=
      magnitude_ofFields negative (show 2 ^ 52 ≤ 2 ^ 52 by decide) (by decide)
        (show k + 1 < 2046 by omega)
    have hexponent : ((k + 1 : ℕ) : ℤ) - 1074 = q + 1 := by omega
    rw [hexponent] at hmagnitude
    rw [hcarry]
    exact rounds_of_carry rfl hnear hzhigh (hfinite hexp (by omega)) hmagnitude

/-- The same for numbers that are neither very large nor very small. -/
theorem rounds_of_moderate (negative : Bool) {num den : ℕ} (hnum : 0 < num) (hden : 0 < den)
    (hlow : 1 / 2 ^ 40 ≤ (num : ℚ) / den) (hhigh : (num : ℚ) / den < 2 ^ 40) :
    (ofRatio negative num den).Rounds (num / den) ∧
      (ofRatio negative num den).isNegative = negative := by
  have hsmall : (2 : ℚ) ^ (-40 : ℤ) = 1 / 2 ^ 40 := by norm_num
  have hlarge : (2 : ℚ) ^ (40 : ℤ) = 2 ^ 40 := by norm_num
  refine rounds_ofRatio negative hnum hden ?_ ?_
  · rw [← hsmall] at hlow
    exact (zpow_le_zpow_right₀ one_le_two (by decide)).trans hlow
  · rw [← hlarge] at hhigh
    exact hhigh.trans_le (zpow_le_zpow_right₀ one_le_two (by decide))

end Double

end ServiceClient
