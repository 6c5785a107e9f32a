import Mathlib.Algebra.Order.Floor.Semifield
import Mathlib.Data.Rat.Floor
import ServiceClient.Proofs.NearestDouble

/-!
# What the shortest text of a double says

The shortest text of a double is a decimal number that is rounded to it, not the double itself. For
a double that is the nearest one to a number of thousandths, the decimal number is that number.

* `Double.gridPoint_covers`, `Double.exists_gridPoint`: what the search for digits looks for.
* `Double.searchDigits_spec`: it stops at the latest on a grid that has a point.
* `NumberLayout.write_positional`: laid out digits say what the digits stand for.
* `Double.text_thousandths`: the text of the double nearest to a number of thousandths.
-/

namespace ServiceClient

/-! ### The value of written numbers -/

/-- The number that a text stands for, exactly. -/
def ScientificText.value (t : ScientificText) : ℚ :=
  (if t.negative then -1 else 1) * t.coefficient * 10 ^ t.exponent

/-- The number that digits stand for, the first of which counts a power of ten. -/
def digitsValue (digits : List Char) (top : ℤ) : ℚ :=
  Nat.ofDigitChars 10 digits 0 * 10 ^ (top + 1 - digits.length)

/-- Only zeros are trimmed. -/
theorem exists_trimmed (digits : List Char) :
    ∃ n, digits = trimZeros digits ++ List.replicate n '0' := by
  obtain ⟨zeros, hzeros⟩ : ∃ zeros, zeros = digits.reverse.takeWhile (· == '0') := ⟨_, rfl⟩
  have hsplit : digits.reverse = zeros ++ digits.reverse.dropWhile (· == '0') := by
    rw [hzeros, List.takeWhile_append_dropWhile]
  have hall : ∀ c ∈ zeros, c = '0' := by
    intro c hc
    rw [hzeros] at hc
    have htest := List.mem_takeWhile_imp (p := fun x => x == '0') hc
    exact beq_iff_eq.1 htest
  refine ⟨zeros.length, ?_⟩
  have hrep : zeros.reverse = List.replicate zeros.length '0' := by
    rw [List.eq_replicate_of_mem hall, List.reverse_replicate, List.length_replicate]
  unfold trimZeros
  rw [← hrep, ← List.reverse_append, ← hsplit, List.reverse_reverse]

/-- **Trimmed digits stand for the same number.** -/
theorem digitsValue_trimZeros (n : ℕ) (s : ℤ) :
    digitsValue (trimZeros (decimalDigits n)) (s + (decimalDigits n).length - 1) = n * 10 ^ s := by
  obtain ⟨zeros, hzeros⟩ := exists_trimmed (decimalDigits n)
  obtain ⟨digits, hdigits⟩ : ∃ digits, digits = trimZeros (decimalDigits n) := ⟨_, rfl⟩
  rw [← hdigits] at hzeros ⊢
  have hvalue : n = 10 ^ zeros * Nat.ofDigitChars 10 digits 0 := by
    calc n = Nat.ofDigitChars 10 (decimalDigits n) 0 := Nat.ofDigitChars_ten_toDigits.symm
      _ = 10 ^ zeros * Nat.ofDigitChars 10 digits 0 := by
          rw [hzeros, Nat.ofDigitChars_append, Nat.ofDigitChars_replicate_zero]
  have hlength : (decimalDigits n).length = digits.length + zeros := by
    rw [hzeros, List.length_append, List.length_replicate]
  have hexp : s + ((digits.length + zeros : ℕ) : ℤ) - 1 + 1 - digits.length = s + zeros := by
    push_cast
    ring
  unfold digitsValue
  rw [hlength, hexp, zpow_add₀ (by norm_num), zpow_natCast]
  conv_rhs => rw [hvalue]
  push_cast
  ring

/-- A text of digits, point and digits is read as all of the digits. -/
theorem ScientificText.ofChars?_fraction (negative : Bool) {whole fraction : List Char}
    (hwhole : IsDigits whole) (hne : whole ≠ []) (hfraction : IsDigits fraction) :
    ScientificText.ofChars? (Double.signChars negative ++ (whole ++ '.' :: fraction)) =
      some ⟨negative, Nat.ofDigitChars 10 (whole ++ fraction) 0, -(fraction.length : ℤ)⟩ := by
  obtain ⟨d, ds, rfl⟩ := List.exists_cons_of_ne_nil hne
  have hd : d.isDigit = true := hwhole d List.mem_cons_self
  have hsigned : signed (Double.signChars negative ++ (d :: ds ++ '.' :: fraction)) =
      (negative, d :: ds ++ '.' :: fraction) := by
    cases negative with
    | true => rfl
    | false => exact signed_digit hd _
  obtain ⟨htake, hdrop⟩ := takeWhile_digits hwhole
    (endsDigits_cons (show '.'.isDigit = false by decide) fraction)
  have hnothing : EndsDigits [] := by
    intro c tail h
    cases h
  obtain ⟨htail, hend⟩ := takeWhile_digits hfraction hnothing
  rw [List.append_nil] at htail hend
  unfold ofChars?
  simp only [hsigned, htake, hdrop, htail, hend]
  simp

/-- **Digits with a point between them** stand for the number of their layout. -/
theorem NumberLayout.write_positional {layout : NumberLayout} {digits : List Char} {top : ℤ}
    (hdigits : IsDigits digits) (hne : digits ≠ []) (hlow : layout.lowest ≤ top)
    (hhigh : top < layout.highest) (hsuffix : layout.wholeSuffix = ".0") :
    ∃ whole fraction, (layout.write digits top).toList = whole ++ '.' :: fraction ∧
      IsDigits whole ∧ whole ≠ [] ∧ IsDigits fraction ∧
      (Nat.ofDigitChars 10 (whole ++ fraction) 0 : ℚ) * 10 ^ (-(fraction.length : ℤ)) =
        digitsValue digits top := by
  have hzero : "0.".toList = ['0', '.'] := rfl
  have hpoint : ".".toList = ['.'] := rfl
  have htail : ".0".toList = ['.', '0'] := rfl
  unfold write
  rw [if_pos ⟨hlow, hhigh⟩]
  by_cases hneg : top < 0
  · -- zeros stand between the point and the first digit
    refine ⟨['0'], List.replicate (-top - 1).toNat '0' ++ digits, ?_, isDigits_zeros 1,
      List.cons_ne_nil _ _, (isDigits_zeros _).append hdigits, ?_⟩
    · rw [if_pos hneg, String.toList_append, hzero, String.toList_ofList]
      rfl
    · have hvalue :
          Nat.ofDigitChars 10 (['0'] ++ (List.replicate (-top - 1).toNat '0' ++ digits)) 0 =
            Nat.ofDigitChars 10 digits 0 := by
        rw [Nat.ofDigitChars_append, Nat.ofDigitChars_append, Nat.ofDigitChars_replicate_zero]
        rfl
      have hexp : -((List.replicate (-top - 1).toNat '0' ++ digits).length : ℤ) =
          top + 1 - digits.length := by
        rw [List.length_append, List.length_replicate]
        omega
      rw [hvalue, hexp]
      rfl
  · rw [if_neg hneg]
    dsimp only
    by_cases hlen : digits.length ≤ (top + 1).toNat
    · -- zeros stand between the last digit and the point
      obtain ⟨k, hk⟩ : ∃ k, k = (top + 1).toNat - digits.length := ⟨_, rfl⟩
      have hvalue : Nat.ofDigitChars 10 (digits ++ List.replicate k '0' ++ ['0']) 0 =
          10 * (10 ^ k * Nat.ofDigitChars 10 digits 0) := by
        rw [Nat.ofDigitChars_append, Nat.ofDigitChars_append, Nat.ofDigitChars_replicate_zero]
        rfl
      have hexp : top + 1 - digits.length = k := by omega
      refine ⟨digits ++ List.replicate k '0', ['0'], ?_, hdigits.append (isDigits_zeros k), ?_,
        isDigits_zeros 1, ?_⟩
      · rw [if_pos hlen, hsuffix, String.toList_append, htail, String.toList_ofList, hk]
      · intro hnil
        exact hne (List.append_eq_nil_iff.1 hnil).1
      · unfold digitsValue
        rw [hvalue, hexp, zpow_natCast]
        have hten : (10 : ℚ) ^ (-((['0'] : List Char).length : ℤ)) = 1 / 10 := by norm_num
        rw [hten]
        push_cast
        ring
    · -- the point stands between digits
      refine ⟨digits.take (top + 1).toNat, digits.drop (top + 1).toNat, ?_, ?_, ?_, ?_, ?_⟩
      · rw [if_neg hlen, String.toList_append, String.toList_append, hpoint, String.toList_ofList,
          String.toList_ofList, List.append_assoc]
        rfl
      · exact fun c hc => hdigits c (List.mem_of_mem_take hc)
      · intro hnil
        have := congrArg List.length hnil
        rw [List.length_take, List.length_nil] at this
        have := List.length_pos_iff.2 hne
        omega
      · exact fun c hc => hdigits c (List.mem_of_mem_drop hc)
      · have hexp : -((digits.drop (top + 1).toNat).length : ℤ) = top + 1 - digits.length := by
          rw [List.length_drop]
          omega
        rw [List.take_append_drop, hexp]
        rfl

/-- **The power of ten above a quotient.** -/
theorem lt_pow_log10Quotient (num : ℕ) {den : ℕ} (hden : 0 < den) :
    (num : ℚ) / den < 10 ^ (log10Quotient num den + 1) := by
  have hpos : (0 : ℚ) < den := Nat.cast_pos.2 hden
  have hlt : ∀ n : ℕ, n < 10 ^ (decimalDigits n).length := by
    intro n
    have hpos := List.length_pos_iff.2 (decimalDigits_ne_nil n)
    exact (Nat.length_toDigits_le_iff (by decide) hpos).1 le_rfl
  unfold log10Quotient
  split
  · have hquot : num < 10 ^ (decimalDigits (num / den)).length * den :=
      (Nat.div_lt_iff_lt_mul hden).1 (hlt (num / den))
    rw [sub_add_cancel, zpow_natCast, div_lt_iff₀ hpos]
    exact_mod_cast hquot
  · rename_i hless
    -- the digits of the inverse, one less than which is a power of ten at most
    obtain ⟨k, hk⟩ : ∃ k, (decimalDigits ((den - 1) / num)).length = k + 1 := by
      have := List.length_pos_iff.2 (decimalDigits_ne_nil ((den - 1) / num))
      exact ⟨(decimalDigits ((den - 1) / num)).length - 1, by omega⟩
    have hquot : num * 10 ^ k < den := by
      rcases Nat.eq_zero_or_pos ((den - 1) / num) with hzero | hquotient
      · have hone : (decimalDigits ((den - 1) / num)).length = 1 := by rw [hzero]; rfl
        have : k = 0 := by omega
        rw [this, Nat.pow_zero, Nat.mul_one]
        omega
      · have hle := Double.pow_le_of_length hquotient hk
        have := Nat.mul_le_of_le_div num _ _ hle
        rw [Nat.mul_comm]
        omega
    have hexp : -((k + 1 : ℕ) : ℤ) + 1 = -(k : ℤ) := by
      push_cast
      ring
    rw [hk, hexp, zpow_neg, zpow_natCast, div_lt_iff₀ hpos, ← div_eq_inv_mul,
      lt_div_iff₀ (by positivity)]
    exact_mod_cast hquot

namespace Double

/-! ### The search for digits -/

variable {d : Double} {s : ℤ} {p : ℕ}

/-- The bounds of the numbers that are rounded to a double and a point of a decimal grid, over one
denominator. -/
theorem scaled_bounds (hd : 0 < d.magnitude.1) (s : ℤ) (n : ℕ) :
    ∃ D : ℚ, 0 < D ∧
      ((d.roundingInterval.1 * 10 ^ (-s).toNat : ℕ) : ℚ) =
        (d.magnitude.1 - d.reach) * 2 ^ d.magnitude.2 * D ∧
      ((n * 10 ^ s.toNat * d.roundingInterval.2.2 : ℕ) : ℚ) = n * 10 ^ s * D ∧
      ((d.roundingInterval.2.1 * 10 ^ (-s).toNat : ℕ) : ℚ) =
        (d.magnitude.1 + 1 / 2) * 2 ^ d.magnitude.2 * D := by
  obtain ⟨m, hm⟩ : ∃ m, m = d.magnitude.1 := ⟨_, rfl⟩
  obtain ⟨q, hq⟩ : ∃ q, q = d.magnitude.2 := ⟨_, rfl⟩
  obtain ⟨below, hbelow⟩ : ∃ below : ℕ,
      below = if d.fraction = 0 ∧ 1 < d.exponentField then 1 else 2 := ⟨_, rfl⟩
  have hinterval : d.roundingInterval =
      ((4 * m - below) * 2 ^ q.toNat, (4 * m + 2) * 2 ^ q.toNat, 4 * 2 ^ (-q).toNat) := by
    rw [hm, hq, hbelow]
    rfl
  have hlow : ((4 * m - below : ℕ) : ℚ) = 4 * (m - d.reach) := by
    unfold reach
    rw [hbelow, Nat.cast_sub (by split <;> omega)]
    split
    · push_cast; ring
    · push_cast; ring
  rw [hinterval, ← hm, ← hq, zpow_eq_div 2 q, zpow_eq_div 10 s]
  refine ⟨4 * 2 ^ (-q).toNat * 10 ^ (-s).toNat, by positivity, ?_, ?_, ?_⟩
  · rw [Nat.cast_mul, Nat.cast_mul, hlow]
    push_cast
    field_simp
  · push_cast
    field_simp
  · push_cast
    field_simp
    ring

/-- The points of a grid that are less than its spacing away from a double are the quotient by the
spacing, rounded down, and the next one. -/
theorem neighbour_eq {s : ℤ} {n : ℕ} (hn : |n * 10 ^ s - d.size| < 10 ^ s) :
    n = d.ratio.1 * 10 ^ (-s).toNat / (d.ratio.2 * 10 ^ s.toNat) ∨
      n = d.ratio.1 * 10 ^ (-s).toNat / (d.ratio.2 * 10 ^ s.toNat) + 1 := by
  obtain ⟨base, hbase⟩ : ∃ base,
      base = d.ratio.1 * 10 ^ (-s).toNat / (d.ratio.2 * 10 ^ s.toNat) := ⟨_, rfl⟩
  rw [← hbase]
  have hten : (0 : ℚ) < 10 ^ s := zpow_pos (by norm_num) _
  have hfloor : ⌊d.size / 10 ^ s⌋₊ = base := by
    rw [hbase, ← Nat.floor_div_eq_div (K := ℚ), ← ratio_eq_size, zpow_eq_div]
    push_cast
    rw [div_div_div_eq]
  have hsize : d.size = d.size / 10 ^ s * 10 ^ s := by rw [div_mul_cancel₀ _ hten.ne']
  have hunits : |(n : ℚ) - d.size / 10 ^ s| < 1 := by
    rw [hsize, ← sub_mul, abs_mul, abs_of_pos hten] at hn
    exact lt_of_mul_lt_mul_right (by rw [one_mul]; exact hn) hten.le
  have hnonneg : 0 ≤ d.size / 10 ^ s :=
    div_nonneg (mul_nonneg (Nat.cast_nonneg _) (zpow_pos two_pos _).le) hten.le
  have hlow := Nat.floor_le hnonneg
  have hhigh := Nat.lt_floor_add_one (d.size / 10 ^ s)
  rw [hfloor] at hlow hhigh
  rw [abs_lt] at hunits
  have habove : (n : ℚ) < base + 2 := by linarith
  have hbelow : (base : ℚ) < n + 1 := by linarith
  have habove : n < base + 2 := by exact_mod_cast habove
  have hbelow : base < n + 1 := by exact_mod_cast hbelow
  omega

/-- What a decimal grid is searched for: the neighbours of a double that are rounded to it. -/
theorem gridPoint_eq (hd : 0 < d.magnitude.1) (s : ℤ) : ∃ (inside : ℕ → Bool) (first second : ℕ),
    (∀ n, inside n = true ↔ d.Covers (n * 10 ^ s)) ∧
    (∀ n : ℕ, |n * 10 ^ s - d.size| < 10 ^ s → n = first ∨ n = second) ∧
    d.gridPoint s =
      if 0 < first && inside first then some first
      else if 0 < second && inside second then some second else none := by
  refine ⟨fun n => if d.magnitude.1 % 2 = 0 then
      d.roundingInterval.1 * 10 ^ (-s).toNat ≤ n * 10 ^ s.toNat * d.roundingInterval.2.2 &&
        n * 10 ^ s.toNat * d.roundingInterval.2.2 ≤ d.roundingInterval.2.1 * 10 ^ (-s).toNat
      else d.roundingInterval.1 * 10 ^ (-s).toNat < n * 10 ^ s.toNat * d.roundingInterval.2.2 &&
        n * 10 ^ s.toNat * d.roundingInterval.2.2 < d.roundingInterval.2.1 * 10 ^ (-s).toNat,
    _, _, fun n => ?_, fun n hn => ?_, rfl⟩
  · obtain ⟨D, hD, hlow, hpoint, hhigh⟩ := scaled_bounds hd s n
    unfold Covers
    split
    · rw [Bool.and_eq_true, decide_eq_true_eq, decide_eq_true_eq, ← Nat.cast_le (α := ℚ),
        ← Nat.cast_le (α := ℚ), hlow, hpoint, hhigh, mul_le_mul_iff_left₀ hD,
        mul_le_mul_iff_left₀ hD]
    · rw [Bool.and_eq_true, decide_eq_true_eq, decide_eq_true_eq, ← Nat.cast_lt (α := ℚ),
        ← Nat.cast_lt (α := ℚ), hlow, hpoint, hhigh, mul_lt_mul_iff_left₀ hD,
        mul_lt_mul_iff_left₀ hD]
  · have := neighbour_eq hn
    split
    · exact this
    · exact this.symm

/-- **A point that is found** is rounded to the double. -/
theorem gridPoint_covers (hd : 0 < d.magnitude.1) (h : d.gridPoint s = some p) :
    0 < p ∧ d.Covers (p * 10 ^ s) := by
  obtain ⟨inside, first, second, hinside, -, heq⟩ := gridPoint_eq hd s
  rw [heq] at h
  refine ⟨pos_of_first h, (hinside p).1 ?_⟩
  split at h
  · rename_i hfirst
    rw [← Option.some.inj h]
    exact (Bool.and_eq_true _ _ ▸ hfirst).2
  · split at h
    · rename_i hsecond
      rw [← Option.some.inj h]
      exact (Bool.and_eq_true _ _ ▸ hsecond).2
    · cases h

/-- **A point next to a double** that is rounded to it is not missed. -/
theorem exists_gridPoint (hd : 0 < d.magnitude.1) {n : ℕ} (hn : 0 < n)
    (hcovers : d.Covers (n * 10 ^ s)) (hnext : |n * 10 ^ s - d.size| < 10 ^ s) :
    ∃ p, d.gridPoint s = some p := by
  obtain ⟨inside, first, second, hinside, hneighbour, heq⟩ := gridPoint_eq hd s
  have hin : (decide (0 < n) && inside n) = true := by
    rw [Bool.and_eq_true, decide_eq_true_eq]
    exact ⟨hn, (hinside n).2 hcovers⟩
  rw [heq]
  by_cases hfirst : (decide (0 < first) && inside first) = true
  · rw [if_pos hfirst]
    exact ⟨first, rfl⟩
  · rw [if_neg hfirst]
    rcases hneighbour n hnext with rfl | rfl
    · exact absurd hin hfirst
    · rw [if_pos hin]
      exact ⟨n, rfl⟩

/-- **The search stops** at the latest on a grid that is known to have a point. -/
theorem searchDigits_spec {top s₀ : ℤ} {p₀ : ℕ} (hpoint : d.gridPoint s₀ = some p₀) {fuel n : ℕ}
    (hlow : s₀ ≤ top - n + 1) (hhigh : top - n + 1 < s₀ + fuel) :
    ∃ p s, d.searchDigits top fuel n = (p, s) ∧ d.gridPoint s = some p ∧ s₀ ≤ s := by
  induction fuel generalizing n with
  | zero => omega
  | succ fuel ih =>
    unfold searchDigits
    dsimp only
    cases hgrid : d.gridPoint (top - n + 1) with
    | some p => exact ⟨p, _, rfl, hgrid, hlow⟩
    | none =>
      -- this was not the grid that has a point
      have hne : top - n + 1 ≠ s₀ := by
        intro heq
        rw [heq, hpoint] at hgrid
        cases hgrid
      exact ih (by push_cast; omega) (by push_cast; omega)

/-! ### Numbers of thousandths -/

variable {j : ℕ}

/-- The number of thousandths next to a double is not far from it. -/
theorem Rounds.thousandths (h : d.Rounds ((j : ℚ) / 1000)) (hj : 0 < j) (hlt : j < 4 * 10 ^ 14) :
    1 / 10 ^ 4 < d.size ∧ d.size < 10 ^ 12 ∧ |(j : ℚ) / 1000 - d.size| < 1 / 10 ^ 4 ∧
      d.size / 2 ^ 52 < 1 / 10 ^ 4 := by
  have hlow : (1 : ℚ) ≤ j := by exact_mod_cast hj
  have hhigh : (j : ℚ) < 4 * 10 ^ 14 := by exact_mod_cast hlt
  have hnear := h.near_self
  rw [abs_sub_comm]
  rw [abs_le] at hnear
  obtain ⟨hnearlow, hnearhigh⟩ := hnear
  refine ⟨by linarith, by linarith, ?_, by linarith⟩
  rw [abs_lt]
  constructor <;> linarith

/-- The search starts between the fourth decimal and the twelfth digit in front of the point. -/
theorem log10Quotient_bounds (hm : 0 < d.magnitude.1) (hlow : 1 / 10 ^ 4 < d.size)
    (hhigh : d.size < 10 ^ 12) :
    -4 ≤ log10Quotient d.ratio.1 d.ratio.2 ∧ log10Quotient d.ratio.1 d.ratio.2 < 12 := by
  have hden := d.ratio_den_pos
  have hnum : 0 < d.ratio.1 := Nat.mul_pos hm (Nat.pow_pos (by decide))
  have hten : (1 : ℚ) < 10 := by norm_num
  have hbelow : (10 : ℚ) ^ log10Quotient d.ratio.1 d.ratio.2 ≤ d.size := by
    rw [← ratio_eq_size]
    exact (zpow_le_div_iff (show 0 < 10 by decide) _ d.ratio.1 hden).2
      (pow_log10Quotient_le hnum hden)
  have habove : d.size < 10 ^ (log10Quotient d.ratio.1 d.ratio.2 + 1) := by
    rw [← ratio_eq_size]
    exact lt_pow_log10Quotient d.ratio.1 hden
  have hfour : (10 : ℚ) ^ (-4 : ℤ) = 1 / 10 ^ 4 := by norm_num
  have htwelve : (10 : ℚ) ^ (12 : ℤ) = 10 ^ 12 := by norm_num
  rw [← hfour] at hlow
  rw [← htwelve] at hhigh
  have hmin : -4 < log10Quotient d.ratio.1 d.ratio.2 + 1 :=
    (zpow_lt_zpow_iff_right₀ hten).1 (hlow.trans habove)
  have hmax : log10Quotient d.ratio.1 d.ratio.2 < 12 :=
    (zpow_lt_zpow_iff_right₀ hten).1 (hbelow.trans_lt hhigh)
  omega

/-- A number of thousandths is a point of the third grid, and of the fourth. -/
theorem exists_grid_thousandths (hj : 0 < j) {top : ℤ} (htop : -4 ≤ top) :
    ∃ (s : ℤ) (n : ℕ), -4 ≤ s ∧ s ≤ top ∧ s ≤ -3 ∧ 0 < n ∧
      (n : ℚ) * 10 ^ s = (j : ℚ) / 1000 := by
  by_cases hthird : -3 ≤ top
  · refine ⟨-3, j, by omega, hthird, le_rfl, hj, ?_⟩
    norm_num
    ring
  · refine ⟨-4, 10 * j, le_rfl, htop, by omega, by omega, ?_⟩
    push_cast
    norm_num
    ring

/-- Numbers with four decimals are the same if they are less than one unit apart. -/
theorem eq_thousandths (hs : -4 ≤ s) (h : |(p : ℚ) * 10 ^ s - (j : ℚ) / 1000| < 1 / 10 ^ 4) :
    (p : ℚ) * 10 ^ s = (j : ℚ) / 1000 := by
  obtain ⟨k, rfl⟩ : ∃ k : ℕ, s = k - 4 := ⟨(s + 4).toNat, by omega⟩
  have hunits : (p : ℚ) * 10 ^ ((k : ℤ) - 4) = ((p * 10 ^ k : ℕ) : ℚ) / 10 ^ 4 := by
    rw [show (k : ℤ) - 4 = (k : ℤ) - (4 : ℕ) by rfl, zpow_sub₀ (by norm_num), zpow_natCast,
      zpow_natCast]
    push_cast
    ring
  have hunits₀ : (j : ℚ) / 1000 = ((10 * j : ℕ) : ℚ) / 10 ^ 4 := by
    push_cast
    ring
  rw [hunits, hunits₀, ← sub_div, abs_div, abs_of_pos (show (0 : ℚ) < 10 ^ 4 by norm_num),
    div_lt_div_iff_of_pos_right (by norm_num), abs_lt] at h
  obtain ⟨hl, hu⟩ := h
  have h1 : ((10 * j : ℕ) : ℚ) < ((p * 10 ^ k : ℕ) : ℚ) + 1 := by linarith
  have h2 : ((p * 10 ^ k : ℕ) : ℚ) < ((10 * j : ℕ) : ℚ) + 1 := by linarith
  have h1 : 10 * j < p * 10 ^ k + 1 := by exact_mod_cast h1
  have h2 : p * 10 ^ k < 10 * j + 1 := by exact_mod_cast h2
  have heq : p * 10 ^ k = 10 * j := by omega
  rw [hunits, heq, ← hunits₀]

/-- **The digits found for a number of thousandths** are those of the number: no other one with four
decimals is rounded to the same double. -/
theorem searchDigits_thousandths (h : d.Rounds ((j : ℚ) / 1000)) (hj : 0 < j)
    (hlt : j < 4 * 10 ^ 14) :
    ∃ p s, d.searchDigits (log10Quotient d.ratio.1 d.ratio.2) 17 1 = (p, s) ∧ 0 < p ∧ -4 ≤ s ∧
      (p : ℚ) * 10 ^ s = (j : ℚ) / 1000 := by
  obtain ⟨hsizelow, hsizehigh, hnear, hwidth⟩ := h.thousandths hj hlt
  have hm : 0 < d.magnitude.1 := by
    have := h.normal
    omega
  obtain ⟨hmin, hmax⟩ := log10Quotient_bounds hm hsizelow hsizehigh
  obtain ⟨top, htop⟩ : ∃ top, top = log10Quotient d.ratio.1 d.ratio.2 := ⟨_, rfl⟩
  rw [← htop] at hmin hmax ⊢
  obtain ⟨s₀, n₀, hs₀, hstart, hthird, hn₀, hvalue⟩ := exists_grid_thousandths hj hmin
  have hpoint : ∃ p₀, d.gridPoint s₀ = some p₀ := by
    have hfour : (1 / 10 ^ 4 : ℚ) = 10 ^ (-4 : ℤ) := by norm_num
    have hspacing : (10 : ℚ) ^ (-4 : ℤ) ≤ 10 ^ s₀ := zpow_le_zpow_right₀ (by norm_num) hs₀
    rw [hfour] at hnear
    apply exists_gridPoint hm hn₀
    · rw [hvalue]
      exact h.covers
    · rw [hvalue]
      exact hnear.trans_le hspacing
  obtain ⟨p₀, hp₀⟩ := hpoint
  have hstops : ∃ p s, d.searchDigits top 17 1 = (p, s) ∧ d.gridPoint s = some p ∧ s₀ ≤ s :=
    searchDigits_spec hp₀ (by push_cast; omega) (by push_cast; omega)
  obtain ⟨p, s, hsearch, hgrid, hs⟩ := hstops
  obtain ⟨hp, hcovers⟩ := gridPoint_covers hm hgrid
  -- what was found is rounded to the same double, and so is not far from the number
  have hdist := (hcovers.dist h.covers h.normal).trans_lt hwidth
  exact ⟨p, s, hsearch, hp, by omega, eq_thousandths (by omega) hdist⟩

/-- A double with all its bits is written in digits. -/
theorem Rounds.written {x : ℚ} (h : d.Rounds x) :
    d.isNaN = false ∧ d.isInfinite = false ∧ d.isZero = false := by
  obtain ⟨hnan, hinf⟩ := not_special h.finite
  refine ⟨hnan, hinf, ?_⟩
  have hnormal := h.normal
  unfold isZero
  by_contra hzero
  rw [Bool.not_eq_false, Bool.and_eq_true, beq_iff_eq, beq_iff_eq] at hzero
  unfold magnitude at hnormal
  rw [if_pos hzero.1, hzero.2] at hnormal
  exact absurd hnormal (by decide)

/-- The first digit of a number counts no power of ten that the number does not reach. -/
theorem top_lt {p : ℕ} {s e : ℤ} (hp : 0 < p) (h : (p : ℚ) * 10 ^ s < 10 ^ e) :
    s + (decimalDigits p).length - 1 < e := by
  obtain ⟨k, hk⟩ : ∃ k, (decimalDigits p).length = k + 1 := by
    have := List.length_pos_iff.2 (decimalDigits_ne_nil p)
    exact ⟨(decimalDigits p).length - 1, by omega⟩
  have hpow : (10 : ℚ) ^ (s + k) < 10 ^ e := by
    have hfirst : ((10 ^ k : ℕ) : ℚ) ≤ p := by exact_mod_cast pow_le_of_length hp hk
    have hten : (0 : ℚ) < 10 ^ s := zpow_pos (by norm_num) _
    calc (10 : ℚ) ^ (s + k) = ((10 ^ k : ℕ) : ℚ) * 10 ^ s := by
          rw [zpow_add₀ (by norm_num), zpow_natCast, mul_comm]
          push_cast
          rfl
      _ ≤ p * 10 ^ s := mul_le_mul_of_nonneg_right hfirst hten.le
      _ < 10 ^ e := h
  have hlt := (zpow_lt_zpow_iff_right₀ (by norm_num)).1 hpow
  omega

/-- **The text of a number of thousandths** says that number exactly. -/
theorem Rounds.text_thousandths (h : d.Rounds ((j : ℚ) / 1000)) (hj : 0 < j)
    (hlt : j < 4 * 10 ^ 14) :
    ∃ number, ScientificText.ofChars? d.text.toList = some number ∧
      number.value = (if d.isNegative then -1 else 1) * ((j : ℚ) / 1000) := by
  obtain ⟨p, s, hsearch, hp, hs, hvalue⟩ := searchDigits_thousandths h hj hlt
  obtain ⟨hnan, hinf, hzero⟩ := h.written
  obtain ⟨top, htop⟩ : ∃ top, top = s + (decimalDigits p).length - 1 := ⟨_, rfl⟩
  have hdigits : d.shortestDigits = (trimZeros (decimalDigits p), top) := by
    unfold shortestDigits
    dsimp only
    rw [hsearch, htop]
  have hfirst : IsFirstDigits (trimZeros (decimalDigits p)) 1 := isFirstDigits_trimZeros hp
  obtain ⟨hall, ⟨-, hfalse⟩ | ⟨c, cs, hcons, -⟩⟩ := hfirst
  · exact absurd hfalse (by decide)
  have hne : trimZeros (decimalDigits p) ≠ [] := by
    rw [hcons]
    exact List.cons_ne_nil _ _
  have hlowest : shortestLayout.lowest ≤ top := by
    have := List.length_pos_iff.2 (decimalDigits_ne_nil p)
    show -4 ≤ top
    omega
  -- below this bound a number is written with a point and without an exponent
  have hhighest : top < shortestLayout.highest := by
    have hbound : (j : ℚ) < 4 * 10 ^ 14 := by exact_mod_cast hlt
    rw [htop]
    apply top_lt hp
    rw [hvalue]
    show (j : ℚ) / 1000 < 10 ^ (16 : ℤ)
    norm_num
    linarith
  obtain ⟨whole, fraction, hchars, hwhole, hwholene, hfraction, hsame⟩ :=
    NumberLayout.write_positional hall hne hlowest hhighest rfl
  have htext : d.text.toList = signChars d.isNegative ++ (whole ++ '.' :: fraction) := by
    unfold text
    simp only [hnan, hinf, hzero, Bool.false_eq_true, if_false, hdigits]
    rw [String.toList_append, toList_sign, hchars]
  rw [htop, digitsValue_trimZeros, hvalue] at hsame
  refine ⟨_, htext ▸ ScientificText.ofChars?_fraction d.isNegative hwhole hwholene hfraction, ?_⟩
  unfold ScientificText.value
  dsimp only
  rw [mul_assoc, hsame]

end Double

end ServiceClient
