import ServiceClient.Proofs.CborRoundTrip
import ServiceClient.Proofs.ShortestText

/-!
# Timestamps in JSON and in CBOR

JSON has a timestamp as seconds with at most three decimals, CBOR as a whole number of milliseconds.
The seconds are the nearest double to the instant, rounded to the nearest millisecond; the
milliseconds are the instant, rounded down.

* `Timestamp.seconds_near`: how far the double of the seconds is from the instant.
* `Double.text_roundPlaces`: the text of a double that is rounded to thousandths.
* `Timestamp.roundedMilliseconds_spec`: the millisecond that rounding leads to.
* `Timestamp.json_and_cbor_numbers`: the number of each encoding, and when they are the same.
-/

namespace ServiceClient

namespace Double

/-! ### Doubles with a sign -/

/-- The number that a finite double stands for. -/
def value (d : Double) : ℚ := (d.numerator : ℚ) / d.ratio.2

theorem value_eq_size (d : Double) : d.value = (if d.isNegative then -1 else 1) * d.size := by
  unfold value numerator
  rw [← ratio_eq_size]
  split
  · push_cast
    ring
  · push_cast
    ring

theorem zero_fields (negative : Bool) :
    (zero negative).isFinite = true ∧ (zero negative).isNegative = negative ∧
      (zero negative).isZero = true ∧ (zero negative).ratio.1 = 0 := by
  have hexp : (zero negative).exponentField = 0 := exponentField_ofFields negative (by decide)
  have hfrac : (zero negative).fraction = 0 := fraction_ofFields negative (by decide)
  refine ⟨?_, isNegative_ofFields negative (by decide), ?_, ?_⟩
  · unfold isFinite
    rw [hexp]
    rfl
  · unfold isZero
    rw [hexp, hfrac]
    rfl
  · unfold ratio magnitude
    rw [if_pos hexp, hfrac]
    exact Nat.zero_mul _

theorem text_zero (negative : Bool) :
    (zero negative).text.toList = signChars negative ++ (['0'] ++ '.' :: ['0']) := by
  obtain ⟨hfinite, hsign, hzero, -⟩ := zero_fields negative
  obtain ⟨hnan, hinf⟩ := not_special hfinite
  unfold text
  simp only [hnan, hinf, hzero, hsign, Bool.false_eq_true, if_false, if_true]
  rw [String.toList_append, toList_sign]
  rfl

/-- The sign of a rounded quotient is that of the number. -/
theorem roundIntQuotient_numerator (d : Double) :
    (roundIntQuotient (d.numerator * 1000) d.ratio.2 : ℚ) =
      (if d.isNegative then -1 else 1) * roundQuotient (d.ratio.1 * 1000) d.ratio.2 := by
  have hzero : roundQuotient 0 d.ratio.2 = 0 := by
    have hden := d.ratio_den_pos
    unfold roundQuotient
    rw [Nat.zero_div, Nat.zero_mod, Nat.mul_zero]
    dsimp only
    rw [if_pos hden]
  unfold roundIntQuotient numerator
  cases d.isNegative with
  | false =>
    have habs : ((d.ratio.1 : ℤ) * 1000).natAbs = d.ratio.1 * 1000 := by omega
    rw [if_neg Bool.false_ne_true, if_neg Bool.false_ne_true, if_neg (by omega), habs, one_mul]
    rfl
  | true =>
    have habs : (-(d.ratio.1 : ℤ) * 1000).natAbs = d.ratio.1 * 1000 := by omega
    rw [if_pos rfl, if_pos rfl, habs]
    rcases Nat.eq_zero_or_pos d.ratio.1 with hnum | hnum
    · rw [hnum, Nat.zero_mul, hzero]
      simp
    · rw [if_pos (by omega)]
      push_cast
      ring

/-- **A double that is rounded to thousandths** is written as the number that it is rounded to. -/
theorem text_roundPlaces {d : Double} (hfinite : d.isFinite = true)
    (hlt : roundQuotient (d.ratio.1 * 1000) d.ratio.2 < 4 * 10 ^ 14) :
    (d.roundPlaces 3).isFinite = true ∧
      ∃ number, ScientificText.ofChars? (d.roundPlaces 3).text.toList = some number ∧
        number.value * 1000 = roundIntQuotient (d.numerator * 1000) d.ratio.2 := by
  obtain ⟨j, hj⟩ : ∃ j, j = roundQuotient (d.ratio.1 * 1000) d.ratio.2 := ⟨_, rfl⟩
  have hrounded : d.roundPlaces 3 = ofRatio d.isNegative j 1000 := by
    unfold roundPlaces
    rw [if_pos hfinite, hj]
  rw [← hj] at hlt
  rw [hrounded, roundIntQuotient_numerator, ← hj]
  rcases Nat.eq_zero_or_pos j with hzero | hpos
  · -- less than half a thousandth: a zero with the sign of the number
    have hresult : ofRatio d.isNegative j 1000 = zero d.isNegative := by
      unfold ofRatio
      rw [if_pos (.inl hzero)]
    rw [hresult, text_zero]
    refine ⟨(zero_fields d.isNegative).1, _, ScientificText.ofChars?_fraction d.isNegative
      (isDigits_zeros 1) (List.cons_ne_nil _ _) (isDigits_zeros 1), ?_⟩
    have hdigits : Nat.ofDigitChars 10 (['0'] ++ ['0']) 0 = 0 := rfl
    unfold ScientificText.value
    dsimp only
    rw [hdigits, hzero]
    simp
  · have hone : (1 : ℚ) ≤ j := by exact_mod_cast hpos
    have hbound : (j : ℚ) < 4 * 10 ^ 14 := by exact_mod_cast hlt
    have hlow : 1 / 2 ^ 40 ≤ (j : ℚ) / (1000 : ℕ) := by
      push_cast
      linarith
    have hhigh : (j : ℚ) / (1000 : ℕ) < 2 ^ 40 := by
      push_cast
      linarith
    obtain ⟨hrounds, hsign⟩ :=
      rounds_of_moderate d.isNegative hpos (show 0 < 1000 by decide) hlow hhigh
    push_cast at hrounds
    obtain ⟨number, hread, hvalue⟩ := hrounds.text_thousandths hpos hlt
    refine ⟨hrounds.finite, number, hread, ?_⟩
    rw [hvalue, hsign]
    ring

end Double

namespace Timestamp

/-! ### The double of the seconds -/

/-- A clock in the years 1 to 9999, less than a day from UTC. -/
structure IsCivil (t : Timestamp) : Prop where
  inYears : t.inRange = true
  inDay : ∀ o, t.offset = some o → o.natAbs < 86400

/-- The instant of a civil clock has 38 bits of seconds. -/
theorem IsCivil.instant_bound {t : Timestamp} (h : t.IsCivil) :
    t.instant.natAbs < 2 ^ 38 * 1000000 := by
  have hearliest : earliest = -62135596800000 * 1000 := by decide
  have hlatest : latest = 253402300800000 * 1000 := by decide
  have hclock := h.inYears
  unfold inRange at hclock
  rw [Bool.and_eq_true, decide_eq_true_eq, decide_eq_true_eq, hearliest, hlatest] at hclock
  have hoffset : (t.offset.getD 0).natAbs < 86400 := by
    cases ho : t.offset with
    | none => decide
    | some o => exact h.inDay o ho
  unfold instant
  omega

/-- The double that is nearest to the seconds of an instant. -/
def seconds (t : Timestamp) : Double := Double.ofIntRatio t.instant 1000000

/-- **The double of the seconds** is finite, and as near to the instant as its bits allow. -/
theorem seconds_near {t : Timestamp} {k : ℕ} (hk : k < 40)
    (h : t.instant.natAbs < 2 ^ (k + 1) * 1000000) :
    t.seconds.isFinite = true ∧
      |t.seconds.value - (t.instant : ℚ) / 1000000| ≤ 2 ^ k / 2 ^ 53 := by
  unfold seconds Double.ofIntRatio
  rcases Nat.eq_zero_or_pos t.instant.natAbs with hzero | hpos
  · have hinstant : t.instant = 0 := Int.natAbs_eq_zero.1 hzero
    obtain ⟨hfinite, -, -, hnum⟩ := Double.zero_fields (decide (t.instant < 0))
    have hresult : Double.ofRatio (decide (t.instant < 0)) t.instant.natAbs 1000000 =
        Double.zero (decide (t.instant < 0)) := by
      unfold Double.ofRatio
      rw [if_pos (.inl hzero)]
    rw [hresult]
    refine ⟨hfinite, ?_⟩
    rw [Double.value_eq_size, ← Double.ratio_eq_size, hnum, hinstant]
    simp only [Nat.cast_zero, zero_div, mul_zero, Int.cast_zero, sub_zero, abs_zero]
    positivity
  · obtain ⟨x, hx⟩ : ∃ x : ℚ, x = (t.instant.natAbs : ℚ) / (1000000 : ℕ) := ⟨_, rfl⟩
    have hlow : 1 / 2 ^ 40 ≤ x := by
      have hone : (1 : ℚ) ≤ t.instant.natAbs := by exact_mod_cast hpos
      rw [hx]
      push_cast
      linarith
    have hlt : x < 2 ^ (k + 1) := by
      have hbound : (t.instant.natAbs : ℚ) < 2 ^ (k + 1) * 1000000 := by exact_mod_cast h
      rw [hx]
      push_cast
      linarith
    have hhigh : x < 2 ^ 40 := hlt.trans_le (pow_le_pow_right₀ one_le_two (by omega))
    rw [hx] at hlow hhigh
    obtain ⟨hrounds, hsign⟩ := Double.rounds_of_moderate (decide (t.instant < 0)) hpos
      (show 0 < 1000000 by decide) hlow hhigh
    rw [← hx] at hrounds
    refine ⟨hrounds.finite, ?_⟩
    -- the instant has the same sign, so that the distance is that of the magnitudes
    have hdist : |(Double.ofRatio (decide (t.instant < 0)) t.instant.natAbs 1000000).size - x| ≤
        2 ^ (k : ℤ) / 2 ^ 53 := by
      apply hrounds.near_of_lt
      exact_mod_cast hlt
    rw [zpow_natCast] at hdist
    have hexact : (t.instant : ℚ) / 1000000 =
        (if decide (t.instant < 0) then -1 else 1) * x := by
      rw [cast_eq_sign_mul, hx]
      simp only [decide_eq_true_eq]
      push_cast
      ring
    have hunit : |(if decide (t.instant < 0) then (-1 : ℚ) else 1)| = 1 := by
      split <;> norm_num
    rw [Double.value_eq_size, hsign, hexact, ← mul_sub, abs_mul, hunit, one_mul]
    exact hdist

/-! ### The millisecond that rounding leads to -/

/-- The seconds in milliseconds, rounded to the nearest whole number. -/
def roundedMilliseconds (t : Timestamp) : ℤ :=
  roundIntQuotient (t.seconds.numerator * 1000) t.seconds.ratio.2

theorem isNearest_roundedMilliseconds (t : Timestamp) :
    IsNearest (t.seconds.value * 1000) t.roundedMilliseconds := by
  have hnear := isNearest_roundIntQuotient (t.seconds.numerator * 1000) t.seconds.ratio_den_pos
  have hvalue : ((t.seconds.numerator * 1000 : ℤ) : ℚ) / t.seconds.ratio.2 =
      t.seconds.value * 1000 := by
    unfold Double.value
    push_cast
    ring
  rw [hvalue] at hnear
  exact hnear

/-- **The rounded millisecond** is the one that the instant lies in or the next one. Which of them
is decided by the double of the seconds; more than 15 microseconds away from the middle, and up to
the year 2514 at any other instant than the middle, the instant itself decides. -/
theorem roundedMilliseconds_spec {t : Timestamp} (h : t.IsCivil) :
    (t.roundedMilliseconds = t.milliseconds ∨ t.roundedMilliseconds = t.milliseconds + 1) ∧
    (t.roundedMilliseconds = t.milliseconds ↔
      t.seconds.value * 1000 < t.milliseconds + 1 / 2 ∨
        t.seconds.value * 1000 = t.milliseconds + 1 / 2 ∧ t.milliseconds % 2 = 0) ∧
    (t.instant % 1000 ≤ 484 → t.roundedMilliseconds = t.milliseconds) ∧
    (516 ≤ t.instant % 1000 → t.roundedMilliseconds = t.milliseconds + 1) ∧
    (t.instant.natAbs < 2 ^ 34 * 1000000 → t.instant % 1000 ≠ 500 →
      (t.roundedMilliseconds = t.milliseconds ↔ t.instant % 1000 < 500)) := by
  obtain ⟨z, hz⟩ : ∃ z, z = t.seconds.value * 1000 := ⟨_, rfl⟩
  obtain ⟨m, hm⟩ : ∃ m, m = t.milliseconds := ⟨_, rfl⟩
  obtain ⟨r, hr⟩ : ∃ r, r = t.instant % 1000 := ⟨_, rfl⟩
  have hsplit : t.instant = 1000 * m + r := by
    rw [hm, hr]
    unfold milliseconds
    omega
  have hinstant : (t.instant : ℚ) = 1000 * m + r := by exact_mod_cast hsplit
  have hrest : 0 ≤ r ∧ r < 1000 := by omega
  have hrestlow : (0 : ℚ) ≤ r := by exact_mod_cast hrest.1
  have hresthigh : (r : ℚ) ≤ 999 := by
    have : r ≤ 999 := by omega
    exact_mod_cast this
  have hnear := isNearest_roundedMilliseconds t
  -- the double is less than sixteen microseconds away, and less than one before the year 2514
  have hdist := (seconds_near (k := 37) (by decide) h.instant_bound).2
  rw [abs_le, hinstant] at hdist
  obtain ⟨hdistlow, hdisthigh⟩ := hdist
  rw [← hz] at hnear ⊢
  rw [← hm, ← hr]
  have hlow : (m : ℚ) - 1 / 2 < z := by linarith
  have hhigh : z < m + 3 / 2 := by linarith
  obtain ⟨hcases, hiff⟩ := hnear.eq_iff hlow hhigh
  have hbelow : z < m + 1 / 2 → t.roundedMilliseconds = m := fun hlt => hiff.2 (.inl hlt)
  have habove : (m : ℚ) + 1 / 2 < z → t.roundedMilliseconds = m + 1 := by
    intro hgt
    refine hcases.resolve_left fun heq => ?_
    rcases hiff.1 heq with hlt | ⟨hmid, -⟩
    · linarith
    · linarith
  refine ⟨hcases, hiff, fun hle => hbelow ?_, fun hge => habove ?_, fun hearly hmiddle => ?_⟩
  · have : (r : ℚ) ≤ 484 := by exact_mod_cast hle
    linarith
  · have : (516 : ℚ) ≤ r := by exact_mod_cast hge
    linarith
  · have hclose := (seconds_near (k := 33) (by decide) hearly).2
    rw [abs_le, hinstant] at hclose
    obtain ⟨hcloselow, hclosehigh⟩ := hclose
    constructor
    · intro heq
      by_contra hge
      have hlarge : 501 ≤ r := by omega
      have : (501 : ℚ) ≤ r := by exact_mod_cast hlarge
      have := habove (by linarith)
      omega
    · intro hlt
      have hsmall : r ≤ 499 := by omega
      have : (r : ℚ) ≤ 499 := by exact_mod_cast hsmall
      exact hbelow (by linarith)

/-- **The seconds of a timestamp** are written as its rounded milliseconds. -/
theorem text_epochSeconds {t : Timestamp} (h : t.IsCivil) :
    t.epochSeconds.isFinite = true ∧
      ∃ number, ScientificText.ofChars? (Json.printDouble t.epochSeconds) = some number ∧
        number.value * 1000 = t.roundedMilliseconds := by
  obtain ⟨hfinite, hdist⟩ := seconds_near (k := 37) (by decide) h.instant_bound
  -- there are not too many milliseconds for all their digits to be written
  have hlt : roundQuotient (t.seconds.ratio.1 * 1000) t.seconds.ratio.2 < 4 * 10 ^ 14 := by
    have hnear := (isNearest_roundQuotient (t.seconds.ratio.1 * 1000) t.seconds.ratio_den_pos).lower
    have hinstant : |(t.instant : ℚ)| < 2 ^ 38 * 1000000 := by
      have hbound := h.instant_bound
      have habs : |t.instant| < 2 ^ 38 * 1000000 := by
        rw [Int.abs_eq_natAbs]
        exact_mod_cast hbound
      exact_mod_cast habs
    have hsize : t.seconds.size = |t.seconds.value| := by
      have hnonneg : 0 ≤ t.seconds.size :=
        mul_nonneg (Nat.cast_nonneg _) (zpow_pos two_pos _).le
      rw [Double.value_eq_size]
      split
      · rw [neg_one_mul, abs_neg, abs_of_nonneg hnonneg]
      · rw [one_mul, abs_of_nonneg hnonneg]
    have hvalue : t.seconds.size < 3 * 10 ^ 11 := by
      rw [hsize, abs_lt]
      rw [abs_lt] at hinstant
      rw [abs_le] at hdist
      constructor <;> linarith
    have hquot : ((t.seconds.ratio.1 * 1000 : ℕ) : ℚ) / t.seconds.ratio.2 =
        t.seconds.size * 1000 := by
      rw [← Double.ratio_eq_size]
      push_cast
      ring
    rw [hquot, Int.cast_natCast] at hnear
    have hcast :
        (roundQuotient (t.seconds.ratio.1 * 1000) t.seconds.ratio.2 : ℚ) < 4 * 10 ^ 14 := by
      linarith
    exact_mod_cast hcast
  obtain ⟨hrounded, number, hread, hnumber⟩ := Double.text_roundPlaces hfinite hlt
  refine ⟨hrounded, number, ?_, hnumber⟩
  obtain ⟨hnan, hinf⟩ := Double.not_special hrounded
  have hprint : Json.printDouble t.epochSeconds = (t.seconds.roundPlaces 3).text.toList := by
    unfold Json.printDouble epochSeconds
    rw [← seconds, hnan, hinf]
    rfl
  rw [hprint]
  exact hread

/-! ### Both encodings -/

/-- **The numbers that JSON and CBOR have for a timestamp.** A writer of either encoding takes a
timestamp with any clock in the years 1 to 9999, with or without an offset, and has a body. The body
in CBOR is read as the milliseconds of the instant, rounded down. The body in JSON is a number in
digits that stands, read as an exact decimal number of seconds, for a whole number of milliseconds:
the same as in CBOR, or the next one. It is the same exactly if the double nearest to the seconds of
the instant is below the middle of the millisecond, or at the middle of an even one. So it is the
same for instants at most 484 microseconds after a whole millisecond, and the next one from 516
microseconds on; up to the year 2514 the instant decides at all microseconds but the middle. -/
theorem json_and_cbor_numbers {t : Timestamp} (h : t.IsCivil) :
    ∃ (json cbor : BodyWriter) (digits : List Char) (number : ScientificText) (body : Bytes)
      (rounded : ℤ),
      (BodyWriter.new .json).perform (.value (.timestamp t)) = (.ok (), json) ∧
      (BodyWriter.new .cbor).perform (.value (.timestamp t)) = (.ok (), cbor) ∧
      json.bytes = .ok (Utf8.encodeChars digits) ∧
      ScientificText.ofChars? digits = some number ∧ number.value * 1000 = rounded ∧
      cbor.bytes = .ok body ∧ Encoding.cbor.parse body = .ok (.int t.milliseconds) ∧
      (rounded = t.milliseconds ∨ rounded = t.milliseconds + 1) ∧
      (rounded = t.milliseconds ↔ t.seconds.value * 1000 < t.milliseconds + 1 / 2 ∨
        t.seconds.value * 1000 = t.milliseconds + 1 / 2 ∧ t.milliseconds % 2 = 0) ∧
      (t.instant % 1000 ≤ 484 → rounded = t.milliseconds) ∧
      (516 ≤ t.instant % 1000 → rounded = t.milliseconds + 1) ∧
      (t.instant.natAbs < 2 ^ 34 * 1000000 → t.instant % 1000 ≠ 500 →
        (rounded = t.milliseconds ↔ t.instant % 1000 < 500)) := by
  have hplain : Value.Plain (fun _ => True) (.timestamp t) := .scalar rfl trivial
  obtain ⟨json, hjson, hjsonBytes⟩ := BodyWriter.perform_plain .json hplain
  obtain ⟨cbor, hcbor, hcborBytes⟩ := BodyWriter.perform_plain .cbor hplain
  obtain ⟨-, number, hread, hnumber⟩ := text_epochSeconds h
  obtain ⟨hencodes, hparse⟩ :=
    Encoding.parse_encode_cbor (v := .int t.milliseconds) (.scalar rfl trivial)
  have hfits : Cbor.fits (.int t.milliseconds) = true := by
    have hbound := h.instant_bound
    have hmagnitude : Cbor.magnitude t.milliseconds < 2 ^ 64 := by
      unfold Cbor.magnitude milliseconds
      split <;> omega
    exact decide_eq_true (Cbor.byteWidth_lt hmagnitude)
  obtain ⟨body, hbody⟩ := hencodes.2 hfits
  have hspec := roundedMilliseconds_spec h
  refine ⟨json, cbor, Json.printDouble t.epochSeconds, number, body, t.roundedMilliseconds, hjson,
    hcbor, ?_, hread, hnumber, ?_, (hparse body hbody).2, hspec⟩
  · rw [hjsonBytes]
    rfl
  · rw [hcborBytes]
    exact hbody

/-- At noon of a day in 2021, 123.6 milliseconds after a second, on a clock two hours ahead: JSON
has the next millisecond. -/
theorem json_and_cbor_numbers_noon :
    ∃ (json cbor : BodyWriter) (digits : List Char) (number : ScientificText) (body : Bytes),
      (BodyWriter.new .json).perform (.value (.timestamp ⟨1622550615123600, some 7200⟩)) =
        (.ok (), json) ∧
      (BodyWriter.new .cbor).perform (.value (.timestamp ⟨1622550615123600, some 7200⟩)) =
        (.ok (), cbor) ∧
      json.bytes = .ok (Utf8.encodeChars digits) ∧ ScientificText.ofChars? digits = some number ∧
      number.value * 1000 = 1622543415124 ∧ cbor.bytes = .ok body ∧
      Encoding.cbor.parse body = .ok (.int 1622543415123) := by
  have hcivil : IsCivil ⟨1622550615123600, some 7200⟩ := by
    refine ⟨by decide, fun o ho => ?_⟩
    rw [← Option.some.inj ho]
    decide
  obtain ⟨json, cbor, digits, number, body, rounded, hjson, hcbor, hjsonBytes, hread, hnumber,
    hcborBytes, hparse, -, -, -, hafter, -⟩ := json_and_cbor_numbers hcivil
  have hmilliseconds : milliseconds ⟨1622550615123600, some 7200⟩ = 1622543415123 := by decide
  have hrounded := hafter (by decide)
  rw [hmilliseconds] at hparse hrounded
  rw [hrounded] at hnumber
  refine ⟨json, cbor, digits, number, body, hjson, hcbor, hjsonBytes, hread, ?_, hcborBytes, hparse⟩
  rw [hnumber]
  norm_num

/-- **An instant that the encodings write differently**: the body in JSON has the millisecond after
the one that the body in CBOR has. -/
theorem json_number_after_cbor :
    IsCivil ⟨1622550615123600, some 0⟩ ∧
      ∃ json cbor body, (BodyWriter.new .json).perform
          (.value (.timestamp ⟨1622550615123600, some 0⟩)) = (.ok (), json) ∧
        (BodyWriter.new .cbor).perform (.value (.timestamp ⟨1622550615123600, some 0⟩)) =
          (.ok (), cbor) ∧
        json.bytes = .ok (Utf8.encode "1622550615.124") ∧
        cbor.bytes = .ok body ∧ Encoding.cbor.parse body = .ok (.int 1622550615123) ∧
        ∀ number, ScientificText.ofChars? "1622550615.124".toList = some number →
          number.value * 1000 ≠ (1622550615123 : ℤ) := by
  have hcivil : IsCivil ⟨1622550615123600, some 0⟩ := by
    refine ⟨by decide, fun o ho => ?_⟩
    rw [← Option.some.inj ho]
    decide
  have hdigits : Json.printDouble (epochSeconds ⟨1622550615123600, some 0⟩) =
      "1622550615.124".toList := by
    decide +kernel
  have hbody : Encoding.cbor.encode (.int 1622550615123) =
      .ok [0x1b, 0x00, 0x00, 0x01, 0x79, 0xc7, 0x8d, 0x94, 0x53] := rfl
  refine ⟨hcivil, _, _, _, rfl, rfl, ?_, hbody, rfl, fun number hread => ?_⟩
  · show Encoding.json.encode (.double (epochSeconds ⟨1622550615123600, some 0⟩)) = _
    unfold Encoding.encode
    simp only [Json.print, hdigits]
    rfl
  · have hnumber : number = ⟨false, 1622550615124, -3⟩ := by
      have hsome : ScientificText.ofChars? "1622550615.124".toList =
          some ⟨false, 1622550615124, -3⟩ := rfl
      rw [hsome] at hread
      exact (Option.some.inj hread).symm
    rw [hnumber]
    unfold ScientificText.value
    norm_num

end Timestamp

end ServiceClient
