import Mathlib.Data.List.TakeWhile
import ServiceClient.Number.Decimal

/-!
# The texts of numbers

Doubles and decimals are written in one shape: digits, a fraction if there is one, and an
exponent behind a mark if there is one.

* `NumberText`: the shape.
* `NumberLayout.write_chars`: laid out digits have it.
* `Double.isFirstDigits_shortest`, `Double.isFirstDigits_rounded`: so do those of a double.
* `Decimal.text_chars`: so does a decimal.
-/

namespace ServiceClient

/-! ### Runs of digits -/

/-- Digits only. -/
def IsDigits (s : List Char) : Prop := ∀ c ∈ s, c.isDigit = true

theorem isDigits_decimalDigits (n : Nat) : IsDigits (decimalDigits n) :=
  fun _ hc => Nat.isDigit_of_mem_toDigits (by decide) (by decide) hc

theorem isDigits_zeros (n : Nat) : IsDigits (List.replicate n '0') := by
  intro c hc
  rw [List.eq_of_mem_replicate hc]
  decide

theorem IsDigits.append {s t : List Char} (hs : IsDigits s) (ht : IsDigits t) :
    IsDigits (s ++ t) := by
  intro c hc
  rcases List.mem_append.1 hc with hc | hc
  · exact hs c hc
  · exact ht c hc

theorem decimalDigits_ne_nil (n : Nat) : decimalDigits n ≠ [] := Nat.toDigits_ne_nil

/-- What follows digits is no digit. -/
def EndsDigits (rest : List Char) : Prop := ∀ c tail, rest = c :: tail → c.isDigit = false

theorem endsDigits_cons {c : Char} (h : c.isDigit = false) (tail : List Char) :
    EndsDigits (c :: tail) := by
  intro d t heq
  rw [← (List.cons.inj heq).1]
  exact h

/-- A run of characters of a kind is taken up to the first one of another kind. -/
theorem takeWhile_span {p : Char → Bool} {s rest : List Char} (hs : ∀ c ∈ s, p c = true)
    (hr : ∀ c tail, rest = c :: tail → p c = false) :
    (s ++ rest).takeWhile p = s ∧ (s ++ rest).dropWhile p = rest := by
  rw [List.takeWhile_append_of_pos hs, List.dropWhile_append_of_pos hs]
  cases rest with
  | nil => simp
  | cons c tail =>
    have hc := hr c tail rfl
    simp [hc]

/-- A run of digits is taken up to its end. -/
theorem takeWhile_digits {ds rest : List Char} (hd : IsDigits ds) (hr : EndsDigits rest) :
    (ds ++ rest).takeWhile Char.isDigit = ds ∧ (ds ++ rest).dropWhile Char.isDigit = rest :=
  takeWhile_span hd hr

/-- A positive number does not start with a zero. -/
theorem head_decimalDigits : ∀ (k : Nat), 0 < k → ∃ d ds, decimalDigits k = d :: ds ∧ d ≠ '0' := by
  intro k
  induction k using Nat.strongRecOn with
  | ind k ih =>
    intro hk
    unfold decimalDigits at *
    by_cases h : k < 10
    · refine ⟨k.digitChar, [], Nat.toDigits_of_lt_base h, ?_⟩
      have : ∀ n < 10, 0 < n → n.digitChar ≠ '0' := by decide
      exact this k h hk
    · obtain ⟨d, ds, hds, hd⟩ := ih (k / 10) (by omega) (by omega)
      exact ⟨d, ds ++ [(k % 10).digitChar],
        by rw [Nat.toDigits_of_base_le (by decide) (by omega), hds]; rfl, hd⟩

/-- The digits of a natural number: a zero alone, or none in front. -/
def IsWhole (s : List Char) : Prop :=
  IsDigits s ∧ (s = ['0'] ∨ ∃ d ds, s = d :: ds ∧ d ≠ '0')

theorem isWhole_decimalDigits (n : Nat) : IsWhole (decimalDigits n) := by
  refine ⟨isDigits_decimalDigits n, ?_⟩
  rcases Nat.eq_zero_or_pos n with hn | hn
  · left
    rw [hn]
    decide
  · right
    exact head_decimalDigits n hn

theorem IsWhole.ne_nil {s : List Char} (h : IsWhole s) : s ≠ [] := by
  obtain ⟨-, rfl | ⟨d, ds, rfl, -⟩⟩ := h <;> exact List.cons_ne_nil _ _

/-- A point between the digits of a number leaves a whole number and a fraction. -/
theorem IsWhole.split {s : List Char} (h : IsWhole s) {k : Nat} (hk : 0 < k) (hlt : k < s.length) :
    IsWhole (s.take k) ∧ IsDigits (s.drop k) ∧ s.drop k ≠ [] := by
  obtain ⟨hdigits, hshape⟩ := h
  refine ⟨⟨fun c hc => hdigits c (List.mem_of_mem_take hc), .inr ?_⟩,
    fun c hc => hdigits c (List.mem_of_mem_drop hc), fun hnil => ?_⟩
  · obtain rfl | ⟨d, ds, rfl, hd⟩ := hshape
    · rw [List.length_singleton] at hlt
      omega
    · obtain ⟨n, rfl⟩ := Nat.exists_eq_add_of_lt hk
      exact ⟨d, _, List.take_succ_cons, hd⟩
  · exact absurd (List.drop_eq_nil_iff.1 hnil) (by omega)

/-- No digit is a sign. -/
theorem signed_digit {d : Char} (hd : d.isDigit = true) (rest : List Char) :
    ScientificText.signed (d :: rest) = (false, d :: rest) := by
  unfold ScientificText.signed
  split
  · rename_i heq
    rw [(List.cons.inj heq).1] at hd
    exact absurd hd (by decide)
  · rename_i heq
    rw [(List.cons.inj heq).1] at hd
    exact absurd hd (by decide)
  · rfl

/-! ### The shape of a number's text -/

/-- The parts of a number's text. There is a fraction, or an exponent, if it has digits. -/
structure NumberText where
  whole : List Char
  fraction : List Char
  sign : List Char
  exponent : List Char
  isWhole : IsWhole whole
  isFraction : IsDigits fraction
  isSign : sign = [] ∨ sign = ['+'] ∨ sign = ['-']
  isExponent : IsDigits exponent

namespace NumberText

/-- The characters of a fraction. -/
def fractionChars (t : NumberText) : List Char :=
  if t.fraction = [] then [] else '.' :: t.fraction

/-- The characters of an exponent behind its mark. -/
def exponentChars (mark : Char) (t : NumberText) : List Char :=
  if t.exponent = [] then [] else mark :: (t.sign ++ t.exponent)

/-- The characters of a number. -/
def chars (mark : Char) (t : NumberText) : List Char :=
  t.whole ++ (t.fractionChars ++ t.exponentChars mark)

/-- Whole digits alone. -/
def ofWhole (s : List Char) (h : IsWhole s) : NumberText :=
  ⟨s, [], [], [], h, by simp [IsDigits], .inl rfl, by simp [IsDigits]⟩

/-- Digits with a fraction. -/
def ofFraction (s f : List Char) (hs : IsWhole s) (hf : IsDigits f) : NumberText :=
  ⟨s, f, [], [], hs, hf, .inl rfl, by simp [IsDigits]⟩

theorem chars_ofWhole (mark : Char) {s : List Char} (h : IsWhole s) :
    (ofWhole s h).chars mark = s := by
  simp [chars, fractionChars, exponentChars, ofWhole]

theorem chars_ofFraction (mark : Char) {s f : List Char} (hs : IsWhole s) (hf : IsDigits f)
    (hne : f ≠ []) : (ofFraction s f hs hf).chars mark = s ++ '.' :: f := by
  simp [chars, fractionChars, exponentChars, ofFraction, hne]

/-- The digit that a number starts with. -/
theorem exists_chars_cons (mark : Char) (t : NumberText) :
    ∃ d ds, d.isDigit = true ∧ t.chars mark = d :: ds := by
  obtain ⟨d, ds, hds⟩ := List.exists_cons_of_ne_nil t.isWhole.ne_nil
  have hd : d.isDigit = true := t.isWhole.1 d (by rw [hds]; exact List.mem_cons_self)
  have hchars : t.chars mark = d :: (ds ++ (t.fractionChars ++ t.exponentChars mark)) := by
    unfold chars
    rw [hds, List.cons_append]
  exact ⟨d, _, hd, hchars⟩

/-- A number does not start with a sign. -/
theorem chars_ne (mark : Char) (t : NumberText) (rest tail : List Char) :
    t.chars mark ++ rest ≠ '-' :: tail := by
  obtain ⟨d, ds, hd, hchars⟩ := t.exists_chars_cons mark
  intro heq
  rw [hchars, List.cons_append] at heq
  rw [(List.cons.inj heq).1] at hd
  exact absurd hd (by decide)

/-- The mark of an exponent, or what follows the number, ends the digits in front. -/
theorem endsDigits_exponent {mark : Char} (hmark : mark.isDigit = false) (t : NumberText)
    {rest : List Char} (hrest : EndsDigits rest) : EndsDigits (t.exponentChars mark ++ rest) := by
  unfold exponentChars
  split
  · exact hrest
  · exact endsDigits_cons hmark _

theorem endsDigits_fraction (t : NumberText) {rest : List Char} (hrest : EndsDigits rest) :
    EndsDigits (t.fractionChars ++ rest) := by
  unfold fractionChars
  split
  · exact hrest
  · exact endsDigits_cons (by decide) _

/-- The sign of an exponent is split off its digits. -/
theorem signed_exponent (t : NumberText) (h : t.exponent ≠ []) :
    ∃ down, ∀ rest, ScientificText.signed (t.sign ++ (t.exponent ++ rest)) =
      (down, t.exponent ++ rest) := by
  obtain ⟨d, ds, hds⟩ := List.exists_cons_of_ne_nil h
  have hd : d.isDigit = true := t.isExponent d (by rw [hds]; exact List.mem_cons_self)
  rcases t.isSign with hs | hs | hs
  · refine ⟨false, fun rest => ?_⟩
    rw [hs, hds, List.nil_append, List.cons_append, signed_digit hd]
  · exact ⟨false, fun rest => by rw [hs]; rfl⟩
  · exact ⟨true, fun rest => by rw [hs]; rfl⟩

end NumberText

/-! ### Laid out digits -/

/-- The first digits of a number whose first one counts a power of ten: none for a zero, and else
no zero in front. -/
def IsFirstDigits (digits : List Char) (top : Int) : Prop :=
  IsDigits digits ∧ (digits = [] ∧ top = 0 ∨ ∃ d ds, digits = d :: ds ∧ d ≠ '0')

/-- What an exponent is written as: a sign and digits. -/
theorem exponentText_chars (e : Int) : ∃ sign digits,
    (NumberLayout.exponentText e).toList = sign :: digits ∧ (sign = '+' ∨ sign = '-') ∧
      IsDigits digits ∧ digits ≠ [] := by
  refine ⟨if e < 0 then '-' else '+', if (decimalDigits e.natAbs).length < 2 then
    '0' :: decimalDigits e.natAbs else decimalDigits e.natAbs, ?_, ?_, ?_, ?_⟩
  · unfold NumberLayout.exponentText
    rw [String.toList_ofList]
  · split
    · right; rfl
    · left; rfl
  · have hdigits := isDigits_decimalDigits e.natAbs
    split
    · exact (isDigits_zeros 1).append hdigits
    · exact hdigits
  · have hne := decimalDigits_ne_nil e.natAbs
    split
    · exact List.cons_ne_nil _ _
    · exact hne

theorem isWhole_zero : IsWhole ['0'] := isWhole_decimalDigits 0

/-- One digit before the point, and an exponent. -/
theorem scientific_chars {d : Char} {rest : List Char} (h : IsDigits (d :: rest)) (hd : d ≠ '0')
    (e : Int) : ∃ t : NumberText, ((if rest.isEmpty = true then String.ofList [d]
      else String.ofList [d] ++ "." ++ String.ofList rest) ++ "e" ++
        NumberLayout.exponentText e).toList = t.chars 'e' ∧ t.exponent ≠ [] := by
  obtain ⟨sign, ds, hexp, hsign, hds, hne⟩ := exponentText_chars e
  unfold IsDigits at h
  rw [List.forall_mem_cons] at h
  have hlead : IsWhole [d] := by
    refine ⟨fun c hc => ?_, .inr ⟨d, [], rfl, hd⟩⟩
    rw [List.mem_singleton.1 hc]
    exact h.1
  have hsigns : [sign] = [] ∨ [sign] = ['+'] ∨ [sign] = ['-'] := by
    rcases hsign with hsign | hsign
    · right; left; rw [hsign]
    · right; right; rw [hsign]
  have hmark : "e".toList = ['e'] := rfl
  refine ⟨⟨[d], rest, [sign], ds, hlead, h.2, hsigns, hds⟩, ?_, hne⟩
  unfold NumberText.chars NumberText.fractionChars NumberText.exponentChars
  rw [String.toList_append, String.toList_append, hexp, hmark]
  by_cases hrest : rest = []
  · simp [hrest, hne]
  · have hfalse : rest.isEmpty = false := by simp [hrest]
    simp [hrest, hne, hfalse]

/-- **Laid out digits** have the shape of a number, with a fraction or an exponent if whole
numbers end in `.0`. -/
theorem NumberLayout.write_chars {layout : NumberLayout} {digits : List Char} {top : Int}
    (h : IsFirstDigits digits top) (hlow : layout.lowest ≤ 0) (hhigh : 0 < layout.highest)
    (hsuffix : layout.wholeSuffix = "" ∨ layout.wholeSuffix = ".0") :
    ∃ t : NumberText, (layout.write digits top).toList = t.chars 'e' ∧
      (layout.wholeSuffix = ".0" → t.fraction ≠ [] ∨ t.exponent ≠ []) := by
  obtain ⟨hdigits, hshape⟩ := h
  have hpoint : ".".toList = ['.'] := rfl
  unfold write
  by_cases hpos : layout.lowest ≤ top ∧ top < layout.highest
  · rw [if_pos hpos]
    by_cases hneg : top < 0
    · -- zeros stand between the point and the first digit
      have hne : List.replicate (-top - 1).toNat '0' ++ digits ≠ [] := by
        obtain ⟨-, rfl⟩ | ⟨d, ds, rfl, -⟩ := hshape
        · exact absurd hneg (by decide)
        · simp
      have hall := (isDigits_zeros (-top - 1).toNat).append hdigits
      refine ⟨.ofFraction ['0'] _ isWhole_zero hall, ?_, fun _ => .inl hne⟩
      rw [if_pos hneg, NumberText.chars_ofFraction 'e' isWhole_zero hall hne]
      simp only [String.toList_append, String.toList_ofList]
      rfl
    · rw [if_neg hneg]
      dsimp only
      by_cases hlen : digits.length ≤ (top + 1).toNat
      · -- a whole number
        have hwhole : IsWhole (digits ++ List.replicate ((top + 1).toNat - digits.length) '0') := by
          obtain ⟨rfl, rfl⟩ | ⟨d, ds, rfl, hd⟩ := hshape
          · exact isWhole_zero
          · exact ⟨hdigits.append (isDigits_zeros _), .inr ⟨d, _, List.cons_append, hd⟩⟩
        rw [if_pos hlen, String.toList_append, String.toList_ofList]
        obtain hnone | hzero := hsuffix
        · refine ⟨.ofWhole _ hwhole, ?_, fun hs => ?_⟩
          · rw [hnone, NumberText.chars_ofWhole]
            exact List.append_nil _
          · rw [hnone] at hs
            exact absurd hs (by decide)
        · have hone : IsDigits ['0'] := isDigits_zeros 1
          have hne : ['0'] ≠ [] := List.cons_ne_nil _ _
          refine ⟨.ofFraction _ ['0'] hwhole hone, ?_, fun _ => .inl hne⟩
          rw [hzero, NumberText.chars_ofFraction 'e' hwhole hone hne]
          rfl
      · -- the point stands between digits
        have hall : IsWhole digits := by
          obtain ⟨rfl, -⟩ | hfirst := hshape
          · exact absurd (Nat.zero_le _) hlen
          · exact ⟨hdigits, .inr hfirst⟩
        obtain ⟨hwhole, hrest, hdrop⟩ := hall.split (show 0 < (top + 1).toNat by omega)
          (Nat.lt_of_not_le hlen)
        refine ⟨.ofFraction _ _ hwhole hrest, ?_, fun _ => .inl hdrop⟩
        rw [if_neg hlen, NumberText.chars_ofFraction 'e' hwhole hrest hdrop]
        simp only [String.toList_append, String.toList_ofList, hpoint, List.append_assoc,
          List.cons_append, List.nil_append]
  · rw [if_neg hpos]
    obtain ⟨rfl, rfl⟩ | ⟨d, rest, rfl, hd⟩ := hshape
    · exact absurd ⟨hlow, hhigh⟩ hpos
    · obtain ⟨t, ht, hexponent⟩ := scientific_chars hdigits hd top
      exact ⟨t, ht, fun _ => .inr hexponent⟩

/-! ### The digits of doubles -/

/-- A positive number has digits besides the zeros at its end. -/
theorem isFirstDigits_trimZeros {n : Nat} {top : Int} (h : 0 < n) :
    IsFirstDigits (trimZeros (decimalDigits n)) top := by
  obtain ⟨d, ds, hds, hd⟩ := head_decimalDigits n h
  have hall := isDigits_decimalDigits n
  rw [hds] at hall ⊢
  unfold trimZeros
  rw [List.reverse_cons]
  -- the first digit is not dropped
  have hkept : ∃ front, ((ds.reverse ++ [d]).dropWhile (· == '0')).reverse = d :: front ∧
      ∀ c ∈ front, c ∈ ds := by
    have hlast : (d == '0') = false := by simp [hd]
    by_cases hzeros : ∀ c ∈ ds.reverse, (c == '0') = true
    · rw [List.dropWhile_append_of_pos hzeros]
      refine ⟨[], by simp [hlast], by simp⟩
    · have hsome : ds.reverse.dropWhile (· == '0') ≠ [] := by
        intro hnil
        rw [List.dropWhile_eq_nil_iff] at hnil
        exact hzeros hnil
      rw [List.dropWhile_append, if_neg (by simpa using hsome), List.reverse_append]
      refine ⟨(ds.reverse.dropWhile (· == '0')).reverse, rfl, fun c hc => ?_⟩
      rw [List.mem_reverse] at hc
      exact List.mem_reverse.1 ((List.dropWhile_sublist _).mem hc)
  obtain ⟨front, hfront, hmem⟩ := hkept
  rw [hfront]
  refine ⟨fun c hc => hall c ?_, .inr ⟨d, front, rfl, hd⟩⟩
  rcases List.mem_cons.1 hc with rfl | hc
  · exact List.mem_cons_self
  · exact List.mem_cons_of_mem _ (hmem c hc)

namespace Double

/-- Of two numbers, the first that is positive and passes its test. -/
theorem pos_of_first {a b n : Nat} {testA testB : Bool}
    (h : (if decide (0 < a) && testA then some a
      else if decide (0 < b) && testB then some b else none) = some n) : 0 < n := by
  split at h
  · rename_i hfirst
    rw [Bool.and_eq_true, decide_eq_true_eq] at hfirst
    rw [← Option.some.inj h]
    exact hfirst.1
  · split at h
    · rename_i hsecond
      rw [Bool.and_eq_true, decide_eq_true_eq] at hsecond
      rw [← Option.some.inj h]
      exact hsecond.1
    · cases h

theorem searchDigits_point {d : Double} {top : Int} {fuel n : Nat} :
    d.searchDigits top fuel n = (0, 0) ∨ 0 < (d.searchDigits top fuel n).1 := by
  induction fuel generalizing n with
  | zero => left; rfl
  | succ fuel ih =>
    unfold searchDigits
    dsimp only
    split
    · rename_i point hpoint
      right
      exact pos_of_first hpoint
    · exact ih

/-- The fewest digits of a number are its first ones. -/
theorem isFirstDigits_shortest (d : Double) :
    IsFirstDigits d.shortestDigits.1 d.shortestDigits.2 := by
  have hsearch := @searchDigits_point d (log10Quotient d.ratio.1 d.ratio.2) 17 1
  unfold shortestDigits
  dsimp only
  rcases hsearch with hnone | hpoint
  · -- no grid has a point: the digits of zero
    rw [hnone]
    have hnil : trimZeros (decimalDigits 0) = [] := by decide
    have htop : (0 : Int) + ((decimalDigits 0).length : Int) - 1 = 0 := by decide
    dsimp only
    rw [hnil, htop]
    refine ⟨fun c hc => ?_, .inl ⟨rfl, rfl⟩⟩
    cases hc
  · exact isFirstDigits_trimZeros hpoint

/-- A power of ten is at most a number that has more digits than it has zeros. -/
theorem pow_le_of_length {n k : Nat} (hn : 0 < n) (h : (decimalDigits n).length = k + 1) :
    10 ^ k ≤ n := by
  rcases Nat.eq_zero_or_pos k with hk | hk
  · rw [hk]
    exact hn
  · rcases Nat.lt_or_ge n (10 ^ k) with hlt | hge
    · have hle := (Nat.length_toDigits_le_iff (b := 10) (by decide) hk).2 hlt
      unfold decimalDigits at h
      omega
    · exact hge

/-- A power of ten that a quotient is not below. -/
theorem pow_log10Quotient_le {num den : Nat} (hnum : 0 < num) (hden : 0 < den) :
    den * 10 ^ (log10Quotient num den).toNat ≤ num * 10 ^ (-log10Quotient num den).toNat := by
  unfold log10Quotient
  by_cases hle : den ≤ num
  · have hlength := List.length_pos_iff.2 (decimalDigits_ne_nil (num / den))
    obtain ⟨k, hk⟩ : ∃ k, (decimalDigits (num / den)).length = k + 1 :=
      ⟨(decimalDigits (num / den)).length - 1, by omega⟩
    have hdigits := pow_le_of_length (Nat.div_pos hle hden) hk
    have hpow : den * 10 ^ k ≤ num :=
      calc den * 10 ^ k ≤ den * (num / den) := Nat.mul_le_mul_left _ hdigits
        _ ≤ num := Nat.mul_div_le num den
    have hpos : (((k + 1 : Nat) : Int) - 1).toNat = k := by omega
    have hneg : (-(((k + 1 : Nat) : Int) - 1)).toNat = 0 := by omega
    rw [if_pos hle, hk, hpos, hneg]
    omega
  · have hlength := List.length_pos_iff.2 (decimalDigits_ne_nil ((den - 1) / num))
    obtain ⟨k, hk⟩ : ∃ k, (decimalDigits ((den - 1) / num)).length = k := ⟨_, rfl⟩
    rw [hk] at hlength
    have hlt : (den - 1) / num < 10 ^ k :=
      (Nat.length_toDigits_le_iff (b := 10) (by decide) hlength).1 (Nat.le_of_eq hk)
    have hmul : den - 1 < 10 ^ k * num := (Nat.div_lt_iff_lt_mul hnum).1 hlt
    have hpos : (-(k : Int)).toNat = 0 := by omega
    have hneg : (- -(k : Int)).toNat = k := by omega
    rw [if_neg hle, hk, hpos, hneg, Nat.mul_comm num]
    omega

theorem roundQuotient_pos {num den : Nat} (hden : 0 < den) (hle : den ≤ num) :
    0 < roundQuotient num den := by
  have hq : 0 < num / den := Nat.div_pos hle hden
  unfold roundQuotient
  dsimp only
  split
  · exact hq
  · split
    · omega
    · omega

/-- The rounded digits of a number that is not zero are its first ones. -/
theorem isFirstDigits_rounded {d : Double} (hnum : 0 < d.ratio.1) (hden : 0 < d.ratio.2) {n : Nat}
    (hn : 0 < n) : IsFirstDigits (d.roundedDigits n).1 (d.roundedDigits n).2 := by
  obtain ⟨e, he⟩ : ∃ e, e = log10Quotient d.ratio.1 d.ratio.2 := ⟨_, rfl⟩
  have hpow := pow_log10Quotient_le hnum hden
  unfold roundedDigits
  dsimp only
  rw [← he] at hpow ⊢
  apply isFirstDigits_trimZeros
  apply roundQuotient_pos
  · exact Nat.mul_pos hden (Nat.pow_pos (by decide))
  · -- the grid is not coarser than the first digit
    obtain ⟨s, hs⟩ : ∃ s, s = e - (n : Int) + 1 := ⟨_, rfl⟩
    rw [← hs]
    by_cases hsign : 0 ≤ e
    · have hneg : (-e).toNat = 0 := by omega
      rw [hneg, Nat.pow_zero, Nat.mul_one] at hpow
      calc d.ratio.2 * 10 ^ s.toNat ≤ d.ratio.2 * 10 ^ e.toNat :=
            Nat.mul_le_mul_left _ (Nat.pow_le_pow_right (by decide) (by omega))
        _ ≤ d.ratio.1 := hpow
        _ ≤ d.ratio.1 * 10 ^ (-s).toNat := Nat.le_mul_of_pos_right _ (Nat.pow_pos (by decide))
    · have hpos : e.toNat = 0 := by omega
      have hzero : s.toNat = 0 := by omega
      rw [hpos, Nat.pow_zero, Nat.mul_one] at hpow
      calc d.ratio.2 * 10 ^ s.toNat = d.ratio.2 := by rw [hzero, Nat.pow_zero, Nat.mul_one]
        _ ≤ d.ratio.1 * 10 ^ (-e).toNat := hpow
        _ ≤ d.ratio.1 * 10 ^ (-s).toNat :=
            Nat.mul_le_mul_left _ (Nat.pow_le_pow_right (by decide) (by omega))

/-- A number that is no zero has a magnitude. -/
theorem ratio_pos {d : Double} (h : d.isZero = false) : 0 < d.ratio.1 ∧ 0 < d.ratio.2 := by
  have hmagnitude : 0 < d.magnitude.1 := by
    unfold isZero at h
    unfold magnitude
    split
    · rename_i hsmall
      rw [hsmall] at h
      simp only [BEq.rfl, Bool.true_and, beq_eq_false_iff_ne] at h
      exact Nat.pos_of_ne_zero h
    · dsimp only
      omega
  unfold ratio
  dsimp only
  exact ⟨Nat.mul_pos hmagnitude (Nat.pow_pos (by decide)), Nat.pow_pos (by decide)⟩

/-- A finite double is no NaN and not infinite. -/
theorem not_special {d : Double} (h : d.isFinite = true) :
    d.isNaN = false ∧ d.isInfinite = false := by
  have hfield : (d.exponentField == 2047) = false := by
    unfold isFinite at h
    rw [bne_iff_ne] at h
    exact beq_eq_false_iff_ne.2 h
  constructor
  · unfold isNaN
    rw [hfield, Bool.false_and]
  · unfold isInfinite
    rw [hfield, Bool.false_and]

/-- The characters of a sign. -/
def signChars (negative : Bool) : List Char := if negative then ['-'] else []

theorem toList_sign (negative : Bool) :
    (if negative then "-" else "").toList = signChars negative := by
  cases negative
  · rfl
  · rfl

/-- **The shortest text** of a finite number has the shape of a number that is no integer. -/
theorem text_chars {d : Double} (hnan : d.isNaN = false) (hinf : d.isInfinite = false) :
    ∃ t : NumberText, d.text.toList = signChars d.isNegative ++ t.chars 'e' ∧
      (t.fraction ≠ [] ∨ t.exponent ≠ []) := by
  unfold text
  simp only [hnan, hinf, Bool.false_eq_true, if_false]
  by_cases hzero : d.isZero = true
  · have hone : IsDigits ['0'] := isDigits_zeros 1
    have hne : ['0'] ≠ [] := List.cons_ne_nil _ _
    refine ⟨.ofFraction ['0'] ['0'] isWhole_zero hone, ?_, .inl hne⟩
    rw [if_pos hzero, String.toList_append, toList_sign,
      NumberText.chars_ofFraction 'e' isWhole_zero hone hne]
    rfl
  · obtain ⟨t, ht, hparts⟩ := NumberLayout.write_chars (isFirstDigits_shortest d)
      (show shortestLayout.lowest ≤ 0 by decide) (by decide) (.inr rfl)
    refine ⟨t, ?_, hparts rfl⟩
    rw [if_neg hzero, String.toList_append, toList_sign, ht]

/-- **Significant digits** of a number that is no zero have the shape of a number. -/
theorem general_chars {d : Double} (hzero : d.isZero = false) {n : Nat} (hn : 0 < n) :
    ∃ t : NumberText, (d.general n).toList = signChars d.isNegative ++ t.chars 'e' := by
  obtain ⟨hnum, hden⟩ := ratio_pos hzero
  obtain ⟨t, ht, -⟩ := NumberLayout.write_chars (isFirstDigits_rounded hnum hden hn)
    (show (⟨-4, n, ""⟩ : NumberLayout).lowest ≤ 0 from (show (-4 : Int) ≤ 0 by decide))
    (show (0 : Int) < n by omega) (.inl rfl)
  refine ⟨t, ?_⟩
  unfold general
  simp only [hzero, Bool.false_eq_true, if_false]
  rw [String.toList_append, toList_sign, ht]

end Double

/-! ### The digits of decimals -/

namespace Decimal

/-- Digits with a point not behind their end have a whole number in front of it. -/
theorem pointed_chars {digits : List Char} (h : IsWhole digits) {point : Int}
    (hpoint : point ≤ digits.length) : ∃ whole fraction, IsWhole whole ∧ IsDigits fraction ∧
      (if point ≤ 0 then "0." ++ String.ofList (List.replicate (-point).toNat '0' ++ digits)
        else if (digits.length : Int) ≤ point then
          String.ofList (digits ++ List.replicate (point.toNat - digits.length) '0')
        else String.ofList (digits.take point.toNat) ++ "." ++
          String.ofList (digits.drop point.toNat)).toList =
        whole ++ (if fraction = [] then [] else '.' :: fraction) := by
  by_cases hlow : point ≤ 0
  · have hne : List.replicate (-point).toNat '0' ++ digits ≠ [] := by simp [h.ne_nil]
    refine ⟨['0'], _, isWhole_zero, (isDigits_zeros (-point).toNat).append h.1, ?_⟩
    rw [if_pos hlow, if_neg hne]
    simp only [String.toList_append, String.toList_ofList]
    rfl
  · rw [if_neg hlow]
    by_cases hall : (digits.length : Int) ≤ point
    · have hnone : point.toNat - digits.length = 0 := by omega
      refine ⟨digits, [], h, List.forall_mem_nil _, ?_⟩
      rw [if_pos hall, hnone, String.toList_ofList]
      simp
    · obtain ⟨hwhole, hrest, hdrop⟩ := h.split (show 0 < point.toNat by omega)
        (show point.toNat < digits.length by omega)
      refine ⟨_, _, hwhole, hrest, ?_⟩
      rw [if_neg hall, if_neg hdrop]
      simp only [String.toList_append, String.toList_ofList, List.append_assoc]
      rfl

/-- **A finite decimal** has the shape of a number. -/
theorem text_chars (negative : Bool) (c : Nat) (e : Int) :
    ∃ t : NumberText, (text (.finite negative c e)).toList =
      Double.signChars negative ++ t.chars 'E' := by
  obtain ⟨left, hleft⟩ : ∃ left : Int, ((decimalDigits c).length : Int) + e = left := ⟨_, rfl⟩
  obtain ⟨point, hpoint⟩ : ∃ point : Int, (if e ≤ 0 ∧ -6 < left then left else 1) = point :=
    ⟨_, rfl⟩
  -- no zero is added behind the digits, as the exponent is not positive then
  have hbehind : point ≤ (decimalDigits c).length := by
    have hlength := List.length_pos_iff.2 (decimalDigits_ne_nil c)
    split at hpoint <;> omega
  obtain ⟨whole, fraction, hwhole, hfraction, hchars⟩ :=
    pointed_chars (isWhole_decimalDigits c) hbehind
  have htext : (text (.finite negative c e)).toList =
      Double.signChars negative ++ (whole ++ ((if fraction = [] then [] else '.' :: fraction) ++
        (if left = point then ""
          else "E" ++ (if left - point < 0 then "-" else "+") ++
            String.ofList (decimalDigits (left - point).natAbs)).toList)) := by
    unfold text
    simp only [hleft, hpoint]
    rw [String.toList_append, String.toList_append, Double.toList_sign, hchars]
    simp only [List.append_assoc]
  by_cases htop : left = point
  · refine ⟨.ofFraction whole fraction hwhole hfraction, ?_⟩
    rw [htext, if_pos htop]
    rfl
  · have hne := decimalDigits_ne_nil (left - point).natAbs
    have hsign : (if left - point < 0 then "-" else "+").toList =
        [if left - point < 0 then '-' else '+'] := by
      split <;> rfl
    have hsigns : [if left - point < 0 then '-' else '+'] = [] ∨
        [if left - point < 0 then '-' else '+'] = ['+'] ∨
        [if left - point < 0 then '-' else '+'] = ['-'] := by
      split
      · right; right; rfl
      · right; left; rfl
    have hmark : "E".toList = ['E'] := rfl
    refine ⟨⟨whole, fraction, _, _, hwhole, hfraction, hsigns,
      isDigits_decimalDigits (left - point).natAbs⟩, ?_⟩
    rw [htext, if_neg htop]
    simp only [NumberText.chars, NumberText.fractionChars, NumberText.exponentChars, if_neg hne,
      String.toList_append, String.toList_ofList, hsign, hmark, List.cons_append, List.nil_append]

end Decimal

end ServiceClient
