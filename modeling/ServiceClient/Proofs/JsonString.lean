import Mathlib.Data.List.Chain
import Mathlib.Tactic.Set
import ServiceClient.Json.Print
import ServiceClient.Json.Read
import ServiceClient.Proofs.Outcome

/-!
# Strings of JSON read back

* `readUnit?_hexPadded`: four hexadecimal digits.
* `readUnicode_unit`, `readUnicode_pair`: a code unit, and a pair of surrogates.
* `isChain_of_readString`: no surrogates of a text that is read make a pair.
* `readString_points`: quoted code points are read whatever follows them, as they are but for the
  surrogates among them that make a pair.
-/

namespace ServiceClient

/-- Two code points that are no pair of surrogates. -/
def CodePoint.Apart (p q : CodePoint) : Prop := p.isHigh = true → q.isLow = false

/-- A text in which no high surrogate stands in front of a low one. The escapes of the two in a row
would be those of one character. -/
def Text.IsJoined (t : Text) : Prop := t.points.IsChain CodePoint.Apart

/-- A string has no surrogates at all. -/
theorem Text.isJoined_ofString (s : String) : IsJoined s :=
  (List.isChain_map CodePoint.char).2
    (List.isChain_iff_getElem.2 fun _ _ hhigh => Bool.noConfusion hhigh)

namespace Json

theorem isHighSurrogate_iff {n : Nat} : isHighSurrogate n = true ↔ 0xD800 ≤ n ∧ n < 0xDC00 := by
  rw [isHighSurrogate, Bool.and_eq_true, decide_eq_true_eq, decide_eq_true_eq]

theorem isLowSurrogate_iff {n : Nat} : isLowSurrogate n = true ↔ 0xDC00 ≤ n ∧ n < 0xE000 := by
  rw [isLowSurrogate, Bool.and_eq_true, decide_eq_true_eq, decide_eq_true_eq]

theorem hexValue?_digitChar : ∀ n < 16, hexValue? (Nat.digitChar n) = some n := by decide

/-- Four digits are enough for a code unit. -/
theorem hexPadded_four {n : Nat} (h : n < 0x10000) :
    hexPadded 4 n = [Nat.digitChar (n / 4096), Nat.digitChar (n / 256 % 16),
      Nat.digitChar (n / 16 % 16), Nat.digitChar (n % 16)] := by
  have hb : 1 < 16 := by decide
  -- a number of fewer digits is filled up with zeros
  unfold hexPadded
  by_cases h1 : n < 16
  · rw [Nat.toDigits_of_lt_base h1, show n / 4096 = 0 by omega, show n / 256 % 16 = 0 by omega,
      show n / 16 % 16 = 0 by omega, show n % 16 = n by omega]; rfl
  rw [Nat.toDigits_of_base_le hb (by omega)]
  by_cases h2 : n < 256
  · rw [Nat.toDigits_of_lt_base (show n / 16 < 16 by omega), show n / 4096 = 0 by omega,
      show n / 256 % 16 = 0 by omega, show n / 16 % 16 = n / 16 by omega]; rfl
  rw [Nat.toDigits_of_base_le hb (show 16 ≤ n / 16 by omega)]
  by_cases h3 : n < 4096
  · rw [Nat.toDigits_of_lt_base (show n / 16 / 16 < 16 by omega), show n / 4096 = 0 by omega,
      show n / 256 % 16 = n / 16 / 16 by omega]; rfl
  rw [Nat.toDigits_of_base_le hb (show 16 ≤ n / 16 / 16 by omega),
    Nat.toDigits_of_lt_base (show n / 16 / 16 / 16 < 16 by omega),
    show n / 4096 = n / 16 / 16 / 16 by omega, show n / 256 % 16 = n / 16 / 16 % 16 by omega]; rfl

/-- Four digits are read as their number unless the text ends behind them. -/
theorem readUnit?_hexPadded {n : Nat} (h : n < 0x10000) (e : Char) (rest : List Char) :
    readUnit? (hexPadded 4 n ++ e :: rest) = some (n, e :: rest) := by
  have hd := hexValue?_digitChar
  rw [hexPadded_four h]
  simp only [List.cons_append, List.nil_append, readUnit?, hd _ (show n / 4096 < 16 by omega),
    hd _ (show n / 256 % 16 < 16 by omega), hd _ (show n / 16 % 16 < 16 by omega),
    hd _ (show n % 16 < 16 by omega)]
  rw [show ((n / 4096 * 16 + n / 256 % 16) * 16 + n / 16 % 16) * 16 + n % 16 = n by omega]

/-- A code unit that starts no pair is a code point. -/
theorem readUnicode_unit {n : Nat} (h : n < 0x10000) (hs : isHighSurrogate n = false)
    (mark : List Char) (e : Char) (rest : List Char) :
    readUnicode mark (hexPadded 4 n ++ e :: rest) = .ok (.ofNat n, e :: rest) := by
  unfold readUnicode
  rw [readUnit?_hexPadded h]
  simp only [hs, Bool.false_eq_true, if_false]

/-- Two escapes of a surrogate pair are one code point. -/
theorem readUnicode_pair {n m : Nat} (hn : isHighSurrogate n = true) (hm : isLowSurrogate m = true)
    (mark : List Char) (e : Char) (rest : List Char) :
    readUnicode mark (hexPadded 4 n ++ unitEscape m ++ e :: rest) =
      .ok (.ofNat (joinSurrogates n m), e :: rest) := by
  have hn' : n < 0x10000 := by
    have := isHighSurrogate_iff.1 hn
    omega
  have hm' : m < 0x10000 := by
    have := isLowSurrogate_iff.1 hm
    omega
  have hlen : ¬ (hexPadded 4 m ++ e :: rest).length ≤ 4 := by
    rw [hexPadded_four hm']; simp
  unfold readUnicode unitEscape
  rw [List.append_assoc, List.cons_append, List.cons_append, readUnit?_hexPadded hn']
  simp only [hn, if_true, hlen, if_false]
  rw [readUnit?_hexPadded hm']
  simp only [hm, if_true]

/-- What follows is not the escape of a low surrogate: behind a high one, it makes no pair. -/
def Unpaired (s : List Char) : Prop :=
  ∀ tail, s = '\\' :: 'u' :: tail → ∃ m after, readUnit? tail = some (m, after) ∧
    isLowSurrogate m = false

/-- A high surrogate that starts no pair is a code point. -/
theorem readUnicode_high {n : Nat} (hn : isHighSurrogate n = true) (mark : List Char) {e : Char}
    {rest : List Char} (h : Unpaired (e :: rest)) :
    readUnicode mark (hexPadded 4 n ++ e :: rest) = .ok (.ofNat n, e :: rest) := by
  have hn' : n < 0x10000 := by
    have := isHighSurrogate_iff.1 hn
    omega
  unfold readUnicode
  rw [readUnit?_hexPadded hn']
  simp only [hn, if_true]
  split
  · next tail heq =>
    obtain ⟨m, after, hunit, hm⟩ := h tail heq
    split
    · rfl
    · simp only [hunit, hm, Bool.false_eq_true, if_false]
  · rfl

/-- A code point above the basic plane is the one that its pair of surrogates joins to. -/
theorem joinSurrogates_split {n : Nat} (h : n < 0x100000) :
    isHighSurrogate (0xD800 + n / 1024) = true ∧ isLowSurrogate (0xDC00 + n % 1024) = true ∧
      joinSurrogates (0xD800 + n / 1024) (0xDC00 + n % 1024) = 0x10000 + n := by
  rw [isHighSurrogate_iff, isLowSurrogate_iff]
  unfold joinSurrogates
  omega

/-- A code point is the one of its number. -/
theorem ofNat_toNat (p : CodePoint) : CodePoint.ofNat p.toNat = p := by
  cases p with
  | char c =>
    have hv : c.toNat < 0xD800 ∨ 0xDFFF < c.toNat ∧ c.toNat < 0x110000 := c.valid
    have hno : ¬ (0xD800 ≤ c.toNat ∧ c.toNat < 0xE000) := by omega
    rw [CodePoint.toNat_char, CodePoint.ofNat, dif_neg hno, Char.ofNat_toNat]
  | surrogate n =>
    have hn : 0xD800 ≤ 0xD800 + n.val ∧ 0xD800 + n.val < 0xE000 := by omega
    show CodePoint.ofNat (0xD800 + n.val) = _
    rw [CodePoint.ofNat, dif_pos hn]
    exact congrArg CodePoint.surrogate (Fin.ext (Nat.add_sub_cancel_left ..))

theorem isHigh_ofNat (n : Nat) : (CodePoint.ofNat n).isHigh = isHighSurrogate n := by
  rw [Bool.eq_iff_iff, isHighSurrogate_iff]
  unfold CodePoint.ofNat
  split
  · show decide (n - 0xD800 < 1024) = true ↔ _
    rw [decide_eq_true_eq]
    omega
  · exact iff_of_false Bool.noConfusion (by omega)

theorem isLow_ofNat (n : Nat) : (CodePoint.ofNat n).isLow = isLowSurrogate n := by
  rw [Bool.eq_iff_iff, isLowSurrogate_iff]
  unfold CodePoint.ofNat
  split
  · show decide (1024 ≤ n - 0xD800) = true ↔ _
    rw [decide_eq_true_eq]
    omega
  · exact iff_of_false Bool.noConfusion (by omega)

theorem isHighSurrogate_toNat (p : CodePoint) : isHighSurrogate p.toNat = p.isHigh := by
  rw [← isHigh_ofNat, ofNat_toNat]

theorem isLowSurrogate_toNat (p : CodePoint) : isLowSurrogate p.toNat = p.isLow := by
  rw [← isLow_ofNat, ofNat_toNat]

theorem toNat_surrogate_lt (n : Fin 2048) : CodePoint.toNat (.surrogate n) < 0x10000 := by
  show 0xD800 + n.val < 0x10000
  omega

/-- Behind a code point that is no low surrogate, a high one makes no pair. -/
theorem unpaired_escapePoint {p : CodePoint} (hp : p.isLow = false) (e : Char) (rest : List Char) :
    Unpaired (escapePoint p ++ e :: rest) := by
  -- only the escape of a code unit starts with a `u`
  have hunit : ∀ n, n < 0x10000 → isLowSurrogate n = false → ∀ (d : Char) (after : List Char),
      Unpaired (unitEscape n ++ d :: after) := by
    rintro n hn hlow d after tail htail
    cases htail
    exact ⟨n, _, readUnit?_hexPadded hn d after, hlow⟩
  have hletter : ∀ (c : Char) (after : List Char), c ≠ 'u' → Unpaired ('\\' :: c :: after) := by
    rintro c after hc tail htail
    cases htail
    exact absurd rfl hc
  cases p with
  | surrogate n =>
    exact hunit _ (toNat_surrogate_lt n) (by rw [isLowSurrogate_toNat, hp]) e rest
  | char c =>
    rw [escapePoint]
    unfold escape
    by_cases h1 : c = '"' ∨ c = '\\'
    · rw [if_pos h1]
      exact hletter c _ (by rcases h1 with rfl | rfl <;> decide)
    rw [if_neg h1]
    rw [not_or] at h1
    split
    · intro tail htail
      exact absurd (List.cons.inj htail).1 h1.2
    split
    · exact hletter _ _ (by decide)
    split
    · exact hletter _ _ (by decide)
    split
    · exact hletter _ _ (by decide)
    split
    · exact hletter _ _ (by decide)
    split
    · exact hletter _ _ (by decide)
    split
    · next h => exact hunit _ h (isLowSurrogate_toNat (.char c)) e rest
    have hv := (CodePoint.char c).toNat_lt
    rw [CodePoint.toNat_char] at hv
    · rw [List.append_assoc]
      refine hunit _ (by omega) ?_ '\\' _
      simp only [isLowSurrogate, Bool.and_eq_false_iff, decide_eq_false_iff_not]
      omega

/-- An escape of one letter is read as its character. -/
theorem readString_simple {e c : Char} (hu : e ≠ 'u') (he : simpleEscape? e = some c)
    {raw : Surrogates} {start tail after : List Char} {ds : List CodePoint} {fuel : Nat}
    (h : readString raw start fuel tail = .ok (ds, after)) :
    readString raw start (fuel + 1) ('\\' :: e :: tail) = .ok (.char c :: ds, after) := by
  unfold readString
  rw [if_neg (by decide), if_pos rfl]
  split
  · simp_all
  · simp_all
  · rename_i x y _ heq
    obtain ⟨rfl, rfl⟩ := List.cons.inj heq
    rw [he]; simp only [h]; rfl

/-- An escape of code units is read as its code point. -/
theorem readString_unicode {p : CodePoint} (esc : List Char) {raw : Surrogates}
    {start tail after : List Char} {ds : List CodePoint} {fuel : Nat}
    (hp : ∀ mark, readUnicode mark (esc ++ tail) = .ok (p, tail))
    (h : readString raw start fuel tail = .ok (ds, after)) :
    readString raw start (fuel + 1) ('\\' :: 'u' :: (esc ++ tail)) = .ok (p :: ds, after) := by
  unfold readString
  rw [if_neg (by decide), if_pos rfl]
  simp only [hp]
  show (readString raw start fuel tail >>= _) = _
  rw [h]; rfl

/-- **The escape of a character is read as the character.** -/
theorem readString_escape (c : Char) {start tail after : List Char} {ds : List CodePoint}
    {fuel : Nat} (h : readString .empty start fuel tail = .ok (ds, after)) :
    readString .empty start (fuel + 1) (escape c ++ tail) = .ok (.char c :: ds, after) := by
  have hof : ∀ n, n = c.toNat → Char.ofNat n = c := fun n hn => hn ▸ Char.ofNat_toNat c
  obtain ⟨e, rest, rfl⟩ : ∃ e rest, tail = e :: rest := by
    cases tail with
    | nil => cases fuel <;> cases h
    | cons e rest => exact ⟨e, rest, rfl⟩
  -- one case for each branch of `escape`
  unfold escape
  by_cases h1 : c = '"' ∨ c = '\\'
  · rw [if_pos h1]
    refine readString_simple ?_ ?_ h
    · rcases h1 with rfl | rfl <;> decide
    · unfold simpleEscape?; rw [if_pos (h1.imp_right .inl)]
  rw [if_neg h1]
  rw [not_or] at h1
  by_cases h2 : 32 ≤ c.toNat ∧ c.toNat < 127
  · rw [if_pos h2, List.singleton_append]
    unfold readString
    rw [if_neg h1.1, if_neg h1.2, if_neg (by omega), h, pointAt_empty]; rfl
  rw [if_neg h2]
  by_cases h3 : c = '\n'
  · rw [if_pos h3, h3]; exact readString_simple (by decide) rfl h
  rw [if_neg h3]
  by_cases h4 : c = '\r'
  · rw [if_pos h4, h4]; exact readString_simple (by decide) rfl h
  rw [if_neg h4]
  by_cases h5 : c = '\t'
  · rw [if_pos h5, h5]; exact readString_simple (by decide) rfl h
  rw [if_neg h5]
  by_cases h6 : c.toNat = 8
  · rw [if_pos h6, ← hof 8 h6.symm]; exact readString_simple (by decide) rfl h
  rw [if_neg h6]
  by_cases h7 : c.toNat = 12
  · rw [if_pos h7, ← hof 12 h7.symm]; exact readString_simple (by decide) rfl h
  rw [if_neg h7]
  have hv : c.toNat < 0xD800 ∨ 0xDFFF < c.toNat ∧ c.toNat < 0x110000 := c.valid
  have hpoint : CodePoint.ofNat c.toNat = .char c := ofNat_toNat (.char c)
  -- what is left is escaped by its code units, one or two
  by_cases h8 : c.toNat < 0x10000
  · have hs : isHighSurrogate c.toNat = false := isHighSurrogate_toNat (.char c)
    rw [if_pos h8]
    refine readString_unicode (hexPadded 4 c.toNat) (fun mark => ?_) h
    rw [readUnicode_unit h8 hs, hpoint]
  · rw [if_neg h8]
    obtain ⟨n, hn⟩ : ∃ n, n = c.toNat - 0x10000 := ⟨_, rfl⟩
    rw [← hn]
    obtain ⟨hhigh, hlow, hjoin⟩ := joinSurrogates_split (n := n) (by omega)
    refine readString_unicode (hexPadded 4 _ ++ unitEscape _) (fun mark => ?_) h
    rw [readUnicode_pair hhigh hlow, hjoin, show 0x10000 + n = c.toNat by omega, hpoint]

/-- The escape of a surrogate is read as the surrogate, if what follows makes no pair. -/
theorem readString_surrogate {n : Fin 2048} {start tail after : List Char} {ds : List CodePoint}
    {fuel : Nat} (hpair : CodePoint.isHigh (.surrogate n) = true → Unpaired tail)
    (h : readString .empty start fuel tail = .ok (ds, after)) :
    readString .empty start (fuel + 1) (escapePoint (.surrogate n) ++ tail) =
      .ok (.surrogate n :: ds, after) := by
  obtain ⟨e, rest, rfl⟩ : ∃ e rest, tail = e :: rest := by
    cases tail with
    | nil => cases fuel <;> cases h
    | cons e rest => exact ⟨e, rest, rfl⟩
  have hpoint := ofNat_toNat (.surrogate n)
  refine readString_unicode (hexPadded 4 (CodePoint.toNat (.surrogate n))) (fun mark => ?_) h
  by_cases hhigh : CodePoint.isHigh (.surrogate n) = true
  · rw [readUnicode_high (by rw [isHighSurrogate_toNat, hhigh]) mark (hpair hhigh), hpoint]
  · rw [Bool.not_eq_true] at hhigh
    rw [readUnicode_unit (toNat_surrogate_lt n) (by rw [isHighSurrogate_toNat, hhigh]), hpoint]

/-- The code points that escapes are read as: a high surrogate and the low one behind it are one
character. -/
def joinPoints : List CodePoint → List CodePoint
  | p :: q :: rest =>
    if p.isHigh = true ∧ q.isLow = true then
      .ofNat (joinSurrogates p.toNat q.toNat) :: joinPoints rest
    else p :: joinPoints (q :: rest)
  | points => points

/-- Where no surrogates make a pair, all stay. -/
theorem joinPoints_of_isChain {points : List CodePoint} (h : points.IsChain CodePoint.Apart) :
    joinPoints points = points := by
  induction points with
  | nil => rw [joinPoints]; simp
  | cons p points ih =>
    rw [List.isChain_cons] at h
    cases points with
    | nil => rw [joinPoints]; simp
    | cons q rest =>
      have hno : ¬ (p.isHigh = true ∧ q.isLow = true) := fun hpair =>
        Bool.noConfusion ((h.1 q rfl hpair.1).symm.trans hpair.2)
      rw [joinPoints, if_neg hno, ih h.2]

end Json

/-- The text that the escapes of a text are read as. -/
def Text.joined (t : Text) : Text := ⟨Json.joinPoints t.points⟩

theorem Text.joined_of_isJoined {t : Text} (h : t.IsJoined) : t.joined = t :=
  Text.ext_points (Json.joinPoints_of_isChain h)

namespace Json

/-- The escapes of a pair of surrogates are read as one character. -/
theorem readString_pair {p q : CodePoint} (hp : p.isHigh = true) (hq : q.isLow = true)
    {start tail after : List Char} {ds : List CodePoint} {fuel : Nat}
    (h : readString .empty start fuel tail = .ok (ds, after)) :
    readString .empty start (fuel + 1) (escapePoint p ++ (escapePoint q ++ tail)) =
      .ok (.ofNat (joinSurrogates p.toNat q.toNat) :: ds, after) := by
  obtain ⟨e, rest, rfl⟩ : ∃ e rest, tail = e :: rest := by
    cases tail with
    | nil => cases fuel <;> cases h
    | cons e rest => exact ⟨e, rest, rfl⟩
  cases p with
  | char c => cases hp
  | surrogate n =>
    cases q with
    | char c => cases hq
    | surrogate m =>
      have hread := @readString_unicode _
        (hexPadded 4 (CodePoint.toNat (.surrogate n)) ++
          unitEscape (CodePoint.toNat (.surrogate m))) .empty start _ _ _ _
        (fun mark => readUnicode_pair (by rw [isHighSurrogate_toNat, hp])
          (by rw [isLowSurrogate_toNat, hq]) mark e rest) h
      rw [List.append_assoc] at hread
      exact hread

/-- A code point is read on its own unless it makes a pair with the next one. -/
theorem readString_point {p : CodePoint} {points : List CodePoint} {start after rest : List Char}
    {ds : List CodePoint} {fuel : Nat}
    (hpair : ∀ q ∈ points.head?, p.isHigh = true → q.isLow = false)
    (h : readString .empty start fuel (points.flatMap escapePoint ++ '"' :: rest) =
      .ok (ds, after)) :
    readString .empty start (fuel + 1)
      (escapePoint p ++ (points.flatMap escapePoint ++ '"' :: rest)) = .ok (p :: ds, after) := by
  cases p with
  | char c => exact readString_escape c h
  | surrogate n =>
    refine readString_surrogate (fun hhigh => ?_) h
    -- what follows is the end of the string or the next code point
    cases points with
    | nil =>
      rintro tail htail
      cases htail
    | cons q points =>
      obtain ⟨e, more, hmore⟩ :
          ∃ e more, points.flatMap escapePoint ++ '"' :: rest = e :: more :=
        List.exists_cons_of_ne_nil (by simp)
      rw [List.flatMap_cons, List.append_assoc, hmore]
      exact unpaired_escapePoint (hpair q rfl hhigh) e more

/-- **Quoted code points are read**, whatever follows them: as they are, but for the pairs of
surrogates among them. -/
theorem readString_points (points : List CodePoint) (rest start : List Char) {fuel : Nat}
    (hf : points.length < fuel) :
    readString .empty start fuel (points.flatMap escapePoint ++ '"' :: rest) =
      .ok (joinPoints points, rest) := by
  have hfuel : ∀ {n m : Nat}, n < m → ∃ k, m = k + 1 := fun h => ⟨_, (Nat.sub_add_cancel
    (Nat.lt_of_le_of_lt (Nat.zero_le _) h)).symm⟩
  obtain ⟨fuel, rfl⟩ := hfuel hf
  -- two halves of a pair that meet are read as one character, all else one by one
  induction points using joinPoints.induct generalizing fuel with
  | case1 p q more hpair ih =>
    simp only [List.length_cons] at hf
    obtain ⟨fuel, rfl⟩ := hfuel (show more.length < fuel by omega)
    rw [joinPoints, if_pos hpair, List.flatMap_cons, List.flatMap_cons, List.append_assoc,
      List.append_assoc]
    exact readString_pair hpair.1 hpair.2 (ih _ (by omega))
  | case2 p q more hpair ih =>
    simp only [List.length_cons] at hf
    obtain ⟨fuel, rfl⟩ := hfuel (show more.length < fuel by omega)
    rw [joinPoints, if_neg hpair, List.flatMap_cons, List.append_assoc]
    refine readString_point ?_ (ih _ (by simp only [List.length_cons]; omega))
    rintro q' hq' hhigh
    cases hq'
    rw [← Bool.not_eq_true]
    exact fun hlow => hpair ⟨hhigh, hlow⟩
  | case3 points hshort =>
    cases points with
    | nil =>
      rw [joinPoints]
      · unfold readString; rfl
      · exact hshort
    | cons p more =>
      cases more with
      | nil =>
        rw [joinPoints]
        · rw [List.flatMap_cons, List.append_assoc]
          obtain ⟨fuel, rfl⟩ := hfuel (show 0 < fuel by simpa using hf)
          refine readString_point (by simp) ?_
          unfold readString; rfl
        · exact hshort
      | cons q more => exact absurd rfl (hshort p q more)

/-! ### Texts that are read -/

theorem le_joinSurrogates (n m : Nat) : 0x10000 ≤ joinSurrogates n m := by
  unfold joinSurrogates
  omega

/-- The code point of two surrogates is none. -/
theorem isSurrogate_join (n m : Nat) :
    isHighSurrogate (joinSurrogates n m) = false ∧ isLowSurrogate (joinSurrogates n m) = false := by
  have hle := le_joinSurrogates n m
  rw [← Bool.not_eq_true, ← Bool.not_eq_true, isHighSurrogate_iff, isLowSurrogate_iff]
  omega

/-- What follows is the escape of a low surrogate, with the end of the string behind it. -/
def StartsLow (s : List Char) : Prop :=
  ∃ tail m after, s = '\\' :: 'u' :: tail ∧ readUnit? tail = some (m, after) ∧
    isLowSurrogate m = true

theorem length_of_readUnit? {s after : List Char} {n : Nat} (h : readUnit? s = some (n, after)) :
    4 < s.length := by
  unfold readUnit? at h
  split at h
  · simp only [List.length_cons]
    omega
  · cases h

/-- A low surrogate comes from its escape, and from nothing that starts a pair. -/
theorem isLow_readUnicode {mark s after : List Char} {p : CodePoint}
    (h : readUnicode mark s = .ok (p, after)) (hp : p.isLow = true) :
    ∃ m rest, readUnit? s = some (m, rest) ∧ isLowSurrogate m = true := by
  have hhigh : ∀ n, isHighSurrogate n = true → isLowSurrogate n = false := by
    intro n hn
    rw [isHighSurrogate_iff] at hn
    rw [← Bool.not_eq_true, isLowSurrogate_iff]
    omega
  unfold readUnicode at h
  split at h
  · cases h
  · next n rest hunit =>
    refine ⟨n, rest, hunit, ?_⟩
    have hlow : ∀ after', Except.ok (CodePoint.ofNat n, after') =
        (.ok (p, after) : Except Stop _) → isLowSurrogate n = true := by
      rintro after' heq
      cases heq
      rwa [isLow_ofNat] at hp
    split at h
    · next hn =>
      split at h
      · split at h
        · exact hlow _ h
        split at h
        · cases h
        split at h
        · next hm =>
          have hpoint := (Prod.mk.inj (Except.ok.inj h)).1
          rw [← hpoint, isLow_ofNat, (isSurrogate_join ..).2] at hp
          cases hp
        · exact hlow _ h
      · exact hlow _ h
    · exact hlow _ h

/-- A high surrogate is no half of a pair: the escape of a low one does not follow. -/
theorem isHigh_readUnicode {mark s after : List Char} {p : CodePoint}
    (h : readUnicode mark s = .ok (p, after)) (hp : p.isHigh = true) : ¬ StartsLow after := by
  rintro ⟨tail, m, rest, rfl, htail, hm⟩
  have hlong := length_of_readUnit? htail
  unfold readUnicode at h
  split at h
  · cases h
  · next n s' hunit =>
    split at h
    · next hn =>
      split at h
      · split at h
        · cases h
          omega
        split at h
        · cases h
        · next tail' hshort _ m' after' htail' =>
          split at h
          · next hm' =>
            have hpoint := (Prod.mk.inj (Except.ok.inj h)).1
            rw [← hpoint, isHigh_ofNat, (isSurrogate_join ..).1] at hp
            cases hp
          · next hm' =>
            cases h
            rw [htail] at htail'
            cases htail'
            exact hm' hm
      · next hno =>
        cases h
        exact hno _ rfl
    · next hn =>
      cases h
      rw [isHigh_ofNat] at hp
      exact hn hp

/-- A low surrogate at the front of a string comes from its escape. -/
theorem startsLow_of_readString {start s after : List Char} {fuel : Nat} {p : CodePoint}
    {points : List CodePoint} (h : readString .empty start fuel s = .ok (p :: points, after))
    (hp : p.isLow = true) : StartsLow s := by
  cases fuel with
  | zero => cases h
  | succ fuel =>
    cases s with
    | nil => cases h
    | cons c rest =>
      unfold readString at h
      split at h
      · cases h
      split at h
      · next hc =>
        subst hc
        split at h
        · cases h
        · next tail =>
          obtain ⟨⟨q, behind⟩, hq, h⟩ := bind_eq_ok.1 h
          obtain ⟨⟨qs, _⟩, -, h⟩ := bind_eq_ok.1 h
          cases h
          obtain ⟨m, rest, hunit, hm⟩ := isLow_readUnicode hq hp
          exact ⟨tail, m, rest, rfl, hunit, hm⟩
        · split at h
          · cases h
          · obtain ⟨⟨qs, _⟩, -, h⟩ := bind_eq_ok.1 h
            cases h
            cases hp
      split at h
      · cases h
      · obtain ⟨⟨qs, _⟩, -, h⟩ := bind_eq_ok.1 h
        cases h
        cases hp

/-- **A string that is read has no surrogates that make a pair.** -/
theorem isChain_of_readString {start s after : List Char} {fuel : Nat} {points : List CodePoint}
    (h : readString .empty start fuel s = .ok (points, after)) :
    points.IsChain CodePoint.Apart := by
  induction fuel generalizing s points after with
  | zero => cases h
  | succ fuel ih =>
    cases s with
    | nil => cases h
    | cons c rest =>
      have hchar : ∀ (d : Char) (tail : List Char) (ds : List CodePoint),
          readString .empty start fuel tail = .ok (ds, after) →
            (CodePoint.char d :: ds).IsChain CodePoint.Apart := fun d tail ds hds =>
        List.isChain_cons.2 ⟨fun _ _ hhigh => Bool.noConfusion hhigh, ih hds⟩
      unfold readString at h
      split at h
      · cases h
        exact .nil
      split at h
      · split at h
        · cases h
        · obtain ⟨⟨p, behind⟩, hp, h⟩ := bind_eq_ok.1 h
          obtain ⟨⟨ds, _⟩, hds, h⟩ := bind_eq_ok.1 h
          cases h
          -- a low half behind a high one comes from its escape, and would have been joined to it
          refine List.isChain_cons.2 ⟨fun q hq hhigh => ?_, ih hds⟩
          cases ds with
          | nil => cases hq
          | cons q' ds =>
            cases hq
            rw [← Bool.not_eq_true]
            exact fun hlow => isHigh_readUnicode hp hhigh (startsLow_of_readString hds hlow)
        · split at h
          · cases h
          · obtain ⟨⟨ds, _⟩, hds, h⟩ := bind_eq_ok.1 h
            cases h
            exact hchar _ _ _ hds
      split at h
      · cases h
      · obtain ⟨⟨ds, _⟩, hds, h⟩ := bind_eq_ok.1 h
        cases h
        exact hchar _ _ _ hds

/-! ### Lengths -/

/-- No escape is empty. -/
theorem length_escape_pos (c : Char) : 0 < (escape c).length := by
  have hu : ∀ n, 0 < (unitEscape n).length := fun n => by unfold unitEscape; simp
  have hp : ∀ a b, 0 < (unitEscape a ++ unitEscape b).length := fun a b => by
    have := hu a; rw [List.length_append]; omega
  unfold escape
  split
  · simp
  split
  · simp
  split
  · simp
  split
  · simp
  split
  · simp
  split
  · simp
  split
  · simp
  split
  · exact hu _
  · exact hp _ _

theorem length_le_flatMap_escapePoint (points : List CodePoint) :
    points.length ≤ (points.flatMap escapePoint).length := by
  induction points with
  | nil => simp
  | cons p points ih =>
    have hpos : 0 < (escapePoint p).length := by
      cases p with
      | char c => exact length_escape_pos c
      | surrogate n => simp [escapePoint, unitEscape]
    rw [List.flatMap_cons, List.length_append, List.length_cons]; omega

end Json

end ServiceClient
