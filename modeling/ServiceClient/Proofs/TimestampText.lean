import ServiceClient.Proofs.Calendar

/-!
# Timestamps read back from text

The date and the time of a written timestamp are numbers of fixed width between marks. What
follows them is a fraction and an offset.

* `Timestamp.chars_clock`: the characters of a date and a time.
* `Timestamp.readFraction_padded`: six digits of fraction are read back.
* `Timestamp.ofInternetText?_isoText`: a timestamp whose offset is in whole minutes is read back.
-/

namespace ServiceClient.Timestamp

/-- The characters of a date and a time, up to those that follow them. -/
def clockChars (t : Timestamp) (rest : List Char) : List Char :=
  (zeroPadded 4 t.date.year.toNat).toList ++ '-' :: ((zeroPadded 2 t.date.month).toList ++
    '-' :: ((zeroPadded 2 t.date.day).toList ++ 'T' :: ((zeroPadded 2 t.timeOfDay.hour).toList ++
      ':' :: ((zeroPadded 2 t.timeOfDay.minute).toList ++
        ':' :: ((zeroPadded 2 t.timeOfDay.second).toList ++ rest)))))

theorem chars_clock (t : Timestamp) (rest : List Char) :
    (t.dateText ++ "T" ++ t.timeText).toList ++ rest = t.clockChars rest := by
  have hdash : "-".toList = ['-'] := rfl
  have hmark : "T".toList = ['T'] := rfl
  have hcolon : ":".toList = [':'] := rfl
  unfold dateText timeText clockChars
  simp only [String.toList_append, hdash, hmark, hcolon, List.append_assoc, List.cons_append,
    List.nil_append]

/-- The numbers of a clock fit in their widths. -/
theorem widths {t : Timestamp} (h : t.inRange = true) :
    t.date.year.toNat < 10 ^ 4 ∧ t.date.month < 10 ^ 2 ∧ t.date.day < 10 ^ 2 ∧
      t.timeOfDay.hour < 10 ^ 2 ∧ t.timeOfDay.minute < 10 ^ 2 ∧ t.timeOfDay.second < 10 ^ 2 ∧
      t.timeOfDay.microsecond < 10 ^ 6 := by
  obtain ⟨-, hyear, hmonth, hday⟩ := parts_bounds h
  obtain ⟨hhour, hminute, hsecond, hmicro, -⟩ := TimeOfDay.ofMicroseconds_spec (clock_rest t)
  unfold timeOfDay
  omega

theorem expectChar?_cons (c : Char) (rest : List Char) : expectChar? c (c :: rest) = some rest := by
  simp [expectChar?]

/-- Up to six digits of fraction are units of so many decimals. -/
theorem readFraction_width {width n : Nat} (hw : 0 < width) (hsix : width ≤ 6) (h : n < 10 ^ width)
    {rest : List Char} (hr : EndsDigits rest) :
    readFraction ('.' :: ((zeroPadded width n).toList ++ rest)) =
      some (n * 10 ^ (6 - width), rest) := by
  have hlength := length_zeroPadded hw h
  obtain ⟨htake, hdrop⟩ := takeWhile_digits (isDigits_zeroPadded width n) hr
  have hsome : (zeroPadded width n).toList.isEmpty = false := by
    rw [List.isEmpty_eq_false_iff]
    intro hnil
    rw [hnil, List.length_nil] at hlength
    omega
  have hvalue : microsecondsOfFraction (zeroPadded width n).toList = n * 10 ^ (6 - width) := by
    unfold microsecondsOfFraction
    dsimp only
    rw [List.take_of_length_le (by omega), hlength, ofDigitChars_zeroPadded]
  unfold readFraction
  simp only [htake, hdrop, hsome, hvalue, Bool.false_eq_true, if_false]

/-- Six digits of fraction are microseconds. -/
theorem readFraction_padded {n : Nat} (h : n < 10 ^ 6) {rest : List Char} (hr : EndsDigits rest) :
    readFraction ('.' :: ((zeroPadded 6 n).toList ++ rest)) = some (n, rest) := by
  rw [readFraction_width (by decide) (by decide) h hr, Nat.sub_self, Nat.pow_zero, Nat.mul_one]

theorem readFraction_none {c : Char} (hc : c ≠ '.') (rest : List Char) :
    readFraction (c :: rest) = some (0, c :: rest) := by
  unfold readFraction
  split
  · rename_i heq
    exact absurd (List.cons.inj heq).1 hc
  · rfl

/-- A fraction, left out if it is zero, is read back. -/
theorem readFraction_optional {n : Nat} (h : n < 10 ^ 6) {c : Char} (hc : c ≠ '.')
    (hd : c.isDigit = false) (rest : List Char) :
    readFraction ((if n = 0 then "" else "." ++ zeroPadded 6 n).toList ++ c :: rest) =
      some (n, c :: rest) := by
  have hr : EndsDigits (c :: rest) := endsDigits_cons hd rest
  by_cases hn : n = 0
  · rw [if_pos hn, hn]
    exact readFraction_none hc rest
  · rw [if_neg hn, String.toList_append]
    exact readFraction_padded h hr

/-- The characters of an offset in whole minutes. -/
theorem chars_offset {o : Int} (hwhole : o % 60 = 0) (rest : List Char) :
    (offsetText o).toList ++ rest =
      (if o < 0 then '-' else '+') :: ((zeroPadded 2 (o.natAbs / 3600)).toList ++
        ':' :: ((zeroPadded 2 (o.natAbs / 60 % 60)).toList ++ rest)) := by
  have hseconds : o.natAbs % 60 = 0 := by omega
  have hsign : (if o < 0 then "-" else "+").toList = [if o < 0 then '-' else '+'] := by
    split <;> rfl
  have hcolon : ":".toList = [':'] := rfl
  unfold offsetText
  simp only [hseconds, if_true, String.toList_append, hsign, hcolon, List.append_assoc,
    List.cons_append, List.nil_append]
  rfl

/-- Behind a sign stand the hours and the minutes of an offset. -/
theorem readZone_cons {c : Char} {sign : Int} (hc : c = '+' ∧ sign = 1 ∨ c = '-' ∧ sign = -1)
    {s after : List Char} {h m : Nat} (hh : fixedDigits? 2 s = some (h, ':' :: after))
    (hm : fixedDigits? 2 after = some (m, [])) :
    readZone (c :: s) = some (sign * (h * 3600 + m * 60)) := by
  unfold readZone
  split
  · rename_i heq
    have hZ := (List.cons.inj heq).1
    obtain ⟨rfl, -⟩ | ⟨rfl, -⟩ := hc
    · exact absurd hZ (by decide)
    · exact absurd hZ (by decide)
  · rename_i heq
    obtain ⟨rfl, rfl⟩ := List.cons.inj heq
    obtain ⟨rfl, rfl⟩ | ⟨rfl, rfl⟩ := hc
    · simp [hh, hm, expectChar?_cons]
    · simp [hh, hm, expectChar?_cons]
  · rename_i heq
    cases heq

/-- An offset in whole minutes is read back. -/
theorem readZone_offsetText {o : Int} (hday : o.natAbs < 86400) (hwhole : o % 60 = 0) :
    readZone (offsetText o).toList = some o := by
  have hchars := chars_offset hwhole []
  have hhour := fixedDigits?_zeroPadded (show 0 < 2 by decide)
    (show o.natAbs / 3600 < 10 ^ 2 by omega) (':' :: (zeroPadded 2 (o.natAbs / 60 % 60)).toList)
  have hminute := fixedDigits?_zeroPadded (show 0 < 2 by decide)
    (show o.natAbs / 60 % 60 < 10 ^ 2 by omega) []
  rw [List.append_nil] at hminute
  rw [List.append_nil, List.append_nil] at hchars
  rw [hchars]
  by_cases hsign : o < 0
  · rw [if_pos hsign, readZone_cons (.inr ⟨rfl, rfl⟩) hhour hminute]
    exact congrArg some (by omega)
  · rw [if_neg hsign, readZone_cons (.inl ⟨rfl, rfl⟩) hhour hminute]
    exact congrArg some (by omega)

/-- The characters of a fraction, which is left out if it is zero. -/
def fractionChars (t : Timestamp) : List Char :=
  (if t.timeOfDay.microsecond = 0 then ""
    else "." ++ zeroPadded 6 t.timeOfDay.microsecond).toList

theorem chars_iso (t : Timestamp) :
    t.isoText.toList =
      t.clockChars (t.fractionChars ++ ((t.offset.map offsetText).getD "").toList) := by
  unfold isoText isoTextWith fractionChars
  rw [← chars_clock]
  simp only [String.toList_append, List.append_assoc]

/-- **A timestamp is read back** from a date, a time, a fraction and an offset. -/
theorem ofInternetText?_chars {t : Timestamp} (h : t.inRange = true) {o : Int}
    {fraction zone : List Char}
    (hfraction : readFraction (fraction ++ zone) = some (t.timeOfDay.microsecond, zone))
    (hzone : readZone zone = some o) {text : String}
    (htext : text.toList = t.clockChars (fraction ++ zone)) :
    ofInternetText? text = some ⟨t.clock, some o⟩ := by
  obtain ⟨hyear, hmonth, hday, hhour, hminute, hsecond, -⟩ := widths h
  have hparts := ofParts?_parts h (some o)
  unfold ofInternetText?
  rw [htext, clockChars]
  -- one step for each part, in the order of the text
  refine Option.bind_eq_some_iff.2 ⟨_, fixedDigits?_zeroPadded (by decide) hyear _, ?_⟩
  refine Option.bind_eq_some_iff.2 ⟨_, expectChar?_cons '-' _, ?_⟩
  refine Option.bind_eq_some_iff.2 ⟨_, fixedDigits?_zeroPadded (by decide) hmonth _, ?_⟩
  refine Option.bind_eq_some_iff.2 ⟨_, expectChar?_cons '-' _, ?_⟩
  refine Option.bind_eq_some_iff.2 ⟨_, fixedDigits?_zeroPadded (by decide) hday _, ?_⟩
  refine Option.bind_eq_some_iff.2 ⟨_, expectChar?_cons 'T' _, ?_⟩
  refine Option.bind_eq_some_iff.2 ⟨_, fixedDigits?_zeroPadded (by decide) hhour _, ?_⟩
  refine Option.bind_eq_some_iff.2 ⟨_, expectChar?_cons ':' _, ?_⟩
  refine Option.bind_eq_some_iff.2 ⟨_, fixedDigits?_zeroPadded (by decide) hminute _, ?_⟩
  refine Option.bind_eq_some_iff.2 ⟨_, expectChar?_cons ':' _, ?_⟩
  refine Option.bind_eq_some_iff.2 ⟨_, fixedDigits?_zeroPadded (by decide) hsecond _, ?_⟩
  refine Option.bind_eq_some_iff.2 ⟨_, hfraction, ?_⟩
  refine Option.bind_eq_some_iff.2 ⟨_, hzone, ?_⟩
  exact hparts

/-- **A timestamp is read back** from its text in ISO 8601 if its offset is in whole minutes. -/
theorem ofInternetText?_isoText {t : Timestamp} (h : t.inRange = true) {o : Int}
    (ho : t.offset = some o) (hday : o.natAbs < 86400) (hwhole : o % 60 = 0) :
    ofInternetText? t.isoText = some t := by
  have hchars := chars_offset hwhole []
  rw [List.append_nil, List.append_nil] at hchars
  have hzone := readZone_offsetText hday hwhole
  rw [hchars] at hzone
  have htext := chars_iso t
  rw [ho, Option.map_some, Option.getD_some, hchars] at htext
  have hsign :
      (if o < 0 then '-' else '+') ≠ '.' ∧ (if o < 0 then '-' else '+').isDigit = false := by
    split <;> decide
  obtain ⟨-, -, -, -, -, -, hmicro⟩ := widths h
  have hfraction := readFraction_optional hmicro hsign.1 hsign.2
  rw [ofInternetText?_chars h (hfraction _) hzone htext, ← ho]

/-- A timestamp is read back from the text of its clock with a `Z`. -/
theorem ofInternetText?_universal {t : Timestamp} (h : t.inRange = true) (ho : t.offset = some 0) :
    ofInternetText? ((Timestamp.mk t.clock none).isoText ++ "Z") = some t := by
  have htext : ((Timestamp.mk t.clock none).isoText ++ "Z").toList =
      t.clockChars (t.fractionChars ++ ['Z']) := by
    rw [String.toList_append, chars_iso]
    have hnone : ((Option.map offsetText none).getD "").toList = [] := rfl
    simp only [hnone, List.append_nil, clockChars, List.append_assoc, List.cons_append]
    rfl
  obtain ⟨-, -, -, -, -, -, hmicro⟩ := widths h
  have hfraction := readFraction_optional hmicro (show 'Z' ≠ '.' by decide) rfl []
  rw [ofInternetText?_chars h hfraction (show readZone ['Z'] = some 0 from rfl) htext, ← ho]

end ServiceClient.Timestamp
