import ServiceClient.Proofs.JsonReading

/-!
# Every text of JSON that is printed is read

A value need not be a document that JSON holds as it is: a double is printed in digits, a key
that is a number becomes a text. Whatever is printed is well formed, so that it is read as some
value.

* `readsAs_double`: the text of a double is read.
* `readsAs_print`: so is the text of any value, whatever follows.
* `read_of_print`: so is the whole text.
-/

namespace ServiceClient.Json

/-! ### Doubles -/

/-- The whole part of a number is read up to its fraction, its exponent or its end. -/
theorem readWhole_text {whole rest : List Char} (h : IsWhole whole) (hrest : EndsDigits rest) :
    readWhole (whole ++ rest) = some (whole, rest) := by
  obtain ⟨hdigits, rfl | ⟨d, ds, rfl, hd⟩⟩ := h
  · rfl
  · have hfirst : d.isDigit = true := hdigits d List.mem_cons_self
    obtain ⟨htake, hdrop⟩ :=
      takeWhile_digits (fun c hc => hdigits c (List.mem_cons_of_mem d hc)) hrest
    rw [List.cons_append]
    unfold readWhole
    split
    · rename_i heq
      exact absurd (List.cons.inj heq).1 hd
    · rename_i heq
      obtain ⟨rfl, rfl⟩ := List.cons.inj heq
      rw [if_pos hfirst, htake, hdrop]
    · rename_i heq
      cases heq

theorem readFraction_text (t : NumberText) {rest : List Char} (hrest : EndsDigits rest)
    (hpoint : ∀ tail, rest ≠ '.' :: tail) :
    readFraction (t.fractionChars ++ rest) =
      (if t.fraction = [] then none else some t.fraction, rest) := by
  unfold NumberText.fractionChars
  by_cases hnone : t.fraction = []
  · rw [if_pos hnone, if_pos hnone, List.nil_append]
    unfold readFraction
    split
    · exact absurd rfl (hpoint _)
    · rfl
  · obtain ⟨d, ds, hds⟩ := List.exists_cons_of_ne_nil hnone
    have hdigits := t.isFraction
    rw [hds] at hdigits
    have hd : d.isDigit = true := hdigits d List.mem_cons_self
    obtain ⟨htake, hdrop⟩ :=
      takeWhile_digits (fun c hc => hdigits c (List.mem_cons_of_mem d hc)) hrest
    rw [if_neg hnone, if_neg hnone, hds]
    simp only [List.cons_append, readFraction, hd, if_true, htake, hdrop]

theorem readExponent_text (t : NumberText) :
    ∃ e, (∀ rest, EndsNumber rest → readExponent (t.exponentChars 'e' ++ rest) = (e, rest)) ∧
      (t.exponent ≠ [] → e.isNone = false) := by
  unfold NumberText.exponentChars
  by_cases hnone : t.exponent = []
  · rw [if_pos hnone]
    exact ⟨none, fun rest hrest => readExponent_of_ends hrest, fun h => absurd hnone h⟩
  · obtain ⟨down, hsigned⟩ := t.signed_exponent hnone
    have hsome : t.exponent.isEmpty = false := by simp [hnone]
    rw [if_neg hnone]
    refine ⟨some (if down then -(Nat.ofDigitChars 10 t.exponent 0 : Int)
      else Nat.ofDigitChars 10 t.exponent 0), fun rest hrest => ?_, fun _ => rfl⟩
    obtain ⟨htake, hdrop⟩ := takeWhile_digits t.isExponent hrest.endsDigits
    simp only [List.cons_append, List.append_assoc, readExponent, true_or, if_true, hsigned,
      htake, hdrop, hsome, Bool.false_eq_true, if_false]

/-- **A number with a fraction or an exponent is read** as a double. -/
theorem readNumber_text (t : NumberText) (hparts : t.fraction ≠ [] ∨ t.exponent ≠ [])
    (negative : Bool) : ∃ d, ∀ rest, EndsNumber rest →
      readNumber (Double.signChars negative ++ (t.chars 'e' ++ rest)) = .ok (.double d, rest) := by
  obtain ⟨e, hexponent, hsome⟩ := readExponent_text t
  have hdouble :
      ((if t.fraction = [] then none else some t.fraction).isNone && e.isNone) = false := by
    by_cases hnone : t.fraction = []
    · rw [hsome (hparts.resolve_left (fun h => h hnone)), Bool.and_false]
    · rw [if_neg hnone]
      rfl
  obtain ⟨digits, hdigits⟩ : ∃ digits,
      (if t.fraction = [] then none else some t.fraction).getD [] = digits := ⟨_, rfl⟩
  refine ⟨Double.ofScientific negative (Nat.ofDigitChars 10 (t.whole ++ digits) 0)
    (e.getD 0 - digits.length), fun rest hrest => ?_⟩
  have hends := t.endsDigits_exponent (show 'e'.isDigit = false by decide) hrest.endsDigits
  have hwhole := readWhole_text t.isWhole (t.endsDigits_fraction hends)
  have hfraction := readFraction_text t hends (by
    intro tail heq
    unfold NumberText.exponentChars at heq
    split at heq
    · exact (hrest _ _ heq).2.1 rfl
    · exact absurd (List.cons.inj heq).1 (by decide))
  have hchars : t.chars 'e' ++ rest =
      t.whole ++ (t.fractionChars ++ (t.exponentChars 'e' ++ rest)) := by
    simp only [NumberText.chars, List.append_assoc]
  unfold readNumber
  split
  rename_i minus body hsign
  obtain ⟨rfl, rfl⟩ : minus = negative ∧ body = t.chars 'e' ++ rest := by
    cases negative with
    | true => exact ⟨(Prod.mk.inj hsign).1.symm, (Prod.mk.inj hsign).2.symm⟩
    | false =>
      -- the whole part does not start with a sign
      split at hsign
      · rename_i heq
        exact absurd heq (t.chars_ne 'e' rest _)
      · exact ⟨(Prod.mk.inj hsign).1.symm, (Prod.mk.inj hsign).2.symm⟩
  simp only [hchars, hwhole, hfraction, hexponent rest hrest, hdouble, hdigits,
    Bool.false_eq_true, if_false]

/-- A text that starts with a digit, or with a sign and a digit, is read as the number in it. -/
theorem readsAs_of_number {negative : Bool} {d : Char} {ds : List Char} {v : Value}
    (hd : d.isDigit = true)
    (hnum : ∀ rest, EndsNumber rest →
      readNumber (Double.signChars negative ++ (d :: ds ++ rest)) = .ok (v, rest)) :
    ReadsAs (Double.signChars negative ++ d :: ds) v := by
  obtain ⟨-, -, -, -, -, -, hsp, hq, hl, hb, hr⟩ := digit_ne hd
  cases negative with
  | true =>
    refine ⟨⟨'-', d :: ds, rfl, by decide⟩, fun fuel rest hf hrest => ?_⟩
    obtain ⟨m, rfl, -⟩ := exists_fuel '-' (d :: ds) hf
    exact ((readWord_of_digit hd (ds ++ rest)).2).trans (hnum rest hrest)
  | false =>
    refine ⟨⟨d, ds, rfl, hsp, hr⟩, fun fuel rest hf hrest => ?_⟩
    obtain ⟨m, rfl, -⟩ := exists_fuel d ds hf
    have hread := ((readWord_of_digit hd (ds ++ rest)).1).trans (hnum rest hrest)
    show readValue .empty (m + 1) (d :: (ds ++ rest)) = _
    rw [readValue]
    simp only [if_neg hq, if_neg hl, if_neg hb]
    exact hread

/-- **The text of a double is read.** -/
theorem readsAs_double (d : Double) : ∃ v, ReadsAs (printDouble d) v := by
  unfold printDouble
  by_cases hnan : d.isNaN = true
  · rw [if_pos hnan]
    refine ⟨.double Double.nan, ⟨'N', ['a', 'N'], rfl, by decide⟩, fun fuel rest hf _ => ?_⟩
    obtain ⟨m, rfl, -⟩ := exists_fuel 'N' ['a', 'N'] hf
    rfl
  by_cases hinf : d.isInfinite = true
  · rw [if_neg hnan, if_pos hinf]
    by_cases hsign : d.isNegative = true
    · rw [if_pos hsign]
      refine ⟨.double (Double.infinity true), ⟨'-', _, rfl, by decide⟩, fun fuel rest hf _ => ?_⟩
      obtain ⟨m, rfl, -⟩ := exists_fuel '-' ['I', 'n', 'f', 'i', 'n', 'i', 't', 'y'] hf
      rfl
    · rw [if_neg hsign]
      refine ⟨.double (Double.infinity false), ⟨'I', _, rfl, by decide⟩, fun fuel rest hf _ => ?_⟩
      obtain ⟨m, rfl, -⟩ := exists_fuel 'I' ['n', 'f', 'i', 'n', 'i', 't', 'y'] hf
      rfl
  · rw [if_neg hnan, if_neg hinf]
    rw [Bool.not_eq_true] at hnan hinf
    obtain ⟨t, htext, hparts⟩ := Double.text_chars hnan hinf
    obtain ⟨c, cs, hc, hchars⟩ := t.exists_chars_cons 'e'
    obtain ⟨v, hread⟩ := readNumber_text t hparts d.isNegative
    rw [hchars] at hread
    rw [htext, hchars]
    exact ⟨_, readsAs_of_number hc hread⟩

/-! ### All values -/

mutual

/-- **What is printed is read**, whatever follows that cannot continue a number. -/
theorem readsAs_print : ∀ (v : Value) (cs : List Char), print compact v = .ok cs →
    ∃ w, True ∧ ReadsAs cs w
  | .null, cs, h => by
    rw [print] at h
    obtain rfl := Except.ok.inj h
    exact ⟨_, trivial, readsAs_null⟩
  | .bool b, cs, h => by
    rw [print] at h
    obtain rfl := Except.ok.inj h
    exact ⟨_, trivial, readsAs_bool b⟩
  | .int n, cs, h => by
    rw [print] at h
    unfold integerText at h
    split at h
    · cases h
    · rename_i hdigits
      have hlt : n.natAbs < 10 ^ maxIntegerDigits :=
        (Nat.length_toDigits_le_iff (by decide) (show 0 < maxIntegerDigits by decide)).1
          (Nat.not_lt.1 hdigits)
      obtain rfl := Except.ok.inj h
      exact ⟨_, trivial, readsAs_int hlt⟩
  | .double d, cs, h => by
    rw [print] at h
    obtain rfl := Except.ok.inj h
    obtain ⟨v, hread⟩ := readsAs_double d
    exact ⟨v, trivial, hread⟩
  | .text s, cs, h => by
    rw [print] at h
    obtain rfl := Except.ok.inj h
    rw [← quotePoints_map_char]
    exact ⟨_, trivial, readsAs_points s⟩
  | .loose t, cs, h => by
    rw [print] at h
    obtain rfl := Except.ok.inj h
    exact ⟨_, trivial, readsAs_points t.text⟩
  | .list items, cs, h => by
    rw [print] at h
    obtain ⟨content, hcontent, h⟩ := bind_eq_ok.1 h
    obtain rfl := Except.ok.inj h
    obtain ⟨read, -, hread⟩ :=
      readsAs_list (R := fun _ _ => True) (readsAs_printItems items) hcontent
    exact ⟨_, trivial, hread⟩
  | .tuple items, cs, h => by
    rw [print] at h
    obtain ⟨content, hcontent, h⟩ := bind_eq_ok.1 h
    obtain rfl := Except.ok.inj h
    obtain ⟨read, -, hread⟩ :=
      readsAs_list (R := fun _ _ => True) (readsAs_printItems items) hcontent
    exact ⟨_, trivial, hread⟩
  | .map fields, cs, h => by
    rw [print] at h
    obtain ⟨content, hcontent, h⟩ := bind_eq_ok.1 h
    obtain rfl := Except.ok.inj h
    obtain ⟨read, -, hread⟩ :=
      readsAs_map (R := fun _ _ => True) (readsAs_printFields fields) hcontent
    exact ⟨_, trivial, hread⟩
  | .undefined, _, h => by cases h
  | .decimal _, _, h => by cases h
  | .bytes _ _, _, h => by cases h
  | .timestamp _, _, h => by cases h
  | .set _, _, h => by cases h
  | .symbol _, _, h => by cases h
  | .tagged _ _, _, h => by cases h
  | .simple _, _, h => by cases h

theorem readsAs_printItems : ∀ (items : List Value), ∀ v ∈ items, ∀ cs,
    print compact v = .ok cs → ∃ w, True ∧ ReadsAs cs w
  | [], v, hv, _, _ => absurd hv List.not_mem_nil
  | x :: xs, v, hv, cs, h => by
    rcases List.mem_cons.1 hv with hx | hxs
    · rw [hx] at h
      exact readsAs_print x cs h
    · exact readsAs_printItems xs v hxs cs h

theorem readsAs_printFields : ∀ (fields : Fields), ∀ p ∈ fields, ∀ cs,
    print compact p.2 = .ok cs → ∃ w, True ∧ ReadsAs cs w
  | [], p, hp, _, _ => absurd hp List.not_mem_nil
  | (k, x) :: rest, p, hp, cs, h => by
    rcases List.mem_cons.1 hp with hx | hrest
    · rw [hx] at h
      exact readsAs_print x cs h
    · exact readsAs_printFields rest p hrest cs h

end

/-- **The whole text of a value is read.** -/
theorem read_of_print {v : Value} {cs : List Char} (h : print compact v = .ok cs) :
    ∃ w, readChars .empty cs = .ok w := by
  obtain ⟨w, -, hread⟩ := readsAs_print v cs h
  exact ⟨w, readChars_of_readsAs hread⟩

end ServiceClient.Json
