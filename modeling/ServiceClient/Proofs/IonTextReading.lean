import ServiceClient.Proofs.Fields
import ServiceClient.Proofs.GivenValues
import ServiceClient.Proofs.IonTokens
import ServiceClient.Proofs.TimestampText

/-!
# Ion text that is written is read

The text of a value is read up to a tail that ends it, and a document behind the version marker
as its only value.

* `readsAs_number`, `readsAs_timestamp`: a number and a timestamp are told apart and read.
* `readsAs_list`, `readsAs_map`: containers are read if their content is.
* `readsAs_written`: the text of any value that a caller gives is read.
* `readText_document`: a document is read as the value that its text is read as.
* `readText_of_write`: a document that a caller's value is written as is read.
-/

namespace ServiceClient.Ion.Text

/-- A text that is read as a value, whatever follows that ends one. It starts with no blank, no
comment, no colon and no end of a list. -/
structure ReadsAs (cs : List Char) (v : Value) : Prop where
  starts : ∃ c tail, cs = c :: tail ∧ isTextSpace c = false ∧ c ≠ '/' ∧ c ≠ ':' ∧ c ≠ ']'
  reads : ∀ table fuel rest, 2 * cs.length ≤ fuel + 1 → Ends rest →
    readTextValue table false fuel (cs ++ rest) = some ([], v, rest)

theorem ReadsAs.length_pos {cs : List Char} {v : Value} (h : ReadsAs cs v) :
    0 < cs.length := by
  obtain ⟨c, tail, rfl, -⟩ := h.starts
  exact Nat.succ_pos _

/-- Nothing is skipped in front of a value. -/
theorem ReadsAs.skip {cs : List Char} {v : Value} (h : ReadsAs cs v) (rest : List Char) :
    Ion.skip (cs ++ rest) = some (cs ++ rest) := by
  obtain ⟨c, tail, rfl, hspace, hslash, -⟩ := h.starts
  exact skip_of_plain (plain_cons ⟨hspace, hslash⟩ _)

/-- The steps for a text: one, and two for each character behind the first. -/
theorem exists_fuel_text {c : Char} {cs : List Char} {fuel : Nat}
    (h : 2 * (c :: cs).length ≤ fuel + 1) : ∃ k, fuel = k + 1 ∧ 2 * cs.length ≤ k := by
  rw [List.length_cons] at h
  exact ⟨fuel - 1, by omega, by omega⟩

/-! ### The first character of a value -/

section First

variable {table : List String} (fuel : Nat) (s : List Char)

theorem isDigit_ne {d : Char} (hd : d.isDigit = true) :
    isNameStart d = false ∧ isTextSpace d = false ∧ d ≠ '{' ∧ d ≠ '[' ∧ d ≠ '(' ∧ d ≠ '"' ∧
      d ≠ '\'' ∧ d ≠ '/' ∧ d ≠ ':' ∧ d ≠ ']' := by
  have hdigits : ∀ n < 10, isNameStart (Nat.digitChar n) = false ∧
      isTextSpace (Nat.digitChar n) = false ∧ Nat.digitChar n ≠ '{' ∧ Nat.digitChar n ≠ '[' ∧
      Nat.digitChar n ≠ '(' ∧ Nat.digitChar n ≠ '"' ∧ Nat.digitChar n ≠ '\'' ∧
      Nat.digitChar n ≠ '/' ∧ Nat.digitChar n ≠ ':' ∧ Nat.digitChar n ≠ ']' := by decide
  have hrange : 48 ≤ d.toNat ∧ d.toNat ≤ 57 := by
    unfold Char.isDigit at hd
    rw [Bool.and_eq_true, decide_eq_true_eq, decide_eq_true_eq] at hd
    exact hd
  have hdigit : Nat.digitChar (d.toNat - 48) = d := by
    apply Char.toNat_inj.1
    rw [Nat.toNat_digitChar_of_lt_ten (by omega)]
    omega
  rw [← hdigit]
  exact hdigits _ (by omega)

/-- A digit starts a timestamp or a number. -/
theorem readTextValue_digit {d : Char} (hd : d.isDigit = true) {v : Value} {rest : List Char}
    (hread : (if startsTimestamp (d :: s) then readTextTimestamp (d :: s)
      else readTextNumber (d :: s)) = some (v, rest)) :
    readTextValue table false (fuel + 1) (d :: s) = some ([], v, rest) := by
  obtain ⟨hname, -, hbrace, hbracket, hparen, hquote, hmark, -⟩ := isDigit_ne hd
  rw [readTextValue]
  · simp only [hname, hd, Bool.false_eq_true, if_false, if_true]
    split at hread
    · rename_i htime
      rw [if_pos htime, hread]
      rfl
    · rename_i htime
      rw [if_neg htime, hread]
      rfl
  · exact fun _ h => absurd h hbrace
  · exact fun h => absurd h hbrace
  · exact fun h => absurd h hbracket
  · exact fun h => absurd h hparen
  · exact fun h => absurd h hquote
  · exact fun _ h => absurd h hmark
  · exact fun h => absurd h hmark

/-- A hyphen with a digit behind it starts a number. -/
theorem readTextValue_minus {d : Char} (hd : d.isDigit = true) {v : Value} {rest : List Char}
    (hread : readTextNumber ('-' :: d :: s) = some (v, rest)) :
    readTextValue table false (fuel + 1) ('-' :: d :: s) = some ([], v, rest) := by
  have hinf : isInfinityWord (d :: s) = false := by
    unfold isInfinityWord
    split
    · rename_i heq
      rw [(List.cons.inj heq).1] at hd
      exact absurd hd (by decide)
    · rfl
  have hname : isNameStart '-' = false := rfl
  have hdigit : '-'.isDigit = false := rfl
  rw [readTextValue]
  · simp [hname, hdigit, hinf, hd, hread]
  all_goals simp

/-- A letter starts a word; one that is no symbol is the whole value. -/
theorem readTextValue_word {c : Char} (hc : isNameStart c = true) {v : Value} {rest : List Char}
    (hread : readNamed table (c :: s) = some (v, false, rest)) :
    readTextValue table false (fuel + 1) (c :: s) = some ([], v, rest) := by
  obtain ⟨hquote, hmark, hbrace, -, hbracket, -, hparen, -⟩ := isNameStart_ne hc
  rw [readTextValue]
  · simp only [hc, if_true, hread]
    rfl
  · exact fun _ h => absurd h hbrace
  · exact fun h => absurd h hbrace
  · exact fun h => absurd h hbracket
  · exact fun h => absurd h hparen
  · exact fun h => absurd h hquote
  · exact fun _ h => absurd h hmark
  · exact fun h => absurd h hmark

end First

/-! ### Scalars -/

/-- The words that are no symbols. -/
def words : List (String × Value) :=
  [("null", .null), ("true", .bool true), ("false", .bool false), ("nan", .double Double.nan)]

theorem readNamed_word {p : String × Value} (hp : p ∈ words) (table : List String)
    {rest : List Char} (hrest : Ends rest) :
    readNamed table (p.1.toList ++ rest) = some (p.2, false, rest) := by
  have hwords : words.all (fun p => p.1.toList.all isNamePart) = true := by decide
  have hword := List.all_eq_true.1 (List.all_eq_true.1 hwords p hp)
  have htake := takeName_append hword hrest.namePart
  unfold readNamed
  rw [htake]
  simp only [words, List.mem_cons, List.not_mem_nil, or_false] at hp
  obtain rfl | rfl | rfl | rfl := hp
  · -- a point would lead on to the type of the null
    have hpoint : ∀ tail, rest ≠ '.' :: tail := fun tail heq => by
      obtain ⟨-, -, -, -, -, hdot, -⟩ := ends_char (hrest _ _ heq)
      exact hdot rfl
    simp only [if_true]
    rfl
  · rfl
  · rfl
  · rfl

/-- **A word is read** as what it stands for. -/
theorem readsAs_word {p : String × Value} (hp : p ∈ words) : ReadsAs p.1.toList p.2 := by
  have hfirst : ∀ p ∈ words, ∃ c tail, p.1.toList = c :: tail ∧ isNameStart c = true := by
    simp only [words, List.forall_mem_cons]
    exact ⟨⟨'n', _, rfl, rfl⟩, ⟨'t', _, rfl, rfl⟩, ⟨'f', _, rfl, rfl⟩, ⟨'n', _, rfl, rfl⟩, by simp⟩
  obtain ⟨c, tail, hchars, hc⟩ := hfirst p hp
  obtain ⟨-, -, -, -, -, hbracket, -, hcolon, hslash, hspace⟩ := isNameStart_ne hc
  refine ⟨⟨c, tail, hchars, hspace, hslash, hcolon, hbracket⟩,
    fun table fuel rest hfuel hrest => ?_⟩
  have hread := readNamed_word hp table hrest
  rw [hchars] at hfuel
  rw [hchars, List.cons_append] at hread ⊢
  obtain ⟨k, rfl, -⟩ := exists_fuel_text hfuel
  exact readTextValue_word k _ hc hread

/-- The two infinities are read behind their signs. -/
theorem readsAs_infinity (negative : Bool) :
    ReadsAs (if negative then "-inf" else "+inf").toList (.double (Double.infinity negative)) := by
  have hword : ∀ rest, Ends rest → isInfinityWord ('i' :: 'n' :: 'f' :: rest) = true :=
    fun rest hrest => hrest.endsNumber
  cases negative with
  | true =>
    refine ⟨⟨'-', _, rfl, by decide⟩, fun table fuel rest hfuel hrest => ?_⟩
    obtain ⟨k, rfl, -⟩ := @exists_fuel_text '-' ['i', 'n', 'f'] fuel hfuel
    have hname : isNameStart '-' = false := rfl
    have hdigit : '-'.isDigit = false := rfl
    show readTextValue table false (k + 1) ('-' :: 'i' :: 'n' :: 'f' :: rest) = _
    rw [readTextValue]
    · simp [hname, hdigit, hword rest hrest]
    all_goals simp
  | false =>
    refine ⟨⟨'+', _, rfl, by decide⟩, fun table fuel rest hfuel hrest => ?_⟩
    obtain ⟨k, rfl, -⟩ := @exists_fuel_text '+' ['i', 'n', 'f'] fuel hfuel
    have hname : isNameStart '+' = false := rfl
    have hdigit : '+'.isDigit = false := rfl
    show readTextValue table false (k + 1) ('+' :: 'i' :: 'n' :: 'f' :: rest) = _
    rw [readTextValue]
    · simp [hname, hdigit, hword rest hrest]
    all_goals simp

/-- **The text of a number is read**, that of an integer as it is. -/
theorem readsAs_number (t : NumberText) {mark : Char} (hmark : IsMark mark) (negative : Bool) :
    ∃ v, IsIntegerOf t negative v ∧ ReadsAs (Double.signChars negative ++ t.chars mark) v := by
  obtain ⟨v, hint, hread⟩ := readTextNumber_text t hmark negative
  have htime := fun rest => @startsTimestamp_chars t mark hmark rest
  obtain ⟨d, ds, hd, hchars⟩ := t.exists_chars_cons mark
  obtain ⟨-, hspace, -, -, -, -, -, hslash, hcolon, hbracket⟩ := isDigit_ne hd
  simp only [hchars, List.cons_append] at hread htime
  rw [hchars]
  cases negative with
  | true =>
    refine ⟨v, hint, ⟨'-', _, rfl, by decide⟩, fun table fuel rest hfuel hrest => ?_⟩
    obtain ⟨k, rfl, -⟩ := @exists_fuel_text '-' (d :: ds) fuel hfuel
    exact readTextValue_minus k (ds ++ rest) hd (hread rest hrest)
  | false =>
    refine ⟨v, hint, ⟨d, ds, rfl, hspace, hslash, hcolon, hbracket⟩,
      fun table fuel rest hfuel hrest => ?_⟩
    obtain ⟨k, rfl, -⟩ := @exists_fuel_text d ds fuel hfuel
    refine readTextValue_digit k (ds ++ rest) hd ?_
    rw [htime rest hrest]
    exact hread rest hrest

theorem toList_toString_int (n : Int) :
    (toString n).toList = Double.signChars (n < 0) ++ decimalDigits n.natAbs := by
  cases n with
  | ofNat m =>
    have hsign : ¬ Int.ofNat m < 0 := Int.not_lt.2 (Int.natCast_nonneg m)
    rw [decide_eq_false hsign]
    exact String.toList_ofList
  | negSucc m =>
    have hsign : Int.negSucc m < 0 := by omega
    have hchars : (toString (Int.negSucc m)).toList = ("-" ++ toString (m + 1)).toList := rfl
    rw [decide_eq_true hsign, hchars, String.toList_append]
    exact congrArg ('-' :: ·) String.toList_ofList

/-- **An integer is read back** from its digits. -/
theorem readsAs_int (n : Int) : ReadsAs (toString n).toList (.int n) := by
  obtain ⟨v, hint, hread⟩ := readsAs_number (.ofWhole _ (isWhole_decimalDigits n.natAbs))
    (.inl rfl : IsMark 'e') (n < 0)
  have hdigits : Nat.ofDigitChars 10 (decimalDigits n.natAbs) 0 = n.natAbs :=
    Nat.ofDigitChars_ten_toDigits
  have hsigned : signed (n < 0) n.natAbs = n := by
    unfold signed
    by_cases hsign : n < 0
    · simp only [hsign, decide_true, if_true]
      omega
    · simp only [hsign, decide_false, Bool.false_eq_true, if_false]
      omega
  have hv : v = .int (signed (n < 0) (Nat.ofDigitChars 10 (decimalDigits n.natAbs) 0)) :=
    hint rfl rfl
  rw [hdigits, hsigned] at hv
  rw [NumberText.chars_ofWhole, hv] at hread
  rw [toList_toString_int]
  exact hread

/-- A number is read as some value. -/
theorem exists_readsAs_number (t : NumberText) {mark : Char} (hmark : IsMark mark)
    (negative : Bool) : ∃ v, ReadsAs (Double.signChars negative ++ t.chars mark) v := by
  obtain ⟨v, -, hread⟩ := readsAs_number t hmark negative
  exact ⟨v, hread⟩

/-- A number whose exponent is zero, with the given sign in front of it. -/
def scaled (t : NumberText) (sign : List Char) (h : sign = [] ∨ sign = ['+']) : NumberText :=
  ⟨t.whole, t.fraction, sign, ['0'], t.isWhole, t.isFraction, by simpa using h.imp_right .inl,
    isDigits_zeros 1⟩

/-- A text without the mark of an exponent has room for one. -/
theorem chars_scaled {t : NumberText} {mark : Char} (h : mark ∉ t.chars mark) (sign : List Char)
    (hs : sign = [] ∨ sign = ['+']) :
    (scaled t sign hs).chars mark = t.chars mark ++ mark :: (sign ++ ['0']) := by
  have hnone : t.exponent = [] := by
    by_contra hsome
    refine h (List.mem_append_right _ (List.mem_append_right _ ?_))
    rw [NumberText.exponentChars, if_neg hsome]
    exact List.mem_cons_self
  have hempty : t.exponentChars mark = [] := by rw [NumberText.exponentChars, if_pos hnone]
  have hscaled : (scaled t sign hs).exponentChars mark = mark :: (sign ++ ['0']) := rfl
  show t.whole ++ (t.fractionChars ++ (scaled t sign hs).exponentChars mark) = _
  rw [hscaled, NumberText.chars, hempty, List.append_nil, List.append_assoc]

/-- **The text of a double is read** as some value. -/
theorem readsAs_double (d : Double) : ∃ v, ReadsAs (doubleText d).toList v := by
  unfold doubleText
  by_cases hnan : d.isNaN = true
  · rw [if_pos hnan]
    exact ⟨_, readsAs_word (p := ("nan", .double Double.nan)) (by simp [words])⟩
  rw [if_neg hnan]
  by_cases hinf : d.isInfinite = true
  · rw [if_pos hinf]
    exact ⟨_, readsAs_infinity d.isNegative⟩
  rw [if_neg hinf]
  by_cases hzero : d.isZero = true
  · rw [if_pos hzero]
    have hchars : (if d.isNegative then "-0e0" else "0e0").toList =
        Double.signChars d.isNegative ++
          (scaled (.ofWhole ['0'] isWhole_zero) [] (.inl rfl)).chars 'e' := by
      cases d.isNegative
      · rfl
      · rfl
    rw [hchars]
    exact exists_readsAs_number _ (.inl rfl) _
  · rw [if_neg hzero]
    rw [Bool.not_eq_true] at hzero
    obtain ⟨t, htext⟩ := Double.general_chars hzero (show 0 < 20 by decide)
    by_cases hmark : (d.general 20).toList.contains 'e' = true
    · simp only [hmark, if_true]
      rw [htext]
      exact exists_readsAs_number t (.inl rfl) _
    · have hnone : 'e' ∉ t.chars 'e' := by
        intro hmem
        rw [htext, List.contains_iff_mem] at hmark
        exact hmark (List.mem_append_right _ hmem)
      have hchars := chars_scaled hnone ['+'] (.inr rfl)
      simp only [hmark, Bool.false_eq_true, if_false]
      rw [String.toList_append, htext, List.append_assoc]
      show ∃ v, ReadsAs (_ ++ (t.chars 'e' ++ 'e' :: (['+'] ++ ['0']))) v
      rw [← hchars]
      exact exists_readsAs_number _ (.inl rfl) _

/-- The mark of a decimal's exponent. -/
def decimalMark (c : Char) : Char := if c = 'E' then 'd' else c

/-- The mark of an exponent is exchanged by exchanging the letter. -/
theorem map_decimalMark (negative : Bool) (t : NumberText) :
    (Double.signChars negative ++ t.chars 'E').map decimalMark =
      Double.signChars negative ++ t.chars 'd' := by
  have hother : ∀ s : List Char, 'E' ∉ s → s.map decimalMark = s := by
    intro s hs
    rw [List.map_congr_left (g := id), List.map_id]
    rintro c hc
    exact if_neg (fun h => hs (by rw [← h]; exact hc))
  have hdigits : ∀ s, IsDigits s → 'E' ∉ s := fun s hs hmem => absurd (hs _ hmem) (by decide)
  have hsign : 'E' ∉ Double.signChars negative := by cases negative <;> decide
  have hfraction : 'E' ∉ t.fractionChars := by
    unfold NumberText.fractionChars
    split
    · exact List.not_mem_nil
    · rw [List.mem_cons, not_or]
      exact ⟨by decide, hdigits _ t.isFraction⟩
  have hexponent : (t.exponentChars 'E').map decimalMark = t.exponentChars 'd' := by
    have hshown : 'E' ∉ t.sign ++ t.exponent := by
      rw [List.mem_append, not_or]
      refine ⟨?_, hdigits _ t.isExponent⟩
      obtain h | h | h := t.isSign <;> rw [h] <;> decide
    unfold NumberText.exponentChars
    split
    · rfl
    · rw [List.map_cons, hother _ hshown]
      rfl
  unfold NumberText.chars
  rw [List.map_append, List.map_append, List.map_append, hother _ hsign,
    hother _ (hdigits _ t.isWhole.1), hother _ hfraction, hexponent]

/-- **The text of a decimal is read** as some value. -/
theorem readsAs_decimal {d : Decimal} {s : String} (h : decimalText? d = some s) :
    ∃ v, ReadsAs s.toList v := by
  cases d with
  | finite negative c e =>
    obtain ⟨t, htext⟩ := Decimal.text_chars negative c e
    obtain ⟨chars, hchars⟩ : ∃ chars,
        (Decimal.text (.finite negative c e)).toList.map decimalMark = chars := ⟨_, rfl⟩
    have hs : String.ofList (if chars.contains '.' || chars.contains 'd' then chars
        else chars ++ ['d', '0']) = s := by
      rw [← hchars]
      exact Option.some.inj h
    rw [htext, map_decimalMark] at hchars
    rw [← hs, String.toList_ofList, ← hchars]
    by_cases hmark : 'd' ∈ t.chars 'd'
    · have hcontains : (Double.signChars negative ++ t.chars 'd').contains 'd' = true := by
        rw [List.contains_iff_mem]
        exact List.mem_append_right _ hmark
      rw [hcontains, Bool.or_true, if_pos rfl]
      exact exists_readsAs_number t (.inr rfl) negative
    · split
      · exact exists_readsAs_number t (.inr rfl) negative
      · have hscaled := chars_scaled hmark [] (.inl rfl)
        rw [List.append_assoc]
        show ∃ v, ReadsAs (_ ++ (t.chars 'd' ++ 'd' :: ([] ++ ['0']))) v
        rw [← hscaled]
        exact exists_readsAs_number _ (.inr rfl) negative
  | infinity _ => cases h
  | nan => cases h

/-- Behind a value that is read no annotation goes on. -/
theorem annotation?_of_ends {rest : List Char} (h : Ends rest) : annotation? rest = none := by
  unfold annotation?
  rw [skip_of_plain h.plain]
  split
  · rename_i heq
    exact absurd (h _ _ (Option.some.inj heq)) (by decide)
  · rfl

/-- A bare name is a symbol: it is none of the words. -/
theorem readNamed_bare {s : String} (h : isBareName s = true) (table : List String)
    {rest : List Char} (hrest : Ends rest) :
    readNamed table (s.toList ++ rest) = some (.symbol s, true, rest) := by
  obtain ⟨htake, htext⟩ := takeName_bare h table hrest.namePart
  obtain ⟨-, -, -, -, -, -, hword⟩ := isBareName_iff.1 h
  have hne : ∀ w ∈ reservedWords, s.toList ≠ w.toList := by
    intro w hw heq
    rw [String.toList_inj] at heq
    rw [heq, List.contains_iff_mem.2 hw] at hword
    cases hword
  unfold readNamed
  rw [htake]
  simp only [hne "null" (by decide), hne "true" (by decide), hne "false" (by decide),
    hne "nan" (by decide), if_false, htext, Option.bind_eq_bind, Option.bind_some]
  rfl

/-- **A symbol is read back**, quoted or not. -/
theorem readsAs_symbol (s : String) : ReadsAs (nameText s) (.symbol s) := by
  unfold nameText
  by_cases hbare : isBareName s = true
  · obtain ⟨c, tail, hs, hc, -⟩ := isBareName_iff.1 hbare
    obtain ⟨hquote, hmark, hbrace, -, hopen, hbracket, hparen, hcolon, hslash, hspace⟩ :=
      isNameStart_ne hc
    rw [if_pos hbare]
    refine ⟨⟨c, tail, hs, hspace, hslash, hcolon, hbracket⟩, fun table fuel rest hfuel hrest => ?_⟩
    have hread := readNamed_bare hbare table hrest
    rw [hs] at hfuel
    rw [hs, List.cons_append] at hread ⊢
    obtain ⟨k, rfl, -⟩ := exists_fuel_text hfuel
    rw [readTextValue]
    · simp only [hc, if_true, hread, annotation?_of_ends hrest, Option.bind_eq_bind,
        Option.bind_some]
      rfl
    · exact fun _ h => absurd h hbrace
    · exact fun h => absurd h hbrace
    · exact fun h => absurd h hopen
    · exact fun h => absurd h hparen
    · exact fun h => absurd h hquote
    · exact fun _ h => absurd h hmark
    · exact fun h => absurd h hmark
  · rw [if_neg hbare]
    refine ⟨⟨'\'', _, rfl, by decide⟩, fun table fuel rest hfuel hrest => ?_⟩
    have hread := readQuoted_length (.inr rfl : IsQuote '\'') s rest
    have hnoMark : ∀ tail, rest ≠ '\'' :: tail := by
      intro tail heq
      obtain ⟨-, -, -, -, -, -, -, -, hc⟩ := ends_char (hrest _ _ heq)
      exact hc rfl
    obtain ⟨k, rfl, -⟩ :=
      @exists_fuel_text '\'' (s.toList.flatMap (escape '\'') ++ ['\'']) fuel hfuel
    rw [quoted, List.append_assoc, List.cons_append, List.singleton_append, readTextValue]
    · simp only [hread, annotation?_of_ends hrest, Option.bind_eq_bind, Option.bind_some,
        String.ofList_toList]
      rfl
    · exact fun tail heq => quoted_ne hnoMark tail heq

theorem readsAs_text (s : String) : ReadsAs (quoted '"' s) (.text s) := by
  have hread := fun rest => readQuoted_length (.inl rfl : IsQuote '"') s rest
  refine ⟨⟨'"', _, rfl, by decide⟩, fun table fuel rest hfuel _ => ?_⟩
  obtain ⟨k, rfl, -⟩ := @exists_fuel_text '"' (s.toList.flatMap (escape '"') ++ ['"']) fuel hfuel
  rw [quoted, List.append_assoc, List.cons_append, List.singleton_append, readTextValue,
    hread rest]
  show some ([], Value.text (String.ofList s.toList), rest) = _
  rw [String.ofList_toList]

/-- **Bytes are read back** in base 64 between two pairs of braces. -/
theorem readsAs_blob (s : Bytes) :
    ReadsAs ('{' :: '{' :: Base64.encodeChars s ++ ['}', '}']) (.blob s) := by
  refine ⟨⟨'{', _, rfl, by decide⟩, fun table fuel rest hfuel _ => ?_⟩
  obtain ⟨k, rfl, -⟩ :=
    @exists_fuel_text '{' ('{' :: Base64.encodeChars s ++ ['}', '}']) fuel hfuel
  have hchars : '{' :: '{' :: Base64.encodeChars s ++ ['}', '}'] ++ rest =
      '{' :: '{' :: (Base64.encodeChars s ++ '}' :: '}' :: rest) := by simp
  have hread := readBlob_encodeChars s rest
  obtain ⟨c, tail, hcons, hspace, hquote, hmark⟩ : ∃ c tail,
      Base64.encodeChars s ++ '}' :: '}' :: rest = c :: tail ∧ isTextSpace c = false ∧
        c ≠ '"' ∧ c ≠ '\'' := by
    cases hs : Base64.encodeChars s with
    | nil => exact ⟨'}', _, rfl, by decide⟩
    | cons c cs =>
      have hmem : c ∈ Base64.encodeChars s := by rw [hs]; exact List.mem_cons_self
      obtain ⟨hspace, -, hquote, hmark⟩ := encodeChars_ne hmem
      exact ⟨c, _, rfl, hspace, hquote, hmark⟩
  rw [hchars, readTextValue]
  rw [hcons] at hread ⊢
  rw [List.dropWhile_cons_of_neg (by rw [hspace]; decide)]
  split
  · rename_i heq
    exact absurd (List.cons.inj heq).1 hquote
  · rename_i heq
    exact absurd (List.cons.inj heq).1 hmark
  · rw [hread]
    rfl

/-! ### Timestamps -/

/-- The characters of an offset in minutes; an unknown one is a negative zero. -/
def zoneChars (offset : Option Int) : List Char :=
  (match offset with
    | none => "-00:00"
    | some o => if o = 0 then "Z" else Timestamp.offsetText o).toList

theorem chars_timestamp (t : Timestamp) (rest : List Char) :
    (timestampText t).toList ++ rest =
      t.clockChars ('.' :: ((zeroPadded 6 t.timeOfDay.microsecond).toList ++
        (zoneChars t.minuteOffset.offset ++ rest))) := by
  have hpoint : ".".toList = ['.'] := rfl
  rw [← Timestamp.chars_clock]
  unfold timestampText zoneChars
  cases t.minuteOffset.offset with
  | none =>
    simp only [String.toList_append, hpoint, List.append_assoc, List.cons_append, List.nil_append]
  | some o =>
    simp only [String.toList_append, hpoint, List.append_assoc, List.cons_append, List.nil_append]

/-- Behind a sign stand the hours and the minutes of an offset that is not zero. -/
theorem readTextOffset_sign {c : Char} {negative : Bool}
    (hc : c = '+' ∧ negative = false ∨ c = '-' ∧ negative = true) {s after rest : List Char}
    {h m : Nat} (hh : fixedDigits? 2 s = some (h, ':' :: after))
    (hm : fixedDigits? 2 after = some (m, rest)) (hbounds : ¬ (24 ≤ h ∨ 60 ≤ m))
    (hshown : (h = 0 ∧ m = 0) = False) :
    readTextOffset (c :: s) = some (some (signed negative (h * 3600 + m * 60)), rest) := by
  obtain ⟨rfl, rfl⟩ | ⟨rfl, rfl⟩ := hc
  · rw [readTextOffset, hh]
    · simp [Timestamp.expectChar?_cons, hm, hbounds]
    · exact fun h => absurd h (by decide)
  · rw [readTextOffset, hh]
    · simp [Timestamp.expectChar?_cons, hm, hbounds, Bool.and_eq_true, hshown]
    · exact fun h => absurd h (by decide)

/-- **An offset is read back**, an unknown one included. -/
theorem readTextOffset_zone {offset : Option Int}
    (h : ∀ o, offset = some o → o % 60 = 0 ∧ o.natAbs < 86400) (rest : List Char) :
    readTextOffset (zoneChars offset ++ rest) = some (offset, rest) := by
  unfold zoneChars
  cases offset with
  | none => rfl
  | some o =>
    obtain ⟨hwhole, hday⟩ := h o rfl
    by_cases hzero : o = 0
    · simp only [hzero, if_true]
      rfl
    · have hhour := fixedDigits?_zeroPadded (show 0 < 2 by decide)
        (show o.natAbs / 3600 < 10 ^ 2 by omega)
        (':' :: ((zeroPadded 2 (o.natAbs / 60 % 60)).toList ++ rest))
      have hminute := fixedDigits?_zeroPadded (show 0 < 2 by decide)
        (show o.natAbs / 60 % 60 < 10 ^ 2 by omega) rest
      have hbounds : ¬ (24 ≤ o.natAbs / 3600 ∨ 60 ≤ o.natAbs / 60 % 60) := by omega
      have hshown : (o.natAbs / 3600 = 0 ∧ o.natAbs / 60 % 60 = 0) = False := by
        rw [eq_iff_iff, iff_false]
        omega
      have hread := fun c negative hc =>
        @readTextOffset_sign c negative hc _ _ _ _ _ hhour hminute hbounds hshown
      have hsize : o.natAbs / 3600 * 3600 + o.natAbs / 60 % 60 * 60 = o.natAbs := by omega
      rw [hsize] at hread
      simp only [hzero, if_false]
      rw [Timestamp.chars_offset hwhole rest]
      by_cases hsign : o < 0
      · have hvalue : signed true o.natAbs = o := by
          show -(o.natAbs : Int) = o
          omega
        rw [if_pos hsign, hread '-' true (.inr ⟨rfl, rfl⟩), hvalue]
      · have hvalue : signed false o.natAbs = o := by
          show (o.natAbs : Int) = o
          omega
        rw [if_neg hsign, hread '+' false (.inl ⟨rfl, rfl⟩), hvalue]

/-- No offset starts with a digit. -/
theorem endsDigits_zone {offset : Option Int} (h : ∀ o, offset = some o → o % 60 = 0)
    (rest : List Char) : EndsDigits (zoneChars offset ++ rest) := by
  unfold zoneChars
  cases offset with
  | none => exact endsDigits_cons (show '-'.isDigit = false from rfl) _
  | some o =>
    by_cases hzero : o = 0
    · simp only [hzero, if_true]
      exact endsDigits_cons (show 'Z'.isDigit = false from rfl) _
    · simp only [hzero, if_false]
      rw [Timestamp.chars_offset (h o rfl) rest]
      exact endsDigits_cons (by split <;> rfl) _

/-- A timestamp that Ion text shows: its clock has a year of four digits, and its offset, in whole
minutes, is less than a day. -/
def ShowsClock (t : Timestamp) : Prop :=
  t.inRange = true ∧ ∀ o, t.offset = some o → -86400 < o / 60 * 60 ∧ o / 60 * 60 < 86400

theorem ShowsClock.offset {t : Timestamp} (h : ShowsClock t) :
    ∀ o, t.minuteOffset.offset = some o → o % 60 = 0 ∧ o.natAbs < 86400 := by
  intro o ho
  obtain ⟨p, hp, rfl⟩ := Option.map_eq_some_iff.1 ho
  obtain ⟨hlow, hhigh⟩ := h.2 p hp
  omega

/-- Four digits and a hyphen start a timestamp. -/
theorem startsTimestamp_digits {s : List Char} (hlength : s.length = 4) (hs : IsDigits s)
    (rest : List Char) : startsTimestamp (s ++ '-' :: rest) = true := by
  match s, hlength with
  | [a, b, c, d], _ =>
    have hdigit : ∀ e, e ∈ [a, b, c, d] → e.isDigit = true := hs
    simp [startsTimestamp, hdigit]

/-- **A timestamp is read back**, in minutes of offset. -/
theorem readTextTimestamp_text {t : Timestamp} (h : ShowsClock t) {rest : List Char}
    (hrest : Ends rest) : readTextTimestamp ((timestampText t).toList ++ rest) =
      some (.timestamp t.minuteOffset, rest) := by
  obtain ⟨hyear, hmonth, hday, hhour, hminute, hsecond, hmicro⟩ := Timestamp.widths h.1
  have hzone := readTextOffset_zone h.offset rest
  have hparts := Timestamp.ofParts?_parts h.1 t.minuteOffset.offset
  have hends := hrest.endsNumber
  have hfraction := Timestamp.readFraction_padded hmicro
    (endsDigits_zone (fun o ho => (h.offset o ho).1) rest)
  have hread := fun tail => fixedDigits?_zeroPadded (show 0 < 2 by decide) hhour tail
  have hdigit := isDigits_zeroPadded 2 t.timeOfDay.hour
  -- the hour starts with a digit
  obtain ⟨d, ds, hds⟩ : ∃ d ds, (zeroPadded 2 t.timeOfDay.hour).toList = d :: ds := by
    apply List.exists_cons_of_length_pos
    rw [length_zeroPadded (by decide) hhour]
    decide
  rw [hds] at hdigit
  have hd : d.isDigit = true := hdigit d List.mem_cons_self
  simp only [hds, List.cons_append] at hread
  have htwo : ∀ {n : Nat}, n < 10 ^ 2 → ∀ tail,
      fixedDigits? 2 ((zeroPadded 2 n).toList ++ tail) = some (n, tail) :=
    fun hn tail => fixedDigits?_zeroPadded (by decide) hn tail
  rw [chars_timestamp, Timestamp.clockChars, hds]
  unfold readTextTimestamp
  -- one step for each part, in the order of the text
  refine Option.bind_eq_some_iff.2 ⟨_, fixedDigits?_zeroPadded (by decide) hyear _, ?_⟩
  refine Option.bind_eq_some_iff.2 ⟨_, Timestamp.expectChar?_cons '-' _, ?_⟩
  refine Option.bind_eq_some_iff.2 ⟨_, htwo hmonth _, ?_⟩
  refine Option.bind_eq_some_iff.2 ⟨_, Timestamp.expectChar?_cons '-' _, ?_⟩
  refine Option.bind_eq_some_iff.2 ⟨_, htwo hday _, ?_⟩
  refine (if_pos hd).trans ?_
  refine Option.bind_eq_some_iff.2 ⟨_, hread _, ?_⟩
  refine Option.bind_eq_some_iff.2 ⟨_, Timestamp.expectChar?_cons ':' _, ?_⟩
  refine Option.bind_eq_some_iff.2 ⟨_, htwo hminute _, ?_⟩
  refine Option.bind_eq_some_iff.2 ⟨_, htwo hsecond _, ?_⟩
  refine Option.bind_eq_some_iff.2 ⟨_, hfraction, ?_⟩
  refine Option.bind_eq_some_iff.2 ⟨_, rfl, ?_⟩
  refine Option.bind_eq_some_iff.2 ⟨_, hzone, ?_⟩
  refine Option.bind_eq_some_iff.2 ⟨_, hparts, ?_⟩
  exact if_pos hends

theorem readsAs_timestamp {t : Timestamp} (h : ShowsClock t) :
    ReadsAs (timestampText t).toList (.timestamp t.minuteOffset) := by
  have hread := fun rest => @readTextTimestamp_text t h rest
  have hlength := length_zeroPadded (show 0 < 4 by decide) (Timestamp.widths h.1).1
  have hdigits := isDigits_zeroPadded 4 t.date.year.toNat
  have hstarts : ∀ rest, startsTimestamp ((timestampText t).toList ++ rest) = true := by
    intro rest
    rw [chars_timestamp, Timestamp.clockChars]
    exact startsTimestamp_digits hlength hdigits _
  obtain ⟨d, ds, hchars, hd⟩ : ∃ d ds, (timestampText t).toList = d :: ds ∧ d.isDigit = true := by
    obtain ⟨d, ds, hyear⟩ := List.exists_cons_of_length_pos (by rw [hlength]; decide)
    have hfirst := chars_timestamp t []
    rw [List.append_nil, Timestamp.clockChars, hyear, List.cons_append] at hfirst
    exact ⟨d, _, hfirst, hdigits d (by rw [hyear]; exact List.mem_cons_self)⟩
  obtain ⟨-, hspace, -, -, -, -, -, hslash, hcolon, hbracket⟩ := isDigit_ne hd
  simp only [hchars, List.cons_append] at hread hstarts
  rw [hchars]
  refine ⟨⟨d, ds, rfl, hspace, hslash, hcolon, hbracket⟩,
    fun table fuel rest hfuel hrest => ?_⟩
  obtain ⟨k, rfl, -⟩ := exists_fuel_text hfuel
  refine readTextValue_digit k (ds ++ rest) hd ?_
  rw [hstarts rest]
  exact hread rest hrest

/-! ### Lists and structs -/

section Containers

variable {R : Value → Value → Prop}

/-- The items of a list are read one by one. -/
theorem readTextItems_written {items : List Value}
    (h : ∀ v ∈ items, ∀ cs, textOf v = some cs → ∃ w, R v w ∧ ReadsAs cs w)
    {cs : List Char} (hw : itemsText items = some cs) :
    (∀ rest, skip (cs ++ ']' :: rest) = some (cs ++ ']' :: rest)) ∧
      ∃ read, List.Forall₂ R items read ∧ ∀ table fuel rest, 2 * cs.length < fuel →
        readTextItems table fuel (cs ++ ']' :: rest) = some (read, rest) := by
  have hclose := fun rest => skip_end (show ']' = ',' ∨ _ by decide) rest
  have hcomma := fun rest => skip_end (show ',' = ',' ∨ _ by decide) rest
  induction items generalizing cs with
  | nil =>
    rw [itemsText] at hw
    cases hw
    refine ⟨hclose, [], .nil, fun table fuel rest hfuel => ?_⟩
    obtain ⟨n, rfl⟩ : ∃ n, fuel = n + 1 := ⟨fuel - 1, by omega⟩
    rw [List.nil_append, readTextItems]
  | cons x xs ih =>
    rw [List.forall_mem_cons] at h
    rw [itemsText] at hw
    obtain ⟨head, hhead, hw⟩ := Option.bind_eq_some_iff.1 hw
    obtain ⟨tail, htail, hw⟩ := Option.bind_eq_some_iff.1 hw
    obtain rfl := Option.some.inj hw
    obtain ⟨w, hrel, hread⟩ := h.1 head hhead
    obtain ⟨hskip, read, hreads, hrest⟩ := ih h.2 htail
    have hpos := hread.length_pos
    have hnoEnd : ∀ rest tail, head ++ rest ≠ ']' :: tail := by
      obtain ⟨c, cs, rfl, -, -, -, hc⟩ := hread.starts
      intro rest tail heq
      exact hc (List.cons.inj heq).1
    -- the last item ends at the bracket, the others at a comma
    by_cases hlast : xs = []
    · subst hlast
      obtain rfl : [] = tail := Option.some.inj htail
      cases hreads
      simp only [List.isEmpty_nil, if_true, List.append_nil]
      refine ⟨fun rest => hread.skip _, [w], .cons hrel .nil, fun table fuel rest hfuel => ?_⟩
      obtain ⟨n, rfl⟩ : ∃ n, fuel = n + 1 := ⟨fuel - 1, by omega⟩
      rw [readTextItems]
      · rw [hread.reads table n _ (by omega) (ends_cons (by decide) rest)]
        simp [hclose]
      · exact fun tail heq => hnoEnd _ _ heq
    · have hmore : xs.isEmpty = false := by simp [hlast]
      simp only [hmore, Bool.false_eq_true, if_false, List.append_assoc, List.cons_append,
        List.nil_append, List.length_append, List.length_cons]
      refine ⟨fun rest => hread.skip _, w :: read, .cons hrel hreads,
        fun table fuel rest hfuel => ?_⟩
      obtain ⟨n, rfl⟩ : ∃ n, fuel = n + 1 := ⟨fuel - 1, by omega⟩
      have hothers := hrest table n rest (by omega)
      rw [readTextItems]
      · rw [hread.reads table n _ (by omega) (ends_cons (by decide) _)]
        simp [hcomma, hskip, hothers]
      · exact fun tail heq => hnoEnd _ _ heq

/-- The fields of a struct are read one by one, a name before its value. -/
theorem readTextFields_written {fields : Fields}
    (h : ∀ p ∈ fields, ∀ cs, textOf p.2 = some cs → ∃ w, R p.2 w ∧ ReadsAs cs w)
    {cs : List Char} (hw : fieldsText fields = some cs) :
    (∀ rest, skip (cs ++ '}' :: rest) = some (cs ++ '}' :: rest) ∧
      ∀ tail, cs ++ '}' :: rest ≠ '{' :: tail) ∧
      ∃ read, List.Forall₂ (Fields.Related R) fields read ∧
        ∀ table fuel rest, 2 * cs.length < fuel →
          readTextFields table fuel (cs ++ '}' :: rest) = some (read, rest) := by
  have hclose := fun rest => skip_end (show '}' = ',' ∨ _ by decide) rest
  have hcomma := fun rest => skip_end (show ',' = ',' ∨ _ by decide) rest
  induction fields generalizing cs with
  | nil =>
    rw [fieldsText] at hw
    cases hw
    refine ⟨fun rest => ⟨hclose rest, fun tail heq => ?_⟩, [], .nil,
      fun table fuel rest hfuel => ?_⟩
    · exact absurd (List.cons.inj heq).1 (by decide)
    · obtain ⟨n, rfl⟩ : ∃ n, fuel = n + 1 := ⟨fuel - 1, by omega⟩
      rw [List.nil_append, readTextFields]
  | cons p fields ih =>
    obtain ⟨k, x⟩ := p
    rw [List.forall_mem_cons] at h
    cases k with
    | text name =>
      rw [fieldsText] at hw
      obtain ⟨head, hhead, hw⟩ := Option.bind_eq_some_iff.1 hw
      obtain ⟨tail, htail, hw⟩ := Option.bind_eq_some_iff.1 hw
      obtain rfl := Option.some.inj hw
      obtain ⟨w, hrel, hread⟩ := h.1 head hhead
      obtain ⟨hskip, read, hreads, hrest⟩ := ih h.2 htail
      -- a name starts neither a struct nor the end of one
      have hfirst := fun rest => nameText_first name rest
      have hfield := fun table rest => readFieldName_nameText table name rest
      by_cases hlast : fields = []
      · subst hlast
        obtain rfl : [] = tail := Option.some.inj htail
        cases hreads
        simp only [List.isEmpty_nil, if_true, List.append_nil, List.append_assoc, List.cons_append,
          List.length_append, List.length_cons]
        refine ⟨fun rest => ⟨(hfirst _).1, (hfirst _).2.1⟩, [(.text name, w)],
          .cons ⟨rfl, hrel⟩ .nil, fun table fuel rest hfuel => ?_⟩
        obtain ⟨n, rfl⟩ : ∃ n, fuel = n + 1 := ⟨fuel - 1, by omega⟩
        have hvalue := hread.reads table n ('}' :: rest) (by omega) (ends_cons (by decide) rest)
        rw [readTextFields]
        · simp [hfield, hread.skip, hvalue, hclose]
        · exact fun tail heq => (hfirst _).2.2 _ heq
      · have hmore : fields.isEmpty = false := by simp [hlast]
        simp only [hmore, Bool.false_eq_true, if_false, List.append_assoc, List.cons_append,
          List.nil_append, List.length_append, List.length_cons]
        refine ⟨fun rest => ⟨(hfirst _).1, (hfirst _).2.1⟩, (.text name, w) :: read,
          .cons ⟨rfl, hrel⟩ hreads, fun table fuel rest hfuel => ?_⟩
        obtain ⟨n, rfl⟩ : ∃ n, fuel = n + 1 := ⟨fuel - 1, by omega⟩
        have hvalue := hread.reads table n (',' :: (tail ++ '}' :: rest)) (by omega)
          (ends_cons (by decide) _)
        have hothers := hrest table n rest (by omega)
        rw [readTextFields]
        · simp [hfield, hread.skip, hvalue, hcomma, (hskip rest).1, hothers]
        · exact fun tail heq => (hfirst _).2.2 _ heq
    | _ => cases hw

/-- A list is read if its items are. -/
theorem readsAs_list {items : List Value}
    (h : ∀ v ∈ items, ∀ cs, textOf v = some cs → ∃ w, R v w ∧ ReadsAs cs w)
    {content : List Char} (hw : itemsText items = some content) :
    ∃ read, List.Forall₂ R items read ∧ ReadsAs ('[' :: content ++ [']']) (.list read) := by
  obtain ⟨hskip, read, hreads, hread⟩ := readTextItems_written h hw
  refine ⟨read, hreads, ⟨'[', _, rfl, by decide⟩, fun table fuel rest hfuel _ => ?_⟩
  obtain ⟨k, rfl, hk⟩ := @exists_fuel_text '[' (content ++ [']']) fuel hfuel
  rw [List.length_append, List.length_singleton] at hk
  rw [List.cons_append, List.cons_append, List.append_assoc, List.singleton_append, readTextValue,
    hskip]
  simp [hread table k rest (by omega)]

/-- A map is read if its values are. -/
theorem readsAs_map {fields : Fields}
    (h : ∀ p ∈ fields, ∀ cs, textOf p.2 = some cs → ∃ w, R p.2 w ∧ ReadsAs cs w)
    {content : List Char} (hw : fieldsText fields = some content) :
    ∃ read, List.Forall₂ (Fields.Related R) fields read ∧
      ReadsAs ('{' :: content ++ ['}']) (.map (Fields.ofPairs read)) := by
  obtain ⟨hfirst, read, hreads, hread⟩ := readTextFields_written h hw
  refine ⟨read, hreads, ⟨'{', _, rfl, by decide⟩, fun table fuel rest hfuel _ => ?_⟩
  obtain ⟨k, rfl, hk⟩ := @exists_fuel_text '{' (content ++ ['}']) fuel hfuel
  rw [List.length_append, List.length_singleton] at hk
  rw [List.cons_append, List.cons_append, List.append_assoc, List.singleton_append, readTextValue,
    (hfirst rest).1]
  · simp [hread table k rest (by omega)]
  · exact fun tail heq => (hfirst rest).2 tail heq

end Containers

/-! ### All values -/

/-- **The text of a value that a caller gives is read**, whatever follows that ends a value. -/
theorem readsAs_written {fixed free : Timestamp → Prop} {v : Value}
    (h : Value.Given fixed free v) : (∀ t, free t → ShowsClock t) →
      ∀ cs, textOf v = some cs → ∃ w, True ∧ ReadsAs cs w := by
  have hword : ∀ p ∈ words, ∃ w, True ∧ ReadsAs p.1.toList w :=
    fun p hp => ⟨p.2, trivial, readsAs_word hp⟩
  simp only [words, List.forall_mem_cons] at hword
  obtain ⟨hnull, htrue, hfalse, -⟩ := hword
  induction h with
  | null =>
    intro _ cs hw
    rw [textOf] at hw
    obtain rfl := Option.some.inj hw
    exact hnull
  | bool b =>
    intro _ cs hw
    rw [textOf] at hw
    obtain rfl := Option.some.inj hw
    cases b with
    | true => exact htrue
    | false => exact hfalse
  | int n =>
    intro _ cs hw
    rw [textOf] at hw
    obtain rfl := Option.some.inj hw
    exact ⟨_, trivial, readsAs_int n⟩
  | double d =>
    intro _ cs hw
    rw [textOf] at hw
    obtain rfl := Option.some.inj hw
    obtain ⟨w, hread⟩ := readsAs_double d
    exact ⟨w, trivial, hread⟩
  | decimal d =>
    intro _ cs hw
    rw [textOf] at hw
    obtain ⟨s, hs, rfl⟩ := Option.map_eq_some_iff.1 hw
    obtain ⟨w, hread⟩ := readsAs_decimal hs
    exact ⟨w, trivial, hread⟩
  | text s =>
    intro _ cs hw
    rw [textOf] at hw
    obtain rfl := Option.some.inj hw
    exact ⟨_, trivial, readsAs_text s⟩
  | loose t =>
    intro _ cs hw
    cases hw
  | symbol s =>
    intro _ cs hw
    rw [textOf] at hw
    obtain rfl := Option.some.inj hw
    exact ⟨_, trivial, readsAs_symbol s⟩
  | bytes kind s =>
    intro _ cs hw
    cases kind with
    | fixed =>
      cases hw
      exact ⟨_, trivial, readsAs_blob s⟩
    | array =>
      cases hw
      exact ⟨_, trivial, readsAs_blob s⟩
    | view => cases hw
  | timestamp ht =>
    intro hfree cs hw
    rw [textOf] at hw
    obtain rfl := Option.some.inj hw
    exact ⟨_, trivial, readsAs_timestamp (hfree _ ht)⟩
  | list _ ih =>
    intro hfree cs hw
    rw [textOf] at hw
    obtain ⟨content, hcontent, hw⟩ := Option.bind_eq_some_iff.1 hw
    obtain rfl := Option.some.inj hw
    obtain ⟨read, -, hread⟩ :=
      readsAs_list (R := fun _ _ => True) (fun v hv => ih v hv hfree) hcontent
    exact ⟨_, trivial, hread⟩
  | tuple _ ih =>
    intro hfree cs hw
    rw [textOf] at hw
    obtain ⟨content, hcontent, hw⟩ := Option.bind_eq_some_iff.1 hw
    obtain rfl := Option.some.inj hw
    obtain ⟨read, -, hread⟩ :=
      readsAs_list (R := fun _ _ => True) (fun v hv => ih v hv hfree) hcontent
    exact ⟨_, trivial, hread⟩
  | set _ _ =>
    intro _ cs hw
    cases hw
  | map _ _ _ ihx =>
    intro hfree cs hw
    rw [textOf] at hw
    obtain ⟨content, hcontent, hw⟩ := Option.bind_eq_some_iff.1 hw
    obtain rfl := Option.some.inj hw
    obtain ⟨read, -, hread⟩ :=
      readsAs_map (R := fun _ _ => True) (fun p hp => ihx p hp hfree) hcontent
    exact ⟨_, trivial, hread⟩

/-! ### Documents -/

/-- The blank in front of a value is skipped. -/
theorem ReadsAs.skip_blank {body : List Char} {v : Value} (h : ReadsAs body v) :
    Ion.skip (' ' :: body) = some body := by
  obtain ⟨c, tail, rfl, hspace, hslash, -⟩ := h.starts
  refine skip_of_dropWhile ?_ (plain_cons ⟨hspace, hslash⟩ tail)
  rw [List.dropWhile_cons_of_pos (by decide), List.dropWhile_cons_of_neg (by rw [hspace]; decide)]

/-- The version marker is read as a symbol with nothing annotated. -/
theorem readTextValue_version {body : List Char} {v : Value} (h : ReadsAs body v)
    (fuel : Nat) : readTextValue [] false (fuel + 1) (versionWord.toList ++ ' ' :: body) =
      some ([], .symbol versionWord, ' ' :: body) := by
  have hnone : annotation? (' ' :: body) = none := by
    unfold annotation?
    rw [h.skip_blank]
    obtain ⟨c, tail, rfl, -, -, hcolon, -⟩ := h.starts
    split
    · rename_i heq
      exact absurd (List.cons.inj (Option.some.inj heq)).1 hcolon
    · rfl
  have htake :
      takeName (versionWord.toList ++ ' ' :: body) = (versionWord.toList, ' ' :: body) := by
    have hword : versionWord.toList.all isNamePart = true := by decide
    apply takeName_append (List.all_eq_true.1 hword)
    intro c tail heq
    obtain ⟨rfl, -⟩ := List.cons.inj heq
    decide
  have hnamed : readNamed [] (versionWord.toList ++ ' ' :: body) =
      some (.symbol versionWord, true, ' ' :: body) := by
    unfold readNamed
    rw [htake]
    rfl
  obtain ⟨tail, htail⟩ : ∃ tail, versionWord.toList = '$' :: tail := ⟨_, rfl⟩
  have hdollar : isNameStart '$' = true := rfl
  rw [htail, List.cons_append] at hnamed ⊢
  rw [readTextValue]
  · simp [hdollar, hnamed, hnone]
  all_goals simp

/-- What is left behind the version marker is one value; a symbol may be one more marker. -/
theorem readTextStream_value {body : List Char} {v : Value} (h : ReadsAs body v) (fuel : Nat) :
    ∃ values, readTextStream [] (fuel + 2) (' ' :: body) = some values ∧
      (values = [v] ∨ v = .symbol versionWord ∧ values = []) := by
  have hvalue := h.reads [] (2 * body.length + 2) [] (by omega) ends_nil
  have hend : readTextStream [] (fuel + 1) [] = some [] := rfl
  have hsome : body.isEmpty = false := by
    obtain ⟨c, tail, rfl, -⟩ := h.starts
    rfl
  rw [List.append_nil] at hvalue
  rw [readTextStream, h.skip_blank]
  simp only [hsome, Bool.false_eq_true, if_false, hvalue, Option.bind_eq_bind, Option.bind_some]
  split
  · exact ⟨[], hend, .inr ⟨rfl, rfl⟩⟩
  · rename_i heq
    cases heq
  · rw [hend]
    exact ⟨_, rfl, .inl rfl⟩

/-- **A text document is read** as the one value that its text is read as. -/
theorem readText_document {body : List Char} {v : Value} (h : ReadsAs body v) :
    (∃ tail, (versionWord ++ " " ++ String.ofList body).toList = '$' :: tail) ∧
      ∃ values, readText (versionWord ++ " " ++ String.ofList body) = some values ∧
        (values = [v] ∨ v = .symbol versionWord ∧ values = []) := by
  have hchars : (versionWord ++ " " ++ String.ofList body).toList =
      versionWord.toList ++ ' ' :: body := by
    rw [String.toList_append, String.toList_append, List.append_assoc]
    exact congrArg (versionWord.toList ++ ' ' :: ·) String.toList_ofList
  have hskip :
      skip (versionWord.toList ++ ' ' :: body) = some (versionWord.toList ++ ' ' :: body) :=
    skip_of_plain (plain_cons (by decide) _)
  have hversion := readTextValue_version h (2 * (versionWord.toList ++ ' ' :: body).length + 1)
  obtain ⟨values, hvalue, hone⟩ :=
    readTextStream_value h ((versionWord.toList ++ body).length - 1)
  have hsome : (versionWord.toList ++ ' ' :: body).isEmpty = false := rfl
  have hsteps : (versionWord ++ " " ++ String.ofList body).length =
      (versionWord.toList ++ body).length - 1 + 2 := by
    rw [← String.length_toList, hchars, List.length_append, List.length_append, List.length_cons,
      show versionWord.toList.length = 8 from rfl]
    omega
  refine ⟨⟨_, hchars⟩, values, ?_, hone⟩
  unfold readText
  rw [hchars, readTextStream, hskip]
  simp only [hsome, Bool.false_eq_true, if_false, hversion, Option.bind_eq_bind, Option.bind_some]
  rw [hsteps]
  exact hvalue

/-- **A text document of a value that a caller gives is read** as at most one value. -/
theorem readText_of_write {fixed free : Timestamp → Prop} {v : Value}
    (h : Value.Given fixed free v) (hfree : ∀ t, free t → ShowsClock t) {text : String}
    (hw : writeText v = some text) :
    (∃ tail, text.toList = '$' :: tail) ∧
      ∃ values, readText text = some values ∧ values.length ≤ 1 := by
  obtain ⟨body, hbody, hw⟩ := Option.bind_eq_some_iff.1 hw
  obtain rfl := Option.some.inj hw
  obtain ⟨w, -, hread⟩ := readsAs_written h hfree body hbody
  obtain ⟨hdollar, values, hvalues, hone⟩ := readText_document hread
  refine ⟨hdollar, values, hvalues, ?_⟩
  rcases hone with rfl | ⟨-, rfl⟩
  · exact Nat.le_refl 1
  · exact Nat.zero_le 1

end ServiceClient.Ion.Text
