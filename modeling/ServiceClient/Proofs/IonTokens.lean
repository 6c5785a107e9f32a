import ServiceClient.Ion.ReadText
import ServiceClient.Proofs.Base64
import ServiceClient.Proofs.JsonString
import ServiceClient.Proofs.NumberText

/-!
# The tokens of Ion text read back

Texts, names and numbers, each read up to a tail that ends it.

* `Ends`: what stands behind a value that is written.
* `readQuoted_quoted`: a text between quote marks is read back.
* `readFieldName_nameText`: so is the name of a field, with its colon.
* `readTextNumber_text`: every number is read, an integer as it is.
* `readBlob_encodeChars`: base 64 between braces is read as its bytes.
-/

namespace ServiceClient.Ion

/-! ### What follows a value -/

/-- A comma or the end of a container stands behind a value, or nothing does. -/
def Ends (rest : List Char) : Prop := ∀ c tail, rest = c :: tail → c = ',' ∨ c = ']' ∨ c = '}'

theorem ends_nil : Ends [] := by intro c tail h; cases h

theorem ends_cons {c : Char} (h : c = ',' ∨ c = ']' ∨ c = '}') (tail : List Char) :
    Ends (c :: tail) := by
  intro d rest heq
  obtain ⟨rfl, -⟩ := List.cons.inj heq
  exact h

/-- No character that ends a value goes on with a number or a word. -/
theorem ends_char {c : Char} (h : c = ',' ∨ c = ']' ∨ c = '}') :
    c.isDigit = false ∧ isDigitOrBar c = false ∧ isNameStart c = false ∧ isTextSpace c = false ∧
      c ≠ '/' ∧ c ≠ '.' ∧ c ≠ '-' ∧ c ≠ 'T' ∧ c ≠ '\'' := by
  obtain rfl | rfl | rfl := h <;> decide

theorem Ends.endsNumber {rest : List Char} (h : Ends rest) : endsNumber rest = true := by
  cases rest with
  | nil => rfl
  | cons c tail => obtain rfl | rfl | rfl := h c tail rfl <;> rfl

/-- The text starts neither with a blank nor with a comment. -/
def Plain (s : List Char) : Prop := ∀ c tail, s = c :: tail → isTextSpace c = false ∧ c ≠ '/'

theorem Ends.plain {rest : List Char} (h : Ends rest) : Plain rest := by
  intro c tail heq
  obtain ⟨-, -, -, hspace, hslash, -⟩ := ends_char (h c tail heq)
  exact ⟨hspace, hslash⟩

theorem plain_cons {c : Char} (h : isTextSpace c = false ∧ c ≠ '/') (tail : List Char) :
    Plain (c :: tail) := by
  intro d rest heq
  obtain ⟨rfl, -⟩ := List.cons.inj heq
  exact h

theorem dropWhile_space {s : List Char} (h : Plain s) : s.dropWhile isTextSpace = s := by
  cases s with
  | nil => rfl
  | cons c tail => rw [List.dropWhile_cons_of_neg (by rw [(h c tail rfl).1]; decide)]

/-- Behind blanks nothing is skipped from a plain text. -/
theorem skip_of_dropWhile {s rest : List Char} (hdrop : s.dropWhile isTextSpace = rest)
    (h : Plain rest) : skip s = some rest := by
  unfold skip skipFill
  rw [hdrop]
  split
  · exact absurd rfl (h _ _ rfl).2
  · exact absurd rfl (h _ _ rfl).2
  · rfl

theorem skip_of_plain {s : List Char} (h : Plain s) : skip s = some s :=
  skip_of_dropWhile (dropWhile_space h) h

theorem skip_end {c : Char} (h : c = ',' ∨ c = ']' ∨ c = '}') (rest : List Char) :
    skip (c :: rest) = some (c :: rest) := skip_of_plain (ends_cons h rest).plain

/-! ### Texts between quote marks -/

/-- A mark that a text can stand between. -/
def IsQuote (quote : Char) : Prop := quote = '"' ∨ quote = '\''

theorem IsQuote.facts {quote : Char} (h : IsQuote quote) :
    quote ≠ '\\' ∧ 32 ≤ quote.toNat ∧
      ∀ rest, readEscape (quote :: rest) = some ([quote], rest) := by
  obtain rfl | rfl := h
  · exact ⟨by decide, by decide, fun rest => rfl⟩
  · exact ⟨by decide, by decide, fun rest => rfl⟩

/-- Two digits are enough for a control character. -/
theorem hexPadded_two {n : Nat} (h : n < 256) :
    hexPadded 2 n = [Nat.digitChar (n / 16), Nat.digitChar (n % 16)] := by
  unfold hexPadded
  by_cases hshort : n < 16
  · rw [Nat.toDigits_of_lt_base hshort, show n / 16 = 0 by omega, show n % 16 = n by omega]
    rfl
  · rw [Nat.toDigits_of_base_le (by decide) (by omega),
      Nat.toDigits_of_lt_base (show n / 16 < 16 by omega)]
    rfl

theorem readHex?_hexPadded {n : Nat} (h : n < 256) (rest : List Char) :
    readHex? 2 (hexPadded 2 n ++ rest) = some (n, rest) := by
  have hhigh := Json.hexValue?_digitChar (n / 16) (by omega)
  have hlow := Json.hexValue?_digitChar (n % 16) (by omega)
  have hvalue : n / 16 * 16 + n % 16 = n := by omega
  rw [hexPadded_two h]
  simp [readHex?, hhigh, hlow, hvalue]

/-- The escape of a control character is read as the character. -/
theorem readEscape_control {c : Char} {quote : Char} (hq : 32 ≤ quote.toNat) (hc : c.toNat < 32) :
    ∃ tail, escape quote c = '\\' :: tail ∧
      ∀ rest, readEscape (tail ++ rest) = some ([c], rest) := by
  have hne : ¬ (c = quote ∨ c = '\\') := by
    rintro (rfl | rfl)
    · omega
    · exact absurd hc (by decide)
  have hof : Char.ofNat c.toNat = c := Char.ofNat_toNat c
  unfold escape
  rw [if_neg hne, if_neg (by omega)]
  generalize c.toNat = n at hc hof
  subst hof
  split
  · exact ⟨['0'], rfl, fun rest => rfl⟩
  · exact ⟨['a'], rfl, fun rest => rfl⟩
  · exact ⟨['b'], rfl, fun rest => rfl⟩
  · exact ⟨['t'], rfl, fun rest => rfl⟩
  · exact ⟨['n'], rfl, fun rest => rfl⟩
  · exact ⟨['v'], rfl, fun rest => rfl⟩
  · exact ⟨['f'], rfl, fun rest => rfl⟩
  · exact ⟨['r'], rfl, fun rest => rfl⟩
  · refine ⟨'x' :: hexPadded 2 n, rfl, fun rest => ?_⟩
    have hvalid : n.isValidChar := .inl (by omega)
    rw [List.cons_append, readEscape, readHex?_hexPadded (by omega)]
    simp [charOf?, hvalid]

/-- **The escape of a character is read as the character.** -/
theorem readQuoted_escape {quote : Char} (hq : IsQuote quote) (c : Char) {fuel : Nat}
    {tail chars after : List Char} (h : readQuoted quote fuel tail = some (chars, after)) :
    readQuoted quote (fuel + 1) (escape quote c ++ tail) = some (c :: chars, after) := by
  obtain ⟨hback, hprint, hself⟩ := hq.facts
  -- what stands behind a backslash is read as the character
  have hescaped : ∀ part, (∀ rest, readEscape (part ++ rest) = some ([c], rest)) →
      readQuoted quote (fuel + 1) ('\\' :: (part ++ tail)) = some (c :: chars, after) := by
    intro part hpart
    rw [readQuoted, if_neg (Ne.symm hback), if_pos rfl, hpart tail]
    simp [h]
  by_cases hmark : c = quote ∨ c = '\\'
  · have hread : ∀ rest, readEscape ([c] ++ rest) = some ([c], rest) := by
      obtain rfl | rfl := hmark
      · exact hself
      · exact fun rest => rfl
    have hchars : escape quote c = ['\\', c] := by rw [escape, if_pos hmark]
    rw [hchars]
    exact hescaped [c] hread
  · by_cases hcontrol : c.toNat < 32
    · obtain ⟨part, hchars, hread⟩ := readEscape_control hprint hcontrol
      rw [hchars]
      exact hescaped part hread
    · have hchars : escape quote c = [c] := by rw [escape, if_neg hmark, if_pos (by omega)]
      rw [not_or] at hmark
      rw [hchars, List.singleton_append, readQuoted, if_neg hmark.1, if_neg hmark.2,
        if_neg (by omega), h]
      rfl

/-- **A text between quote marks is read back**, whatever follows it. -/
theorem readQuoted_quoted {quote : Char} (hq : IsQuote quote) (s rest : List Char) {fuel : Nat}
    (hf : s.length < fuel) :
    readQuoted quote fuel (s.flatMap (escape quote) ++ quote :: rest) = some (s, rest) := by
  induction s generalizing fuel with
  | nil =>
    obtain ⟨fuel, rfl⟩ : ∃ n, fuel = n + 1 := ⟨fuel - 1, by simp at hf; omega⟩
    rw [List.flatMap_nil, List.nil_append, readQuoted, if_pos rfl]
  | cons c s ih =>
    obtain ⟨fuel, rfl⟩ : ∃ n, fuel = n + 1 := ⟨fuel - 1, by simp at hf; omega⟩
    rw [List.flatMap_cons, List.append_assoc]
    exact readQuoted_escape hq c (ih (by simpa using hf))

theorem length_escape_pos (quote c : Char) : 0 < (escape quote c).length := by
  unfold escape
  split
  · simp
  · split
    · simp
    · split <;> simp

theorem length_le_flatMap_escape (quote : Char) (s : List Char) :
    s.length ≤ (s.flatMap (escape quote)).length := by
  induction s with
  | nil => simp
  | cons c s ih =>
    have := length_escape_pos quote c
    rw [List.flatMap_cons, List.length_append, List.length_cons]
    omega

/-- The rest of a quoted text, behind its first mark, is read with the steps that its length
allows. -/
theorem readQuoted_length {quote : Char} (hq : IsQuote quote) (s : String) (rest : List Char) :
    readQuoted quote ((s.toList.flatMap (escape quote) ++ quote :: rest).length + 1)
      (s.toList.flatMap (escape quote) ++ quote :: rest) = some (s.toList, rest) := by
  have hlength := length_le_flatMap_escape quote s.toList
  apply readQuoted_quoted hq
  rw [List.length_append]
  omega

/-- No escape starts with an apostrophe: it has a backslash in front. -/
theorem escape_ne (c : Char) : ∃ d tail, escape '\'' c = d :: tail ∧ d ≠ '\'' := by
  by_cases hmark : c = '\'' ∨ c = '\\'
  · exact ⟨'\\', [c], by rw [escape, if_pos hmark], by decide⟩
  · by_cases hcontrol : c.toNat < 32
    · obtain ⟨tail, hchars, -⟩ := readEscape_control (show 32 ≤ '\''.toNat by decide) hcontrol
      exact ⟨'\\', tail, hchars, by decide⟩
    · exact ⟨c, [], by rw [escape, if_neg hmark, if_pos (by omega)], fun h => hmark (.inl h)⟩

/-! ### Words and names -/

/-- A character that goes on with a word. -/
def isNamePart (c : Char) : Bool := isNameStart c || c.isDigit

theorem takeName_append {word rest : List Char} (hword : ∀ c ∈ word, isNamePart c = true)
    (hrest : ∀ c tail, rest = c :: tail → isNamePart c = false) :
    takeName (word ++ rest) = (word, rest) := by
  obtain ⟨htake, hdrop⟩ := takeWhile_span hword hrest
  exact Prod.ext htake hdrop

theorem Ends.namePart {rest : List Char} (h : Ends rest) :
    ∀ c tail, rest = c :: tail → isNamePart c = false := by
  intro c tail heq
  obtain ⟨hdigit, -, hname, -⟩ := ends_char (h c tail heq)
  unfold isNamePart
  rw [hname, hdigit]
  rfl

/-- A bare name is a word, of letters first, that is neither reserved nor a number. -/
theorem isBareName_iff {s : String} :
    isBareName s = true ↔ ∃ c tail, s.toList = c :: tail ∧ isNameStart c = true ∧
      (∀ d ∈ s.toList, isNamePart d = true) ∧ isNumbered s.toList = false ∧
      reservedWords.contains s = false := by
  unfold isBareName
  split
  · rename_i hnil
    simp [hnil]
  · rename_i c rest hcons
    simp only [hcons, Bool.and_eq_true, List.all_eq_true, Bool.not_eq_true', List.forall_mem_cons]
    constructor
    · rintro ⟨⟨⟨hc, hall⟩, hnumber⟩, hword⟩
      exact ⟨c, rest, rfl, hc, ⟨by rw [isNamePart, hc]; rfl, hall⟩, hnumber, hword⟩
    · rintro ⟨d, tail, heq, hd, ⟨-, hall⟩, hnumber, hword⟩
      obtain ⟨rfl, -⟩ := List.cons.inj heq
      exact ⟨⟨⟨hd, hall⟩, hnumber⟩, hword⟩

/-- A character that starts a name is none of the marks that start other values. -/
theorem isNameStart_ne {c : Char} (h : isNameStart c = true) :
    c ≠ '"' ∧ c ≠ '\'' ∧ c ≠ '{' ∧ c ≠ '}' ∧ c ≠ '[' ∧ c ≠ ']' ∧ c ≠ '(' ∧ c ≠ ':' ∧ c ≠ '/' ∧
      isTextSpace c = false := by
  have hne : ∀ d : Char, isNameStart d = false → c ≠ d := by
    rintro d hd rfl
    rw [hd] at h
    cases h
  have hspace : ∀ d : Char, isTextSpace d = true → isNameStart d = false := by
    intro d hd
    unfold isTextSpace at hd
    simp only [Bool.or_eq_true, decide_eq_true_eq] at hd
    have hnat : ∀ n, d.toNat = n → d = Char.ofNat n := fun n hn => by rw [← hn, Char.ofNat_toNat]
    obtain ((((rfl | rfl) | rfl) | rfl) | h11) | h12 := hd
    · decide
    · decide
    · decide
    · decide
    · rw [hnat 11 h11]
      decide
    · rw [hnat 12 h12]
      decide
  refine ⟨hne _ rfl, hne _ rfl, hne _ rfl, hne _ rfl, hne _ rfl, hne _ rfl, hne _ rfl, hne _ rfl,
    hne _ rfl, ?_⟩
  rw [← Bool.not_eq_true]
  intro hd
  rw [hspace c hd] at h
  cases h

/-- A name's text starts neither with a brace nor with what is skipped. -/
theorem nameText_first (s : String) (rest : List Char) :
    skip (nameText s ++ rest) = some (nameText s ++ rest) ∧
      (∀ tail, nameText s ++ rest ≠ '{' :: tail) ∧ ∀ tail, nameText s ++ rest ≠ '}' :: tail := by
  obtain ⟨c, tail, hname, hopen, hclose, hplain⟩ : ∃ c tail, nameText s = c :: tail ∧ c ≠ '{' ∧
      c ≠ '}' ∧ isTextSpace c = false ∧ c ≠ '/' := by
    unfold nameText
    by_cases hbare : isBareName s = true
    · obtain ⟨c, tail, hs, hc, -⟩ := isBareName_iff.1 hbare
      obtain ⟨-, -, hopen, hclose, -, -, -, -, hslash, hspace⟩ := isNameStart_ne hc
      exact ⟨c, tail, by rw [if_pos hbare, hs], hopen, hclose, hspace, hslash⟩
    · exact ⟨'\'', _, by rw [if_neg hbare, quoted]; rfl, by decide⟩
  rw [hname]
  exact ⟨skip_of_plain (plain_cons hplain _), fun tail heq => hopen (List.cons.inj heq).1,
    fun tail heq => hclose (List.cons.inj heq).1⟩

theorem skip_colon (rest : List Char) : skip (':' :: rest) = some (':' :: rest) :=
  skip_of_plain (plain_cons (by decide) rest)

/-- A bare name is the word at the front of a text. -/
theorem takeName_bare {s : String} (h : isBareName s = true) (table : List String)
    {rest : List Char} (hrest : ∀ c tail, rest = c :: tail → isNamePart c = false) :
    takeName (s.toList ++ rest) = (s.toList, rest) ∧ symbolText? table s.toList = some s := by
  obtain ⟨c, tail, hs, hc, hall, hnumber, hword⟩ := isBareName_iff.1 h
  refine ⟨takeName_append hall hrest, ?_⟩
  rw [symbolText?, hnumber, String.ofList_toList]
  rfl

/-- Two apostrophes at the front stand for an empty name. -/
theorem quoted_ne {s : String} {rest : List Char} (hrest : ∀ tail, rest ≠ '\'' :: tail)
    (tail : List Char) :
    s.toList.flatMap (escape '\'') ++ '\'' :: rest ≠ '\'' :: '\'' :: tail := by
  intro heq
  cases hchars : s.toList with
  | nil =>
    rw [hchars] at heq
    exact hrest tail (List.cons.inj heq).2
  | cons c cs =>
    obtain ⟨d, after, hescape, hd⟩ := escape_ne c
    rw [hchars, List.flatMap_cons, hescape] at heq
    exact hd (List.cons.inj heq).1

/-- **The name of a field is read back**, quoted or not, up to its colon. -/
theorem readFieldName_nameText (table : List String) (s : String) (rest : List Char) :
    readFieldName table (nameText s ++ ':' :: rest) = some (s, rest) := by
  have hcolon := skip_colon rest
  have hstring : String.ofList s.toList = s := String.ofList_toList
  have hends : ∀ c tail, ':' :: rest = c :: tail → isNamePart c = false := by
    intro c tail heq
    obtain ⟨rfl, -⟩ := List.cons.inj heq
    decide
  unfold nameText
  by_cases hbare : isBareName s = true
  · obtain ⟨htake, htext⟩ := takeName_bare hbare table hends
    obtain ⟨c, tail, hs, hc, -, -, hword⟩ := isBareName_iff.1 hbare
    obtain ⟨hquote, hmark, -⟩ := isNameStart_ne hc
    rw [if_pos hbare]
    rw [hs, List.cons_append] at htake ⊢
    rw [hs] at htext hstring
    unfold readFieldName
    split
    · rename_i heq
      exact absurd (List.cons.inj heq).1 hquote
    · rename_i heq
      exact absurd (List.cons.inj heq).1 hmark
    · rename_i heq
      exact absurd (List.cons.inj heq).1 hmark
    · rename_i heq
      obtain ⟨rfl, -⟩ := List.cons.inj heq
      simp only [hc, if_true, htake, hstring, hword, Bool.false_eq_true, if_false, htext,
        Option.map_some, Option.bind_eq_bind, Option.bind_some, hcolon]
      rfl
    · rename_i heq
      cases heq
  · have hread := readQuoted_length (.inr rfl : IsQuote '\'') s (':' :: rest)
    rw [if_neg hbare, quoted, List.append_assoc, List.cons_append, List.singleton_append]
    unfold readFieldName
    split
    · rename_i heq
      exact absurd (List.cons.inj heq).1 (by decide)
    · rename_i heq
      exact absurd (List.cons.inj heq).2 (quoted_ne (by simp) _)
    · rename_i heq
      obtain ⟨-, rfl⟩ := List.cons.inj heq
      simp only [hread, hstring, Option.bind_eq_bind, Option.bind_some, hcolon]
      rfl
    · rename_i hother heq
      exact (hother (List.cons.inj heq).1.symm).elim
    · rename_i heq
      cases heq

/-! ### Numbers -/

theorem takeWhile_bars {ds rest : List Char} (hd : IsDigits ds)
    (hr : ∀ c tail, rest = c :: tail → isDigitOrBar c = false) :
    (ds ++ rest).takeWhile isDigitOrBar = ds ∧ (ds ++ rest).dropWhile isDigitOrBar = rest := by
  apply takeWhile_span _ hr
  intro c hc
  rw [isDigitOrBar, hd c hc]
  rfl

/-- Digits alone have no underscores to remove. -/
theorem plainDigits?_digits {ds : List Char} (hd : IsDigits ds) (hne : ds ≠ []) :
    plainDigits? ds = some ds := by
  have hbar : ∀ c ∈ ds, c ≠ '_' := by
    rintro c hc rfl
    exact absurd (hd _ hc) (by decide)
  have hlast : ds.getLast? ≠ some '_' := fun h => hbar _ (List.mem_of_getLast? h) rfl
  have hpairs : (ds.zip ds.tail).any (· == ('_', '_')) = false := by
    rw [List.any_eq_false]
    rintro ⟨a, b⟩ hmem heq
    rw [beq_iff_eq, Prod.mk.injEq] at heq
    exact hbar a (List.of_mem_zip hmem).1 heq.1
  have hfilter : ds.filter (· != '_') = ds := by
    rw [List.filter_eq_self]
    intro c hc
    simp [hbar c hc]
  unfold plainDigits?
  split
  · exact absurd rfl hne
  · exact absurd rfl (hbar _ List.mem_cons_self)
  · rw [if_neg hlast, hpairs, hfilter]
    rfl

theorem isWholePart_of_isWhole {s : List Char} (h : IsWhole s) : isWholePart s = true := by
  obtain ⟨-, rfl | ⟨d, ds, rfl, hd⟩⟩ := h
  · rfl
  · unfold isWholePart
    split
    · rename_i heq
      exact absurd (List.cons.inj heq).1 hd
    · rfl

/-- An exponent is read behind its mark. -/
theorem readExponentPart_text (t : NumberText) (hne : t.exponent ≠ []) :
    ∃ e, ∀ rest, Ends rest →
      readExponentPart (t.sign ++ (t.exponent ++ rest)) = some (e, rest) := by
  obtain ⟨down, hsigned⟩ := t.signed_exponent hne
  have hplain := plainDigits?_digits t.isExponent hne
  refine ⟨if down then -(Nat.ofDigitChars 10 t.exponent 0 : Int)
    else Nat.ofDigitChars 10 t.exponent 0, fun rest hrest => ?_⟩
  obtain ⟨htake, hdrop⟩ := takeWhile_bars t.isExponent
    (fun c tail heq => (ends_char (hrest c tail heq)).2.1)
  unfold readExponentPart
  simp only [hsigned, htake, hdrop, hplain, Option.bind_eq_bind, Option.bind_some]
  rfl

/-- The marks of exponents: those of doubles and of decimals. -/
def IsMark (mark : Char) : Prop := mark = 'e' ∨ mark = 'd'

/-- What stands behind the whole part of a number. -/
theorem behindWhole (t : NumberText) {mark : Char} (hmark : IsMark mark) {rest : List Char}
    (hrest : Ends rest) {c : Char} {tail : List Char}
    (h : t.fractionChars ++ (t.exponentChars mark ++ rest) = c :: tail) :
    isDigitOrBar c = false ∧ c ≠ 'x' ∧ c ≠ 'X' ∧ c ≠ 'b' ∧ c ≠ 'B' ∧ c ≠ '-' ∧ c ≠ 'T' := by
  have hc : c = '.' ∨ c = 'e' ∨ c = 'd' ∨ c = ',' ∨ c = ']' ∨ c = '}' := by
    unfold NumberText.fractionChars NumberText.exponentChars at h
    split at h
    · split at h
      · exact .inr (.inr (.inr (hrest _ _ h)))
      · obtain rfl := (List.cons.inj h).1
        exact .inr (hmark.imp_right .inl)
    · exact .inl (List.cons.inj h).1.symm
  obtain rfl | rfl | rfl | rfl | rfl | rfl := hc <;> decide

/-- A number is not one in hexadecimal or binary digits. -/
theorem chars_not_based (t : NumberText) {mark : Char} (hmark : IsMark mark) {rest : List Char}
    (hrest : Ends rest) {c : Char} {tail : List Char}
    (h : t.chars mark ++ rest = '0' :: c :: tail) : c ≠ 'x' ∧ c ≠ 'X' ∧ c ≠ 'b' ∧ c ≠ 'B' := by
  simp only [NumberText.chars, List.append_assoc] at h
  obtain ⟨-, hzero | ⟨d, ds, hds, hd⟩⟩ := t.isWhole
  · rw [hzero, List.singleton_append] at h
    obtain ⟨-, hx, hX, hb, hB, -⟩ := behindWhole t hmark hrest (List.cons.inj h).2
    exact ⟨hx, hX, hb, hB⟩
  · rw [hds, List.cons_append] at h
    exact absurd (List.cons.inj h).1 hd

/-- The digits behind a point are read, if there are any. -/
theorem readPoint_text (t : NumberText) {rest : List Char}
    (hrest : ∀ c tail, rest = c :: tail → isDigitOrBar c = false ∧ c ≠ '.') :
    readPoint (t.fractionChars ++ rest) =
      some (!t.fraction.isEmpty, t.fraction, rest) := by
  unfold NumberText.fractionChars
  by_cases hnone : t.fraction = []
  · rw [if_pos hnone, hnone, List.nil_append]
    unfold readPoint
    split
    · exact absurd rfl (hrest _ _ rfl).2
    · rfl
  · obtain ⟨htake, hdrop⟩ := takeWhile_bars t.isFraction
      (fun c tail heq => (hrest c tail heq).1)
    have hplain := plainDigits?_digits t.isFraction hnone
    have hsome : t.fraction.isEmpty = false := by simp [hnone]
    rw [if_neg hnone, List.cons_append, readPoint, htake, hdrop, hplain, hsome]
    rfl

/-- A number without a fraction and an exponent stands for an integer. -/
def IsIntegerOf (t : NumberText) (negative : Bool) (v : Value) : Prop :=
  t.fraction = [] → t.exponent = [] → v = .int (signed negative (Nat.ofDigitChars 10 t.whole 0))

/-- What is behind the digits of a number decides its type. -/
theorem readScaled_text (t : NumberText) {mark : Char} (hmark : IsMark mark)
    (negative : Bool) : ∃ v, IsIntegerOf t negative v ∧ ∀ rest, Ends rest →
      readScaled negative (!t.fraction.isEmpty) t.whole t.fraction (t.exponentChars mark ++ rest) =
        some (v, rest) := by
  unfold NumberText.exponentChars
  by_cases hnone : t.exponent = []
  · rw [if_pos hnone]
    obtain ⟨v, hv⟩ : ∃ v : Value, (if !t.fraction.isEmpty then
        .decimal (.finite negative (Nat.ofDigitChars 10 (t.whole ++ t.fraction) 0)
          (-(t.fraction.length : Int)))
      else .int (signed negative (Nat.ofDigitChars 10 (t.whole ++ t.fraction) 0))) = v := ⟨_, rfl⟩
    refine ⟨v, fun hfraction _ => ?_, fun rest hrest => ?_⟩
    · rw [← hv, hfraction, List.append_nil]
      rfl
    rw [List.nil_append]
    unfold readScaled
    simp only [hv]
    cases rest with
    | nil => rfl
    | cons c tail => obtain rfl | rfl | rfl := hrest c tail rfl <;> rfl
  · obtain ⟨e, hread⟩ := readExponentPart_text t hnone
    rw [if_neg hnone]
    -- an `e` makes a double of the number, a `d` a decimal
    obtain rfl | rfl := hmark
    · refine ⟨.double (Double.ofScientific negative (Nat.ofDigitChars 10 (t.whole ++ t.fraction) 0)
        (e - t.fraction.length)), fun _ h => absurd h hnone, fun rest hrest => ?_⟩
      rw [List.cons_append, List.append_assoc, readScaled]
      simp [hread rest hrest]
    · refine ⟨.decimal (.finite negative (Nat.ofDigitChars 10 (t.whole ++ t.fraction) 0)
        (e - t.fraction.length)), fun _ h => absurd h hnone, fun rest hrest => ?_⟩
      rw [List.cons_append, List.append_assoc, readScaled]
      simp [hread rest hrest]

theorem readUnsigned_text (t : NumberText) {mark : Char} (hmark : IsMark mark)
    (negative : Bool) : ∃ v, IsIntegerOf t negative v ∧ ∀ rest, Ends rest →
      readUnsigned negative (t.chars mark ++ rest) = some (v, rest) := by
  obtain ⟨v, hint, hread⟩ := readScaled_text t hmark negative
  refine ⟨v, hint, fun rest hrest => ?_⟩
  have hbased := fun c tail => @chars_not_based t mark hmark rest hrest c tail
  have hbehind := fun c tail => @behindWhole t mark hmark rest hrest c tail
  have hexponent : ∀ c tail, t.exponentChars mark ++ rest = c :: tail →
      isDigitOrBar c = false ∧ c ≠ '.' := by
    intro c tail heq
    unfold NumberText.exponentChars at heq
    split at heq
    · obtain ⟨-, hbar, -, -, -, hdot, -⟩ := ends_char (hrest c tail heq)
      exact ⟨hbar, hdot⟩
    · obtain rfl := (List.cons.inj heq).1
      obtain rfl | rfl := hmark <;> decide
  obtain ⟨htake, hdrop⟩ := takeWhile_bars t.isWhole.1
    (fun c tail heq => (hbehind c tail heq).1)
  have hwhole := plainDigits?_digits t.isWhole.1 t.isWhole.ne_nil
  have hpart := isWholePart_of_isWhole t.isWhole
  have hpoint := readPoint_text t hexponent
  have hchars : t.chars mark ++ rest =
      t.whole ++ (t.fractionChars ++ (t.exponentChars mark ++ rest)) := by
    simp only [NumberText.chars, List.append_assoc]
  -- the number has no prefix of another base, so its parts are read one after the other
  unfold readUnsigned
  split
  · rename_i heq
    exact absurd rfl (hbased _ _ heq).1
  · rename_i heq
    exact absurd rfl (hbased _ _ heq).2.1
  · rename_i heq
    exact absurd rfl (hbased _ _ heq).2.2.1
  · rename_i heq
    exact absurd rfl (hbased _ _ heq).2.2.2
  · simp only [hchars, htake, hdrop, hwhole, hpart, hpoint, hread rest hrest, Bool.not_true,
      Bool.false_eq_true, if_false, Option.bind_eq_bind, Option.bind_some]

/-- **Every number is read**, an integer as it is. -/
theorem readTextNumber_text (t : NumberText) {mark : Char} (hmark : IsMark mark)
    (negative : Bool) : ∃ v, IsIntegerOf t negative v ∧ ∀ rest, Ends rest →
      readTextNumber (Double.signChars negative ++ (t.chars mark ++ rest)) = some (v, rest) := by
  obtain ⟨v, hint, hread⟩ := readUnsigned_text t hmark negative
  refine ⟨v, hint, fun rest hrest => ?_⟩
  have hends := hrest.endsNumber
  unfold readTextNumber
  cases negative with
  | true =>
    show (readUnsigned true (t.chars mark ++ rest) >>= _) = _
    rw [hread rest hrest]
    simp [hends]
  | false =>
    have hplain : Double.signChars false ++ (t.chars mark ++ rest) = t.chars mark ++ rest := rfl
    rw [hplain]
    split
    · -- the whole part does not start with a sign
      rename_i heq
      exact absurd heq (t.chars_ne mark rest _)
    · rw [hread rest hrest]
      simp [hends]

/-- A number is no timestamp: no hyphen and no letter of one stands behind its whole part. -/
theorem startsTimestamp_chars (t : NumberText) {mark : Char} (hmark : IsMark mark)
    {rest : List Char} (hrest : Ends rest) : startsTimestamp (t.chars mark ++ rest) = false := by
  have hbehind := fun c tail => @behindWhole t mark hmark rest hrest c tail
  have hdigits : EndsDigits (t.fractionChars ++ (t.exponentChars mark ++ rest)) := by
    intro c tail heq
    have hbar := (hbehind c tail heq).1
    unfold isDigitOrBar at hbar
    exact (Bool.or_eq_false_iff.1 hbar).1
  have hdrop : (t.chars mark ++ rest).dropWhile Char.isDigit =
      t.fractionChars ++ (t.exponentChars mark ++ rest) := by
    simp only [NumberText.chars, List.append_assoc]
    exact (takeWhile_digits t.isWhole.1 hdigits).2
  generalize t.chars mark ++ rest = s at hdrop
  unfold startsTimestamp
  split
  · rename_i a b c d e tail
    rw [← Bool.not_eq_true]
    intro h
    simp only [Bool.and_eq_true, Bool.or_eq_true, decide_eq_true_eq] at h
    obtain ⟨⟨⟨⟨ha, hb⟩, hc⟩, hd⟩, he⟩ := h
    have hmarkDigit : e.isDigit = false := by obtain rfl | rfl := he <;> rfl
    simp only [List.dropWhile_cons, ha, hb, hc, hd, hmarkDigit, if_true, Bool.false_eq_true,
      if_false] at hdrop
    obtain ⟨-, -, -, -, -, hhyphen, hletter⟩ := hbehind e tail hdrop.symm
    exact he.elim hhyphen hletter
  · rfl

/-! ### Bytes in base 64 -/

/-- The characters of a blob are neither blanks nor braces nor quote marks. -/
theorem encodeChars_ne {s : Bytes} {c : Char} (hc : c ∈ Base64.encodeChars s) :
    isTextSpace c = false ∧ c ≠ '}' ∧ c ≠ '"' ∧ c ≠ '\'' := by
  have hdigit : ∀ n < 64, isTextSpace (Base64.digit n) = false ∧ Base64.digit n ≠ '}' ∧
      Base64.digit n ≠ '"' ∧ Base64.digit n ≠ '\'' := by decide
  obtain ⟨digits, pads, hchars, -, hdigits⟩ := Base64.exists_digits s
  rw [hchars, List.mem_append, List.mem_replicate] at hc
  obtain hc | ⟨-, rfl⟩ := hc
  · obtain ⟨n, hn, rfl⟩ := hdigits c hc
    exact hdigit n hn
  · decide

/-- **Bytes in base 64 are read back** between braces. -/
theorem readBlob_encodeChars (s : Bytes) (rest : List Char) :
    readBlob (Base64.encodeChars s ++ '}' :: '}' :: rest) = some (.blob s, rest) := by
  have hvalue : ∀ n < 64, (Base64.value? (Base64.digit n)).isSome = true ∧
      Base64.digit n ≠ '=' := by decide
  obtain ⟨htake, hdrop⟩ := @takeWhile_span (fun c => c != '}') (Base64.encodeChars s)
    ('}' :: '}' :: rest) (fun c hc => by simp [(encodeChars_ne hc).2.1])
    (fun c tail heq => by obtain ⟨rfl, -⟩ := List.cons.inj heq; rfl)
  have hfilter :
      (Base64.encodeChars s).filter (fun c => !isTextSpace c) = Base64.encodeChars s := by
    rw [List.filter_eq_self]
    intro c hc
    rw [(encodeChars_ne hc).1]
    rfl
  have hascii : (Base64.encodeChars s).all (fun c => c.toNat < 128) = true := by
    rw [List.all_eq_true]
    intro c hc
    exact decide_eq_true (Base64.mem_encodeChars s c hc).1
  have hdecode : Base64.decode (Base64.encodeChars s) = .ok s := by
    rw [Base64.decode, if_pos hascii, Base64.decodeFrom_encodeChars]
  obtain ⟨digits, pads, hchars, hpads, hdigits⟩ := Base64.exists_digits s
  -- the digits end where the filling characters begin
  obtain ⟨hfront, hback⟩ := @takeWhile_span (fun c => c != '=') digits (List.replicate pads '=')
    (fun c hc => by
      obtain ⟨n, hn, rfl⟩ := hdigits c hc
      simp [(hvalue n hn).2])
    (fun c tail heq => by
      have hmem : c ∈ List.replicate pads '=' := by rw [heq]; exact List.mem_cons_self
      simp [List.eq_of_mem_replicate hmem])
  rw [← hchars] at hfront hback
  have hall : digits.all (fun c => (Base64.value? c).isSome) = true := by
    rw [List.all_eq_true]
    intro c hc
    obtain ⟨n, hn, rfl⟩ := hdigits c hc
    exact (hvalue n hn).1
  have hfill : (List.replicate pads '=').all (· == '=') = true := by
    rw [List.all_eq_true]
    intro c hc
    rw [List.eq_of_mem_replicate hc]
    rfl
  have hlength : (List.replicate pads '=').length ≤ 2 := by
    rw [List.length_replicate]
    exact hpads
  unfold readBlob
  simp only [htake, hdrop, hfilter, hfront, hback, hall, hfill, hlength, hdecode,
    Base64.length_encodeChars, decide_true, Bool.and_self, if_true]
  rfl

end ServiceClient.Ion
