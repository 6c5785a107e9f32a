import ServiceClient.Proofs.JsonString
import ServiceClient.Proofs.NormalForm
import ServiceClient.Proofs.NumberText
import ServiceClient.Proofs.Utf8

/-!
# Documents of JSON read back

JSON holds documents of booleans, integers of at most `maxIntegerDigits` digits, and texts in
which no surrogates make a pair. What it reads besides are doubles.

* `readNumber_printInt`: an integer is read up to the end of its digits.
* `print_of_held`: a document is printed, and its text is read as the document, whatever
  follows that cannot continue a number.
* `read_print`: the whole text is read as the document.
* `held_readChars`: what a text is read as.
* `textFields_of_held`: the keys of a map that is read are texts, and its values no bytes.
* `Encoding.parse_encode_json`: a document is read back from its body.
-/

namespace ServiceClient

namespace Json

/-- The scalars that JSON is read as. -/
def IsRead : Value → Prop
  | .bool _ | .double _ | .text _ => True
  | .loose t => t.text.IsJoined
  | .int n => n.natAbs < 10 ^ maxIntegerDigits
  | _ => False

/-- The scalars that JSON holds as they are. -/
def IsExact (v : Value) : Prop := IsRead v ∧ ∀ d, v ≠ .double d

/-- The scalars that JSON can hold in its own or in base 64, without a loss. -/
def Scalar (v : Value) : Prop := IsExact v ∨ ∃ kind s, v = .bytes kind s

theorem isExact_ofText {t : Text} (h : t.IsJoined) : IsExact (.ofText t) := by
  rcases Value.ofText_cases t with ⟨s, -, hs⟩ | ⟨l, rfl, hl⟩
  · rw [hs]
    exact ⟨trivial, fun _ => Value.noConfusion⟩
  · rw [hl]
    exact ⟨h, fun _ => Value.noConfusion⟩

theorem isJoined_of_isRead {t : Text} (h : IsRead (.ofText t)) : t.IsJoined := by
  rcases Value.ofText_cases t with ⟨s, rfl, -⟩ | ⟨l, rfl, hl⟩
  · exact Text.isJoined_ofString s
  · rw [hl] at h
    exact h

/-- Every string is held. -/
theorem isExact_text (s : String) : IsExact (.text s) := ⟨trivial, fun _ => Value.noConfusion⟩

/-- What follows a number cannot continue it. -/
def EndsNumber (rest : List Char) : Prop :=
  ∀ c tail, rest = c :: tail → c.isDigit = false ∧ c ≠ '.' ∧ c ≠ 'e' ∧ c ≠ 'E'

theorem endsNumber_nil : EndsNumber [] := by intro c tail h; cases h

theorem endsNumber_cons {c : Char} (h : c.isDigit = false ∧ c ≠ '.' ∧ c ≠ 'e' ∧ c ≠ 'E')
    (tail : List Char) : EndsNumber (c :: tail) := by
  intro d t ht; cases ht; exact h

theorem endsNumber_comma (tail : List Char) : EndsNumber (',' :: tail) :=
  endsNumber_cons (by decide) tail

theorem endsNumber_bracket (tail : List Char) : EndsNumber (']' :: tail) :=
  endsNumber_cons (by decide) tail

theorem endsNumber_brace (tail : List Char) : EndsNumber ('}' :: tail) :=
  endsNumber_cons (by decide) tail

theorem EndsNumber.endsDigits {rest : List Char} (h : EndsNumber rest) : EndsDigits rest :=
  fun c tail heq => (h c tail heq).1

theorem readFraction_of_ends {rest : List Char} (h : EndsNumber rest) :
    readFraction rest = (none, rest) := by
  unfold readFraction
  split
  · rename_i d tail
    exact absurd rfl (h '.' (d :: tail) rfl).2.1
  · rfl

theorem readExponent_of_ends {rest : List Char} (h : EndsNumber rest) :
    readExponent rest = (none, rest) := by
  unfold readExponent
  split
  · rename_i c tail
    rw [if_neg (fun hc => hc.elim (h c tail rfl).2.2.1 (h c tail rfl).2.2.2)]
  · rfl

/-- The whole part of a number is its digits. -/
theorem readWhole_decimalDigits (k : Nat) {rest : List Char} (hr : EndsNumber rest) :
    readWhole (decimalDigits k ++ rest) = some (decimalDigits k, rest) := by
  have hdig : ∀ c ∈ decimalDigits k, c.isDigit :=
    fun c hc => Nat.isDigit_of_mem_toDigits (by decide) (by decide) hc
  rcases Nat.eq_zero_or_pos k with rfl | hk
  · rfl
  · obtain ⟨d, ds, hds, hd⟩ := head_decimalDigits k hk
    rw [hds] at hdig ⊢
    rw [List.forall_mem_cons] at hdig
    obtain ⟨ht, hw⟩ := takeWhile_digits hdig.2 hr.endsDigits
    unfold readWhole
    rw [List.cons_append]
    split
    · rename_i heq
      obtain ⟨rfl, -⟩ := List.cons.inj heq
      exact absurd rfl hd
    · rename_i heq
      obtain ⟨rfl, rfl⟩ := List.cons.inj heq
      rw [if_pos hdig.1, ht, hw]
    · rename_i heq; cases heq

/-- A number below the limit has few enough digits. -/
theorem length_decimalDigits_le {k : Nat} (h : k < 10 ^ maxIntegerDigits) :
    (decimalDigits k).length ≤ maxIntegerDigits :=
  (Nat.length_toDigits_le_iff (by decide) (show 0 < maxIntegerDigits by decide)).2 h

/-- An integer below the limit is written. -/
theorem integerText_of_lt {n : Int} (h : n.natAbs < 10 ^ maxIntegerDigits) :
    integerText n = .ok (printInt n) := by
  rw [integerText, if_neg (Nat.not_lt.2 (length_decimalDigits_le h))]

/-- Digits without a sign are a natural number. -/
theorem readNumber_decimalDigits {k : Nat} (hk : (decimalDigits k).length ≤ maxIntegerDigits)
    {rest : List Char} (hr : EndsNumber rest) :
    readNumber (decimalDigits k ++ rest) = .ok (.int k, rest) ∧
      readNumber ('-' :: (decimalDigits k ++ rest)) = .ok (.int (-k), rest) := by
  have hof : Nat.ofDigitChars 10 (decimalDigits k) 0 = k := Nat.ofDigitChars_ten_toDigits
  constructor
  · -- no digit is a sign
    obtain ⟨d, ds, hds⟩ := List.exists_cons_of_ne_nil (Nat.toDigits_ne_nil (n := k) (b := 10))
    have hd : d ≠ '-' := by
      rintro rfl
      have : '-'.isDigit = true :=
        Nat.isDigit_of_mem_toDigits (b := 10) (n := k) (by decide) (by decide) (by rw [hds]; simp)
      exact absurd this (by decide)
    unfold readNumber
    split
    rename_i negative body hsign
    obtain ⟨rfl, rfl⟩ : negative = false ∧ body = decimalDigits k ++ rest := by
      rw [decimalDigits, hds, List.cons_append] at hsign ⊢
      split at hsign
      · rename_i heq
        exact absurd (List.cons.inj heq).1 hd
      · exact ⟨(Prod.mk.inj hsign).1.symm, (Prod.mk.inj hsign).2.symm⟩
    simp only [readWhole_decimalDigits _ hr, readFraction_of_ends hr, readExponent_of_ends hr,
      Option.isNone_none, Bool.and_self, if_true, if_neg (Nat.not_lt.2 hk), hof,
      Bool.false_eq_true, if_false]
  · unfold readNumber
    simp only [readWhole_decimalDigits _ hr, readFraction_of_ends hr, readExponent_of_ends hr,
      Option.isNone_none, Bool.and_self, if_true, if_neg (Nat.not_lt.2 hk), hof]

/-- **An integer is read** up to the end of its digits. -/
theorem readNumber_printInt {n : Int} (hn : (decimalDigits n.natAbs).length ≤ maxIntegerDigits)
    {rest : List Char} (hr : EndsNumber rest) :
    readNumber (printInt n ++ rest) = .ok (.int n, rest) := by
  obtain ⟨hpos, hneg⟩ := readNumber_decimalDigits hn hr
  unfold printInt
  by_cases h : n < 0
  · rw [if_pos h, List.cons_append, hneg, show -(n.natAbs : Int) = n by omega]
  · rw [if_neg h, hpos, show (n.natAbs : Int) = n by omega]

/-- A word is not read where another character stands at its front. -/
theorem word?_eq_none (word : String) {c d : Char} {ds : List Char} (hw : word.toList = d :: ds)
    (h : d ≠ c) (s : List Char) : word? word (c :: s) = none := by
  have hp : word.toList.isPrefixOf (c :: s) = false := by
    rw [hw, List.isPrefixOf, beq_false_of_ne h]; rfl
  unfold word?; rw [hp]; rfl

theorem digit_ne {d : Char} (h : d.isDigit) :
    'n' ≠ d ∧ 't' ≠ d ∧ 'f' ≠ d ∧ 'N' ≠ d ∧ 'I' ≠ d ∧ '-' ≠ d ∧ isSpace d = false ∧
      d ≠ '"' ∧ d ≠ '[' ∧ d ≠ '{' ∧ d ≠ ']' ∧ d ≠ '\uFEFF' := by
  have hne : ∀ c : Char, c.isDigit = false → c ≠ d := by
    rintro c hc rfl
    rw [hc] at h
    cases h
  have hflip : ∀ c : Char, c.isDigit = false → d ≠ c := fun c hc => (hne c hc).symm
  refine ⟨hne _ rfl, hne _ rfl, hne _ rfl, hne _ rfl, hne _ rfl, hne _ rfl, ?_, hflip _ rfl,
    hflip _ rfl, hflip _ rfl, hflip _ rfl, hflip _ rfl⟩
  unfold isSpace
  simp [hflip ' ' rfl, hflip '\t' rfl, hflip '\n' rfl, hflip '\r' rfl]

/-- A digit, or a sign and a digit, starts none of the words. -/
theorem readWord_of_digit {d : Char} (h : d.isDigit) (s : List Char) :
    readWord (d :: s) = readNumber (d :: s) ∧
      readWord ('-' :: d :: s) = readNumber ('-' :: d :: s) := by
  obtain ⟨hn, ht, hf, hN, hI, hm, -⟩ := digit_ne h
  have hinf : word? "-Infinity" ('-' :: d :: s) = none := by
    have hw : "-Infinity".toList = ['-', 'I', 'n', 'f', 'i', 'n', 'i', 't', 'y'] := rfl
    have hp : "-Infinity".toList.isPrefixOf ('-' :: d :: s) = false := by
      rw [hw, List.isPrefixOf, List.isPrefixOf, beq_false_of_ne hI]; rfl
    unfold word?; rw [hp]; rfl
  constructor
  · unfold readWord
    rw [word?_eq_none "null" rfl hn, word?_eq_none "true" rfl ht, word?_eq_none "false" rfl hf,
      word?_eq_none "NaN" rfl hN, word?_eq_none "Infinity" rfl hI,
      word?_eq_none "-Infinity" rfl hm]
  · unfold readWord
    rw [word?_eq_none "null" rfl (by decide), word?_eq_none "true" rfl (by decide),
      word?_eq_none "false" rfl (by decide), word?_eq_none "NaN" rfl (by decide),
      word?_eq_none "Infinity" rfl (by decide), hinf]

/-- The first character of a value: no blank, no end of an array, no mark of a byte order. -/
def Starts (cs : List Char) : Prop :=
  ∃ c tail, cs = c :: tail ∧ isSpace c = false ∧ c ≠ ']' ∧ c ≠ '\uFEFF'

/-- The text `cs` is read as `v`, whatever follows that cannot continue a number. -/
structure ReadsAs (cs : List Char) (v : Value) : Prop where
  starts : Starts cs
  reads : ∀ fuel rest, cs.length ≤ fuel → EndsNumber rest →
    readValue .empty fuel (cs ++ rest) = .ok (v, rest)

/-- No blank is skipped in front of a value. -/
theorem Starts.skipSpace {cs : List Char} (h : Starts cs) (rest : List Char) :
    skipSpace (cs ++ rest) = cs ++ rest := by
  obtain ⟨c, tail, rfl, hc, -⟩ := h
  unfold Json.skipSpace
  rw [List.cons_append, List.dropWhile_cons_of_neg (by rw [hc]; decide)]

/-- There is fuel for a text that is not empty. -/
theorem exists_fuel (c : Char) (cs : List Char) {fuel : Nat} (h : (c :: cs).length ≤ fuel) :
    ∃ n, fuel = n + 1 ∧ cs.length ≤ n :=
  ⟨fuel - 1, by simp at h; omega, by simp at h; omega⟩

theorem readsAs_null : ReadsAs "null".toList .null :=
  ⟨⟨'n', _, rfl, by decide⟩, fun fuel rest hf _ => by
    obtain ⟨n, rfl, -⟩ := exists_fuel 'n' ['u', 'l', 'l'] hf; rfl⟩

theorem readsAs_bool (b : Bool) :
    ReadsAs (if b then "true" else "false").toList (.bool b) := by
  cases b
  · exact ⟨⟨'f', _, rfl, by decide⟩, fun fuel rest hf _ => by
      obtain ⟨n, rfl, -⟩ := exists_fuel 'f' ['a', 'l', 's', 'e'] hf; rfl⟩
  · exact ⟨⟨'t', _, rfl, by decide⟩, fun fuel rest hf _ => by
      obtain ⟨n, rfl, -⟩ := exists_fuel 't' ['r', 'u', 'e'] hf; rfl⟩

theorem readsAs_int {n : Int} (h : n.natAbs < 10 ^ maxIntegerDigits) :
    ReadsAs (printInt n) (.int n) := by
  have hnum := fun rest => @readNumber_printInt n (length_decimalDigits_le h) rest
  obtain ⟨d, ds, hds⟩ : ∃ d ds, decimalDigits n.natAbs = d :: ds :=
    List.exists_cons_of_ne_nil (Nat.toDigits_ne_nil (n := n.natAbs) (b := 10))
  have hd : d.isDigit :=
    Nat.isDigit_of_mem_toDigits (b := 10) (n := n.natAbs) (by decide) (by decide)
      (by rw [decimalDigits] at hds; rw [hds]; simp)
  obtain ⟨-, -, -, -, -, -, hsp, hq, hl, hb, hr⟩ := digit_ne hd
  unfold printInt at hnum ⊢
  rw [hds] at hnum ⊢
  by_cases hn : n < 0
  · simp only [if_pos hn] at hnum ⊢
    refine ⟨⟨'-', _, rfl, by decide⟩, fun fuel rest hf hrest => ?_⟩
    obtain ⟨m, rfl, -⟩ := exists_fuel _ _ hf
    exact ((readWord_of_digit hd (ds ++ rest)).2).trans (hnum rest hrest)
  · simp only [if_neg hn] at hnum ⊢
    refine ⟨⟨d, _, rfl, hsp, hr⟩, fun fuel rest hf hrest => ?_⟩
    obtain ⟨m, rfl, -⟩ := exists_fuel _ _ hf
    rw [List.cons_append, readValue]
    simp only [if_neg hq, if_neg hl, if_neg hb]
    exact ((readWord_of_digit hd (ds ++ rest)).1).trans (hnum rest hrest)

theorem readsAs_points (t : Text) : ReadsAs (quotePoints t.points) (.ofText t.joined) := by
  refine ⟨⟨'"', _, rfl, by decide⟩, fun fuel rest hf _ => ?_⟩
  obtain ⟨m, rfl, -⟩ := exists_fuel _ _ hf
  have hlen := length_le_flatMap_escapePoint t.points
  have hread : readString .empty (quotePoints t.points ++ rest)
      ((t.points.flatMap escapePoint ++ '"' :: rest).length + 1)
      (t.points.flatMap escapePoint ++ '"' :: rest) = .ok (joinPoints t.points, rest) :=
    readString_points t.points rest _ (by rw [List.length_append]; omega)
  unfold quotePoints at hread ⊢
  simp only [List.cons_append, List.append_assoc, List.nil_append] at hread ⊢
  rw [readValue]
  simp only [if_true, hread]
  rfl

/-- A text is printed between quotes. -/
theorem print_ofText (t : Text) : print compact (.ofText t) = .ok (quotePoints t.points) := by
  rcases Value.ofText_cases t with ⟨s, rfl, hs⟩ | ⟨l, rfl, hl⟩
  · rw [hs, print, Text.points_ofString, quotePoints_map_char]
  · rw [hl, print]

/-- A text is a key as it is. -/
theorem keyText_ofText (t : Text) : keyText (.ofText t) = .ok t := by
  rcases Value.ofText_cases t with ⟨s, rfl, hs⟩ | ⟨l, rfl, hl⟩
  · rw [hs, keyText]
  · rw [hl, keyText]

section Printed

variable {R : Value → Value → Prop}

/-- The items of an array are read one by one, each as what its text is read as. -/
theorem readItems_printed {items : List Value} (hne : items ≠ [])
    (h : ∀ v ∈ items, ∀ cs, print compact v = .ok cs → ∃ w, R v w ∧ ReadsAs cs w) {cs : List Char}
    (hp : printItems compact items = .ok cs) :
    Starts cs ∧ ∃ read, List.Forall₂ R items read ∧ ∀ fuel rest, cs.length < fuel →
      readItems .empty fuel (cs ++ ']' :: rest) = .ok (read, rest) := by
  induction items generalizing cs with
  | nil => exact absurd rfl hne
  | cons v items ih =>
    rw [List.forall_mem_cons] at h
    rw [printItems] at hp
    obtain ⟨head, hhead, hp⟩ := bind_eq_ok.1 hp
    obtain ⟨tail, htail, hp⟩ := bind_eq_ok.1 hp
    obtain ⟨w, hw, hread⟩ := h.1 head hhead
    -- the last item ends at the bracket, the others at a comma
    by_cases hi : items = []
    · subst hi
      obtain rfl : [] = tail := Except.ok.inj htail
      obtain rfl : head ++ [] ++ [] = cs := Except.ok.inj hp
      rw [List.append_nil, List.append_nil]
      refine ⟨hread.starts, [w], .cons hw .nil, fun fuel rest hf => ?_⟩
      obtain ⟨m, rfl⟩ : ∃ m, fuel = m + 1 := ⟨fuel - 1, by omega⟩
      rw [readItems, hread.reads m _ (by omega) (endsNumber_bracket rest)]
      rfl
    · have hmore : items.isEmpty = false := by simp [hi]
      obtain rfl : head ++ (if items.isEmpty then [] else [',']) ++ tail = cs := Except.ok.inj hp
      rw [hmore]
      obtain ⟨hst, read, hreads, hrd⟩ := ih hi h.2 htail
      obtain ⟨c, tl, hc, hstart⟩ := hread.starts
      refine ⟨⟨c, tl ++ ',' :: tail, by rw [hc]; simp, hstart⟩, w :: read, .cons hw hreads,
        fun fuel rest hf => ?_⟩
      simp only [Bool.false_eq_true, if_false, List.append_assoc, List.cons_append,
        List.nil_append, List.length_append, List.length_cons] at hf ⊢
      obtain ⟨m, rfl⟩ : ∃ m, fuel = m + 1 := ⟨fuel - 1, by omega⟩
      rw [readItems, hread.reads m _ (by omega) (endsNumber_comma _)]
      show (readItems .empty m (skipSpace (tail ++ ']' :: rest)) >>= _) = _
      rw [hst.skipSpace, hrd m rest (by omega)]
      rfl

/-- A field of an object is read: its name, its value, and what comes behind. -/
theorem readFields_field {head : List Char} {v : Value} (hread : ReadsAs head v) (name : Text)
    {fuel : Nat} {more : List Char} (hfuel : head.length ≤ fuel) (hmore : EndsNumber more) :
    readFields .empty (fuel + 1)
        ('"' :: name.points.flatMap escapePoint ++ '"' :: ':' :: (head ++ more)) =
      (match skipSpace more with
        | '}' :: after => .ok ([(.ofText name.joined, v)], after)
        | ',' :: after => do
          let (fs, after) ← readFields .empty fuel (skipSpace after)
          return ((.ofText name.joined, v) :: fs, after)
        | after => stop .expectingComma after) := by
  have hlen := length_le_flatMap_escapePoint name.points
  have hfuel' : name.points.length <
      (name.points.flatMap escapePoint ++ '"' :: ':' :: (head ++ more)).length + 1 := by
    rw [List.length_append]
    omega
  rw [List.cons_append, readFields, readString_points name.points _ _ hfuel']
  show (readValue .empty fuel (skipSpace (head ++ more)) >>= _) = _
  rw [hread.starts.skipSpace, hread.reads fuel more hfuel hmore]
  rfl

/-- A field that is read: its key is the text of the written key. -/
def FieldReads (R : Value → Value → Prop) (p q : Value × Value) : Prop :=
  (∃ key, keyText p.1 = .ok key ∧ q.1 = .ofText key.joined) ∧ R p.2 q.2

/-- The fields of an object are read one by one, each value as what its text is read as. -/
theorem readFields_printed {fields : Fields} (hne : fields ≠ [])
    (h : ∀ p ∈ fields, ∀ cs, print compact p.2 = .ok cs → ∃ w, R p.2 w ∧ ReadsAs cs w)
    {cs : List Char} (hp : printFields compact fields = .ok cs) :
    (∃ tail, cs = '"' :: tail) ∧ ∃ read, List.Forall₂ (FieldReads R) fields read ∧
      ∀ fuel rest, cs.length < fuel →
        readFields .empty fuel (cs ++ '}' :: rest) = .ok (read, rest) := by
  induction fields generalizing cs with
  | nil => exact absurd rfl hne
  | cons p fields ih =>
    obtain ⟨k, v⟩ := p
    rw [List.forall_mem_cons] at h
    rw [printFields] at hp
    obtain ⟨key, hkey, hp⟩ := bind_eq_ok.1 hp
    obtain ⟨head, hhead, hp⟩ := bind_eq_ok.1 hp
    obtain ⟨tail, htail, hp⟩ := bind_eq_ok.1 hp
    obtain ⟨w, hw, hread⟩ := h.1 head hhead
    have hfield := fun m more => @readFields_field head w hread key m more
    have hfirst : FieldReads R (k, v) (.ofText key.joined, w) := ⟨⟨key, hkey, rfl⟩, hw⟩
    have hquote : quotePoints key.points =
        '"' :: key.points.flatMap escapePoint ++ ['"'] := rfl
    -- the last field ends the object, any other is followed by a comma
    by_cases hi : fields = []
    · subst hi
      obtain rfl : [] = tail := Except.ok.inj htail
      obtain rfl : quotePoints key.points ++ [':'] ++ head ++ [] ++ [] = cs := Except.ok.inj hp
      refine ⟨⟨_, rfl⟩, _, .cons hfirst .nil, fun fuel rest hf => ?_⟩
      rw [hquote] at hf ⊢
      simp only [List.length_append, List.length_cons] at hf
      obtain ⟨m, rfl⟩ : ∃ m, fuel = m + 1 := ⟨fuel - 1, by omega⟩
      have := hfield m ('}' :: rest) (by omega) (endsNumber_brace rest)
      simp only [List.cons_append, List.append_assoc, List.nil_append] at this ⊢
      rw [this]
      rfl
    · have hmore : fields.isEmpty = false := by simp [hi]
      obtain rfl : quotePoints key.points ++ [':'] ++ head ++
        (if fields.isEmpty then [] else [',']) ++ tail = cs := Except.ok.inj hp
      obtain ⟨⟨more, hstart⟩, read, hreads, hrd⟩ := ih hi h.2 htail
      refine ⟨⟨_, rfl⟩, _, .cons hfirst hreads, fun fuel rest hf => ?_⟩
      rw [hquote, hmore] at hf ⊢
      simp only [Bool.false_eq_true, if_false, List.length_append, List.length_cons] at hf
      obtain ⟨m, rfl⟩ : ∃ m, fuel = m + 1 := ⟨fuel - 1, by omega⟩
      have := hfield m (',' :: (tail ++ '}' :: rest)) (by omega) (endsNumber_comma _)
      simp only [Bool.false_eq_true, if_false, List.cons_append, List.append_assoc,
        List.nil_append] at this ⊢
      have hskip : skipSpace (tail ++ '}' :: rest) = tail ++ '}' :: rest := by
        rw [hstart]
        rfl
      rw [this]
      show (readFields .empty m (skipSpace (tail ++ '}' :: rest)) >>= _) = _
      rw [hskip, hrd m rest (by omega)]
      rfl

/-- A list is read if its items are. -/
theorem readsAs_list {items : List Value}
    (h : ∀ v ∈ items, ∀ cs, print compact v = .ok cs → ∃ w, R v w ∧ ReadsAs cs w) {cs : List Char}
    (hp : printItems compact items = .ok cs) :
    ∃ read, List.Forall₂ R items read ∧ ReadsAs ('[' :: cs ++ [']']) (.list read) := by
  by_cases hi : items = []
  · subst hi
    obtain rfl : [] = cs := Except.ok.inj hp
    refine ⟨[], .nil, ⟨'[', [']'], rfl, by decide⟩, fun fuel rest hf _ => ?_⟩
    obtain ⟨m, rfl, -⟩ := exists_fuel _ _ hf
    rfl
  · obtain ⟨hst, read, hreads, hr⟩ := readItems_printed hi h hp
    refine ⟨read, hreads, ⟨'[', cs ++ [']'], rfl, by decide⟩, fun fuel rest hf _ => ?_⟩
    obtain ⟨m, rfl, hm⟩ := exists_fuel _ _ hf
    have hskip := hst.skipSpace (']' :: rest)
    obtain ⟨c, tail, hc, -, hbr, -⟩ := hst
    have hread := hr m rest (by simp at hm; omega)
    rw [List.cons_append, List.cons_append, List.append_assoc, List.singleton_append]
    unfold readValue
    simp only [hskip]
    rw [if_neg (by decide), if_pos trivial]
    split
    · -- no item starts with the end of the list
      rename_i heq
      rw [hc, List.cons_append] at heq
      exact absurd (List.cons.inj heq).1 hbr
    · rw [hread]
      rfl

/-- A map is read if its values are. Of keys with one text, the last one counts. -/
theorem readsAs_map {fields : Fields}
    (h : ∀ p ∈ fields, ∀ cs, print compact p.2 = .ok cs → ∃ w, R p.2 w ∧ ReadsAs cs w)
    {cs : List Char} (hp : printFields compact fields = .ok cs) :
    ∃ read, List.Forall₂ (FieldReads R) fields read ∧
      ReadsAs ('{' :: cs ++ ['}']) (.map (Fields.ofPairs read)) := by
  by_cases hi : fields = []
  · subst hi
    obtain rfl : [] = cs := Except.ok.inj hp
    refine ⟨[], .nil, ⟨'{', ['}'], rfl, by decide⟩, fun fuel rest hf _ => ?_⟩
    obtain ⟨m, rfl, -⟩ := exists_fuel _ _ hf
    rfl
  · obtain ⟨⟨tail, hstart⟩, read, hreads, hr⟩ := readFields_printed hi h hp
    refine ⟨read, hreads, ⟨'{', cs ++ ['}'], rfl, by decide⟩, fun fuel rest hf _ => ?_⟩
    obtain ⟨m, rfl, hm⟩ := exists_fuel _ _ hf
    have hread := hr m rest (by simp at hm; omega)
    have hfields : readValue .empty (m + 1) ('{' :: '"' :: (tail ++ '}' :: rest)) =
        readFields .empty m ('"' :: tail ++ '}' :: rest) >>= fun r =>
          Except.ok (.map (Fields.ofPairs r.1), r.2) := rfl
    rw [hstart] at hread ⊢
    simp only [List.cons_append, List.append_assoc, List.nil_append] at hread hfields ⊢
    rw [hfields, hread]
    rfl

end Printed

theorem exists_printItems {items : List Value} (h : ∀ v ∈ items, ∃ cs, print compact v = .ok cs) :
    ∃ cs, printItems compact items = .ok cs := by
  induction items with
  | nil => exact ⟨[], rfl⟩
  | cons v items ih =>
    rw [List.forall_mem_cons] at h
    obtain ⟨⟨head, hhead⟩, hrest⟩ := h
    obtain ⟨tail, htail⟩ := ih hrest
    rw [printItems, hhead, htail]
    exact ⟨_, rfl⟩

theorem exists_printFields {pairs : List (Text × Value)}
    (h : ∀ p ∈ pairs, ∃ cs, print compact p.2 = .ok cs) :
    ∃ cs, printFields compact (Fields.named pairs) = .ok cs := by
  induction pairs with
  | nil => exact ⟨[], rfl⟩
  | cons p pairs ih =>
    rw [List.forall_mem_cons] at h
    obtain ⟨⟨head, hhead⟩, hrest⟩ := h
    obtain ⟨tail, htail⟩ := ih hrest
    rw [Fields.named_cons, printFields, keyText_ofText, hhead, htail]
    exact ⟨_, rfl⟩

/-- The scalars that are printed. -/
def IsPrinted : Value → Prop
  | .bool _ | .double _ | .text _ | .loose _ => True
  | .int n => n.natAbs < 10 ^ maxIntegerDigits
  | _ => False

/-- A document of such scalars is printed, whether it is read back or not. -/
theorem exists_print {v : Value} (h : v.Held IsPrinted) : ∃ cs, print compact v = .ok cs := by
  induction h with
  | null => exact ⟨_, by rw [print]⟩
  | @scalar v _ h =>
    cases v with
    | bool b => exact ⟨_, by rw [print]⟩
    | int n => exact ⟨_, by rw [print, integerText_of_lt h]⟩
    | double d => exact ⟨_, by rw [print]⟩
    | text s => exact ⟨_, by rw [print]⟩
    | loose t => exact ⟨_, by rw [print]⟩
    | _ => exact False.elim h
  | list _ ih =>
    obtain ⟨cs, hp⟩ := exists_printItems ih
    exact ⟨_, by rw [print, hp]; rfl⟩
  | map _ _ _ ih =>
    obtain ⟨cs, hp⟩ := exists_printFields ih
    exact ⟨_, by rw [print, hp]; rfl⟩

/-- Fields with texts as keys are read under the same keys. -/
theorem fieldReads_named {pairs : List (Text × Value)} (hn : ∀ p ∈ pairs, p.1.IsJoined)
    {read : Fields} (h : List.Forall₂ (FieldReads Eq) (Fields.named pairs) read) :
    read = Fields.named pairs := by
  refine Fields.eq_named (fun p hp q hfield => ?_) h
  obtain ⟨⟨key, hkey, hq⟩, hv⟩ := hfield
  rw [keyText_ofText] at hkey
  rw [← Except.ok.inj hkey, Text.joined_of_isJoined (hn p hp)] at hq
  exact Prod.ext hq hv.symm

/-- A text that is printed and read as `v` is read as `v` however it was found. -/
theorem reads_of_exists {v : Value} (h : ∃ cs, print compact v = .ok cs ∧ ReadsAs cs v)
    (cs : List Char) (hp : print compact v = .ok cs) : ∃ w, v = w ∧ ReadsAs cs w := by
  obtain ⟨cs', hp', hread⟩ := h
  obtain rfl : cs' = cs := Except.ok.inj (hp'.symm.trans hp)
  exact ⟨v, rfl, hread⟩

/-- A scalar is printed, and read as it was. -/
theorem print_of_isExact {v : Value} (h : IsExact v) :
    ∃ cs, print compact v = .ok cs ∧ ReadsAs cs v := by
  obtain ⟨hread, hdouble⟩ := h
  cases v with
  | bool b => exact ⟨_, by rw [print], readsAs_bool b⟩
  | int n => exact ⟨_, by rw [print, integerText_of_lt hread], readsAs_int hread⟩
  | double d => exact absurd rfl (hdouble d)
  | text s =>
    have htext := readsAs_points s
    rw [Text.joined_of_isJoined (Text.isJoined_ofString s)] at htext
    rw [← Value.ofText_ofString s]
    exact ⟨_, print_ofText s, htext⟩
  | loose t =>
    have htext := readsAs_points t.text
    rw [Text.joined_of_isJoined hread] at htext
    rw [← Value.ofText_loose t]
    exact ⟨_, print_ofText t.text, htext⟩
  | _ => exact False.elim hread

/-- **A document is printed, and its text is read as the document**, whatever follows that
cannot continue a number. -/
theorem print_of_held {v : Value} (h : v.Held IsExact) :
    ∃ cs, print compact v = .ok cs ∧ ReadsAs cs v := by
  induction h with
  | null => exact ⟨_, by rw [print], readsAs_null⟩
  | scalar _ h => exact print_of_isExact h
  | @list items _ ih =>
    obtain ⟨cs, hp⟩ := exists_printItems fun v hv => (ih v hv).imp fun _ h => h.1
    obtain ⟨read, hreads, hread⟩ := readsAs_list (fun v hv => reads_of_exists (ih v hv)) hp
    obtain rfl := List.forall₂_eq_eq_eq ▸ hreads
    exact ⟨_, by rw [print, hp]; rfl, hread⟩
  | @map pairs hd hn _ ih =>
    obtain ⟨cs, hp⟩ := exists_printFields fun p hp => (ih p hp).imp fun _ h => h.1
    have hvalues : ∀ p ∈ Fields.named pairs, ∀ cs, print compact p.2 = .ok cs →
        ∃ w, p.2 = w ∧ ReadsAs cs w :=
      Fields.forall_mem_named.2 fun p hp => reads_of_exists (ih p hp)
    obtain ⟨read, hreads, hread⟩ := readsAs_map hvalues hp
    have hkeys : ∀ p ∈ pairs, p.1.IsJoined := fun p hp => isJoined_of_isRead (hn p hp).1
    rw [fieldReads_named hkeys hreads, Fields.ofPairs_of_nodup hd] at hread
    exact ⟨_, by rw [print, hp]; rfl, hread⟩

/-- A text that is read as a value up to its end is read. -/
theorem readChars_of_readsAs {cs : List Char} {v : Value} (h : ReadsAs cs v) :
    readChars .empty cs = .ok v := by
  have hskip := h.starts.skipSpace []
  have hval := h.reads (2 * cs.length + 2) [] (by omega) endsNumber_nil
  obtain ⟨c, tail, hc, -, -, hmark⟩ := h.starts
  rw [List.append_nil] at hskip hval
  unfold readChars
  split
  · exact absurd (List.cons.inj hc).1.symm hmark
  · rw [hskip, hval]
    rfl

/-- **What is printed is read back.** -/
theorem read_print {v : Value} (h : v.Held IsExact) :
    ∃ cs, print compact v = .ok cs ∧ readChars .empty cs = .ok v := by
  obtain ⟨cs, hp, hread⟩ := print_of_held h
  exact ⟨cs, hp, readChars_of_readsAs hread⟩

/-! ### Values that are read -/

/-- A number of so many digits. -/
theorem ofDigitChars_lt {digits : List Char} (h : ∀ c ∈ digits, c.isDigit = true) :
    Nat.ofDigitChars 10 digits 0 < 10 ^ digits.length := by
  have hdigit : ∀ c : Char, c.isDigit = true → c.toNat - '0'.toNat ≤ 9 := by
    intro c hc
    have hle : c.toNat ≤ 57 := by
      simp only [Char.isDigit, Bool.and_eq_true, decide_eq_true_eq] at hc
      exact hc.2
    show c.toNat - 48 ≤ 9
    omega
  have hfrom : ∀ n, Nat.ofDigitChars 10 digits n < 10 ^ digits.length * (n + 1) := by
    induction digits with
    | nil => intro n; simp
    | cons c digits ih =>
      rw [List.forall_mem_cons] at h
      intro n
      rw [Nat.ofDigitChars_cons, List.length_cons, Nat.pow_succ, Nat.mul_assoc]
      refine Nat.lt_of_lt_of_le (ih h.2 _) (Nat.mul_le_mul_left _ ?_)
      have := hdigit c h.1
      omega
  simpa using hfrom 0

theorem isDigit_of_readWhole {s whole rest : List Char} (h : readWhole s = some (whole, rest)) :
    ∀ c ∈ whole, c.isDigit = true := by
  unfold readWhole at h
  split at h
  · cases h
    exact List.forall_mem_singleton.2 rfl
  · split at h
    · next c tail _ hc =>
      cases h
      exact List.forall_mem_cons.2 ⟨hc, fun d hd => List.mem_takeWhile_imp hd⟩
    · cases h
  · cases h

theorem natAbs_signed (negative : Bool) (n : Nat) :
    (if negative then -(n : Int) else n).natAbs = n := by
  cases negative <;> simp

theorem held_readNumber {s rest : List Char} {v : Value} (h : readNumber s = .ok (v, rest)) :
    v.Held IsRead := by
  unfold readNumber at h
  dsimp only at h
  split at h
  · cases h
  · next whole after hwhole =>
    split at h
    · split at h
      · cases h
      · next hlen =>
        cases h
        have hlt := Nat.lt_of_lt_of_le (ofDigitChars_lt (isDigit_of_readWhole hwhole))
          (Nat.pow_le_pow_right (by decide) (Nat.not_lt.1 hlen))
        refine .scalar rfl (show Int.natAbs (ite _ _ _) < _ from ?_)
        rwa [natAbs_signed]
    · cases h
      exact .scalar rfl trivial

theorem held_readWord {s rest : List Char} {v : Value} (h : readWord s = .ok (v, rest)) :
    v.Held IsRead := by
  unfold readWord at h
  split at h
  · cases h
    exact .null
  split at h
  · cases h
    exact .scalar rfl trivial
  split at h
  · cases h
    exact .scalar rfl trivial
  split at h
  · cases h
    exact .scalar rfl trivial
  split at h
  · cases h
    exact .scalar rfl trivial
  split at h
  · cases h
    exact .scalar rfl trivial
  exact held_readNumber h

theorem isScalar_ofText (t : Text) : (Value.ofText t).isScalar = true := by
  rcases Value.ofText_cases t with ⟨s, -, h⟩ | ⟨l, -, h⟩ <;> rw [h] <;> rfl

/-- A condition that holds of the strings of a text with these surrogates, and of what else is read
as a scalar. -/
structure HoldsOfScalars (raw : Surrogates) (scalar : Value → Prop) : Prop where
  string {start s after : List Char} {fuel : Nat} {points : List CodePoint}
    (h : readString raw start fuel s = .ok (points, after)) : scalar (.ofText ⟨points⟩)
  word (v : Value) (h : IsRead v) : scalar v

/-- What the steps read, by induction on their number. -/
theorem held_steps {raw : Surrogates} {scalar : Value → Prop} (hs : HoldsOfScalars raw scalar)
    (fuel : Nat) :
    (∀ s v rest, readValue raw fuel s = .ok (v, rest) → v.Held scalar) ∧
      (∀ s items rest, readItems raw fuel s = .ok (items, rest) → ∀ v ∈ items, v.Held scalar) ∧
      ∀ s fields rest, readFields raw fuel s = .ok (fields, rest) →
        ∃ pairs, fields = Fields.named pairs ∧
          ∀ p ∈ pairs, scalar (.ofText p.1) ∧ p.2.Held scalar := by
  induction fuel with
  -- a reader without fuel reads nothing
  | zero =>
    refine ⟨fun s v rest h => ?_, fun s items rest h => ?_, fun s fields rest h => ?_⟩
    · rw [readValue] at h
      cases h
    · rw [readItems] at h
      cases h
    · rw [readFields] at h
      cases h
  | succ fuel ih =>
    obtain ⟨hvalue, hitems, hfields⟩ := ih
    refine ⟨fun s v rest h => ?_, fun s items rest h => ?_, fun s fields rest h => ?_⟩
    · unfold readValue at h
      split at h
      · cases h
      split at h
      · obtain ⟨⟨points, after⟩, hpoints, h⟩ := bind_eq_ok.1 h
        cases h
        exact .scalar (isScalar_ofText _) (hs.string hpoints)
      split at h
      · split at h
        · cases h
          exact .list (List.forall_mem_nil _)
        · obtain ⟨⟨items, after⟩, hread, h⟩ := bind_eq_ok.1 h
          cases h
          exact .list (hitems _ _ _ hread)
      split at h
      · split at h
        · cases h
          exact @Value.Held.map _ [] .nil (List.forall_mem_nil _) (List.forall_mem_nil _)
        · obtain ⟨⟨fields, after⟩, hread, h⟩ := bind_eq_ok.1 h
          cases h
          obtain ⟨pairs, rfl, hpairs⟩ := hfields _ _ _ hread
          exact .ofPairs hpairs
      · exact (held_readWord h).imp hs.word
    · rw [readItems] at h
      obtain ⟨⟨x, after⟩, hx, h⟩ := bind_eq_ok.1 h
      dsimp only at h
      split at h
      · cases h
        exact List.forall_mem_singleton.2 (hvalue _ _ _ hx)
      · obtain ⟨⟨xs, after⟩, hxs, h⟩ := bind_eq_ok.1 h
        cases h
        exact List.forall_mem_cons.2 ⟨hvalue _ _ _ hx, hitems _ _ _ hxs⟩
      · cases h
    · -- a field is the last one, or others follow it
      unfold readFields at h
      split at h
      · obtain ⟨⟨key, after⟩, hkey, h⟩ := bind_eq_ok.1 h
        dsimp only at h
        have hkey := hs.string hkey
        split at h
        · obtain ⟨⟨x, after⟩, hx, h⟩ := bind_eq_ok.1 h
          have hx := hvalue _ _ _ hx
          dsimp only at h
          split at h
          · cases h
            exact ⟨[(⟨key⟩, x)], rfl, List.forall_mem_singleton.2 ⟨hkey, hx⟩⟩
          · obtain ⟨⟨others, after⟩, hothers, h⟩ := bind_eq_ok.1 h
            obtain ⟨pairs, rfl, hpairs⟩ := hfields _ _ _ hothers
            cases h
            exact ⟨(⟨key⟩, x) :: pairs, rfl, List.forall_mem_cons.2 ⟨⟨hkey, hx⟩, hpairs⟩⟩
          · cases h
        · cases h
      · cases h

/-- What a text with surrogates is read as. -/
theorem held_of_readChars {raw : Surrogates} {scalar : Value → Prop}
    (hs : HoldsOfScalars raw scalar) {s : List Char} {v : Value} (h : readChars raw s = .ok v) :
    v.Held scalar := by
  unfold readChars at h
  split at h
  · cases h
  · obtain ⟨⟨w, rest⟩, hread, h⟩ := bind_eq_ok.1 h
    dsimp only at h
    split at h
    · cases h
      exact (held_steps hs _).1 _ _ _ hread
    · cases h

/-- **What a string is read as.** -/
theorem held_readChars {s : List Char} {v : Value} (h : readChars .empty s = .ok v) :
    v.Held IsRead :=
  held_of_readChars ⟨fun h => (isExact_ofText (isChain_of_readString h)).1, fun _ h => h⟩ h

/-- A value that is no bytes. -/
def NoBytes (v : Value) : Prop := ∀ kind s, v ≠ .bytes kind s

/-- Fields that are named by texts and hold no bytes. -/
def TextFields (fields : Fields) : Prop :=
  ∃ pairs, fields = Fields.named pairs ∧ ∀ p ∈ pairs, NoBytes p.2

/-- **The keys of a map that is read** are texts, and none of its values is bytes. -/
theorem textFields_of_held {fields : Fields} (h : (Value.map fields).Held IsRead) :
    TextFields fields := by
  have hbytes : ∀ v : Value, v.Held IsRead → NoBytes v := by
    rintro v hv kind data rfl
    cases hv with
    | scalar _ h => exact h
  cases h with
  | scalar hv => cases hv
  | map _ _ hpairs => exact ⟨_, rfl, fun p hp => hbytes _ (hpairs p hp)⟩

/-- An exact scalar is not converted. -/
theorem convert_isExact {v : Value} (h : IsExact v) : Encoding.json.convert v = v := by
  cases v <;> first | rfl | exact False.elim h.1

/-- A normal form has nothing that JSON cannot hold. -/
theorem held_normalForm {v : Value} (h : v.Plain Scalar) :
    (v.normalForm Encoding.json.convert).Held IsExact := by
  refine h.held (fun w hw hscalar => ?_) fun name hname => ?_
  · rcases hscalar with hexact | ⟨kind, s, rfl⟩
    · rw [convert_isExact hexact]
      exact ⟨hw, hexact⟩
    · exact ⟨rfl, isExact_text _⟩
  · rcases hname with hexact | ⟨kind, s, hbytes⟩
    · exact hexact
    · have hscalar := congrArg Value.text? hbytes
      rw [Value.text?_ofText] at hscalar
      cases hscalar

end Json

namespace Encoding

/-- A body in JSON is read as its text is. -/
theorem parse_json_of_read {cs : List Char} {v : Value} (h : Json.readChars .empty cs = .ok v) :
    json.parse (Utf8.encodeChars cs) = .ok v := by
  refine bind_eq_ok.2 ⟨String.ofList cs, mapError_eq_ok.2 (Utf8.decode_encodeChars cs), ?_⟩
  refine mapError_eq_ok.2 (mapError_eq_ok.2 ?_)
  rw [Json.surrogatesOf_ofString, Text.replaced_ofString, String.toList_ofList]
  exact h

/-- What a body in JSON is read as. -/
theorem held_of_parse_json {body : Bytes} {v : Value} (h : json.parse body = .ok v) :
    v.Held Json.IsRead := by
  obtain ⟨text, -, hread⟩ := bind_eq_ok.1 h
  have hchars : Json.readChars .empty text.toList = .ok v := by
    have hraw := mapError_eq_ok.1 (mapError_eq_ok.1 hread)
    rwa [Json.surrogatesOf_ofString, Text.replaced_ofString] at hraw
  exact Json.held_readChars hchars

/-- A document of JSON has a body of at least its braces if its scalars are printed. -/
theorem exists_encode_json {fields : Fields} (h : (Value.map fields).Held Json.IsPrinted) :
    ∃ body, json.encode (.map fields) = .ok body ∧ body ≠ [] := by
  obtain ⟨cs, hp⟩ := Json.exists_print h
  have henc : json.encode (.map fields) = .ok (Utf8.encodeChars cs) := by
    unfold encode
    simp only [hp]; rfl
  rw [Json.print] at hp
  obtain ⟨inner, -, hcs⟩ := bind_eq_ok.1 hp
  refine ⟨_, henc, ?_⟩
  rw [← Except.ok.inj hcs]
  exact List.cons_ne_nil _ _

/-- **A document of JSON is read back from its body.** -/
theorem parse_encode_json {v : Value} (h : v.Held Json.IsExact) :
    ∃ body, json.encode v = .ok body ∧ json.parse body = .ok v := by
  obtain ⟨cs, hp, hr⟩ := Json.read_print h
  have henc : json.encode v = .ok (Utf8.encodeChars cs) := by
    unfold encode
    simp only [hp]; rfl
  exact ⟨_, henc, parse_json_of_read hr⟩

/-- An empty body is no document of JSON. -/
theorem parse_json_nil (v : Value) : json.parse [] ≠ .ok v := by
  intro h
  have hdec : Utf8.decode [] = .ok (String.ofList []) := Utf8.decode_encodeChars []
  have hread : ∃ e, Json.read (String.ofList []) = .error e := ⟨_, rfl⟩
  obtain ⟨e, he⟩ := hread
  unfold parse at h
  simp only [hdec, Except.mapError] at h
  change (Json.read (String.ofList [])).mapError _ = _ at h
  rw [he] at h
  cases h

end Encoding

end ServiceClient
