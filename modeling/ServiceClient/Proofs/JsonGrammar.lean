import Mathlib.Data.List.Forall2
import ServiceClient.Proofs.JsonString
import ServiceClient.Proofs.NumberText
import ServiceClient.Proofs.Outcome

/-!
# The grammar of JSON

The texts of JSON (RFC 8259), and which printed texts are among them. The grammar has no words for
numbers that are infinite or no numbers; where one is printed, a capital letter stands outside of
all strings, and no text of the grammar has one there.

* `IsValue`, `IsText`: the grammar, with blanks around its marks and in front of and behind a value.
* `outer`: the characters of a text that stand outside of strings.
* `IsValue.plain`: no text of the grammar has a word for a number.
* `isText_print`: a printed text is a text of the grammar exactly if all its numbers are finite.
-/

namespace ServiceClient

mutual

/-- Whether all doubles in a value are finite, and all decimals have finite doubles next to them. -/
def Value.isFinite : Value → Bool
  | .double d => d.isFinite
  | .decimal d => d.toDouble.isFinite
  | .list items | .tuple items => itemsAreFinite items
  | .map fields => fieldsAreFinite fields
  | _ => true

def Value.itemsAreFinite : List Value → Bool
  | [] => true
  | v :: rest => v.isFinite && itemsAreFinite rest

def Value.fieldsAreFinite : List (Value × Value) → Bool
  | [] => true
  | (_, v) :: rest => v.isFinite && fieldsAreFinite rest

end

namespace Json

/-! ### The grammar -/

/-- Blanks between the tokens of a text. -/
def IsBlank (s : List Char) : Prop := ∀ c ∈ s, c = ' ' ∨ c = '\t' ∨ c = '\n' ∨ c = '\r'

/-- A structural mark with blanks around it. -/
def IsMark (c : Char) (s : List Char) : Prop :=
  ∃ front back, IsBlank front ∧ IsBlank back ∧ s = front ++ c :: back

/-- A point and at least one digit. -/
def IsFraction (s : List Char) : Prop :=
  ∃ digits, IsDigits digits ∧ digits ≠ [] ∧ s = '.' :: digits

/-- The letter of an exponent, a sign or none, and at least one digit. -/
def IsExponent (s : List Char) : Prop :=
  ∃ letter sign digits, (letter = 'e' ∨ letter = 'E') ∧
    (sign = [] ∨ sign = ['+'] ∨ sign = ['-']) ∧ IsDigits digits ∧ digits ≠ [] ∧
    s = letter :: (sign ++ digits)

/-- A number: no zero stands in front of other digits. -/
def IsNumber (s : List Char) : Prop :=
  ∃ minus whole fraction exponent, (minus = [] ∨ minus = ['-']) ∧ IsWhole whole ∧
    (fraction = [] ∨ IsFraction fraction) ∧ (exponent = [] ∨ IsExponent exponent) ∧
    s = minus ++ (whole ++ (fraction ++ exponent))

/-- One character of a string, as it is or escaped. -/
inductive IsItem : List Char → Prop
  | plain {c : Char} (h : 0x20 ≤ c.toNat) (hquote : c ≠ '"') (hslash : c ≠ '\\') : IsItem [c]
  | simple {c : Char} (h : c ∈ ['"', '\\', '/', 'b', 'f', 'n', 'r', 't']) : IsItem ['\\', c]
  | unit {a b c d : Char} (h : ∀ x ∈ [a, b, c, d], (hexValue? x).isSome = true) :
    IsItem ['\\', 'u', a, b, c, d]

/-- A string between double quotes. -/
def IsString (s : List Char) : Prop :=
  ∃ items : List (List Char), (∀ i ∈ items, IsItem i) ∧ s = '"' :: (items.flatten ++ ['"'])

/-- The parts of a container with a comma between each two of them. -/
inductive IsSeparated : List (List Char) → List Char → Prop
  | nil : IsSeparated [] []
  | one (s : List Char) : IsSeparated [s] s
  | more {s mark t content : List Char} {rest : List (List Char)} (hmark : IsMark ',' mark)
    (h : IsSeparated (t :: rest) content) : IsSeparated (s :: t :: rest) (s ++ (mark ++ content))

/-- The parts of a member of an object. -/
structure Member where
  name : List Char
  colon : List Char
  value : List Char

/-- The text of a member. -/
def Member.text (m : Member) : List Char := m.name ++ (m.colon ++ m.value)

/-- **A value of the grammar.** -/
inductive IsValue : List Char → Prop
  | null : IsValue "null".toList
  | true : IsValue "true".toList
  | false : IsValue "false".toList
  | number {s : List Char} (h : IsNumber s) : IsValue s
  | string {s : List Char} (h : IsString s) : IsValue s
  | array {left content right : List Char} {items : List (List Char)} (hleft : IsMark '[' left)
    (h : ∀ s ∈ items, IsValue s) (hcontent : IsSeparated items content)
    (hright : IsMark ']' right) : IsValue (left ++ (content ++ right))
  | object {left content right : List Char} {members : List Member} (hleft : IsMark '{' left)
    (hname : ∀ m ∈ members, IsString m.name) (hcolon : ∀ m ∈ members, IsMark ':' m.colon)
    (h : ∀ m ∈ members, IsValue m.value) (hcontent : IsSeparated (members.map Member.text) content)
    (hright : IsMark '}' right) : IsValue (left ++ (content ++ right))

/-- **A text of JSON**: a value with blanks around it. -/
def IsText (s : List Char) : Prop :=
  ∃ front value back, IsBlank front ∧ IsValue value ∧ IsBlank back ∧ s = front ++ (value ++ back)

theorem isMark_alone (c : Char) : IsMark c [c] :=
  ⟨[], [], List.forall_mem_nil _, List.forall_mem_nil _, rfl⟩

/-! ### Outside of strings -/

/-- Where a character of a text stands. -/
inductive Place
  | outside
  | inside
  /-- Behind a backslash in a string. -/
  | escaped
deriving DecidableEq

/-- Where the character behind a character stands. -/
def Place.next : Place → Char → Place
  | .outside, c => if c = '"' then .inside else .outside
  | .inside, c => if c = '"' then .outside else if c = '\\' then .escaped else .inside
  | .escaped, _ => .inside

/-- The characters of a text that stand outside of strings, the first one of it at a place. -/
def outer (p : Place) : List Char → List Char
  | [] => []
  | c :: rest => if p = .outside then c :: outer (p.next c) rest else outer (p.next c) rest

theorem outer_append (p : Place) (s t : List Char) :
    outer p (s ++ t) = outer p s ++ outer (s.foldl Place.next p) t := by
  induction s generalizing p with
  | nil => rfl
  | cons c s ih =>
    rw [List.cons_append, outer, outer, List.foldl_cons, ih]
    split <;> rfl

/-- Every string that is opened is closed. -/
def IsClosed (s : List Char) : Prop := s.foldl Place.next .outside = .outside

theorem IsClosed.append {s t : List Char} (hs : IsClosed s) (ht : IsClosed t) :
    IsClosed (s ++ t) := by
  unfold IsClosed at *
  rw [List.foldl_append, hs, ht]

/-- The first letters of the words for numbers that are not finite. -/
def isCapital (c : Char) : Bool := c == 'N' || c == 'I'

/-- Whether a word for a number that is not finite stands outside of strings. -/
def hasWord (s : List Char) : Bool := (outer .outside s).any isCapital

theorem hasWord_append {s t : List Char} (h : IsClosed s) :
    hasWord (s ++ t) = (hasWord s || hasWord t) := by
  unfold hasWord
  rw [outer_append, h, List.any_append]

/-- Closed strings, and no word for a number outside of them. -/
structure IsPlain (s : List Char) : Prop where
  closed : IsClosed s
  noWord : hasWord s = false

theorem isPlain_nil : IsPlain [] := ⟨rfl, rfl⟩

theorem IsPlain.append {s t : List Char} (hs : IsPlain s) (ht : IsPlain t) : IsPlain (s ++ t) := by
  refine ⟨hs.closed.append ht.closed, ?_⟩
  rw [hasWord_append hs.closed, hs.noWord, ht.noWord]
  rfl

/-- A character that neither opens a string nor starts a word. -/
def isOrdinary (c : Char) : Bool := c != '"' && !isCapital c

/-- No string and no word stands in a text of ordinary characters. -/
theorem isPlain_of_all {s : List Char} (h : s.all isOrdinary = true) : IsPlain s := by
  induction s with
  | nil => exact isPlain_nil
  | cons c s ih =>
    rw [List.all_cons, Bool.and_eq_true] at h
    obtain ⟨hfirst, hrest⟩ := h
    unfold isOrdinary at hfirst
    rw [Bool.and_eq_true, bne_iff_ne, Bool.not_eq_true'] at hfirst
    obtain ⟨hquote, hcapital⟩ := hfirst
    obtain ⟨hclosed, hword⟩ := ih hrest
    have hnext : Place.next .outside c = .outside := if_neg hquote
    refine ⟨?_, ?_⟩
    · unfold IsClosed
      rw [List.foldl_cons, hnext]
      exact hclosed
    · unfold hasWord at hword ⊢
      rw [outer, if_pos rfl, hnext, List.any_cons, hcapital, hword]
      rfl

/-- The characters of numbers are ordinary. -/
theorem isPlain_of_numeric {s : List Char}
    (h : ∀ c ∈ s, c.isDigit = true ∨ c ∈ ['-', '+', '.', 'e', 'E']) : IsPlain s := by
  refine isPlain_of_all (List.all_eq_true.2 fun c hc => ?_)
  rcases h c hc with hdigit | hmark
  · have hne : ∀ d : Char, d.isDigit = false → c ≠ d := by
      rintro d hd rfl
      rw [hd] at hdigit
      cases hdigit
    unfold isOrdinary isCapital
    rw [Bool.and_eq_true, bne_iff_ne, Bool.not_eq_true', Bool.or_eq_false_iff,
      beq_eq_false_iff_ne, beq_eq_false_iff_ne]
    exact ⟨hne _ (by decide), hne _ (by decide), hne _ (by decide)⟩
  · have hall : ['-', '+', '.', 'e', 'E'].all isOrdinary = true := by decide
    exact List.all_eq_true.1 hall c hmark

theorem IsNumber.plain {s : List Char} (h : IsNumber s) : IsPlain s := by
  obtain ⟨minus, whole, fraction, exponent, hminus, hwhole, hfraction, hexponent, rfl⟩ := h
  refine isPlain_of_numeric fun c hc => ?_
  simp only [List.mem_append] at hc
  rcases hc with hc | hc | hc | hc
  · rcases hminus with rfl | rfl
    · cases hc
    · right
      rw [List.mem_singleton.1 hc]
      decide
  · exact .inl (hwhole.1 c hc)
  · rcases hfraction with rfl | ⟨digits, hdigits, -, rfl⟩
    · cases hc
    · rcases List.mem_cons.1 hc with rfl | hc
      · right
        decide
      · exact .inl (hdigits c hc)
  · rcases hexponent with rfl | ⟨letter, sign, digits, hletter, hsign, hdigits, -, rfl⟩
    · cases hc
    · rcases List.mem_cons.1 hc with rfl | hc
      · right
        rcases hletter with rfl | rfl <;> decide
      · rcases List.mem_append.1 hc with hc | hc
        · right
          rcases hsign with rfl | rfl | rfl
          · cases hc
          · rw [List.mem_singleton.1 hc]
            decide
          · rw [List.mem_singleton.1 hc]
            decide
        · exact .inl (hdigits c hc)

theorem IsBlank.plain {s : List Char} (h : IsBlank s) : IsPlain s := by
  refine isPlain_of_all (List.all_eq_true.2 fun c hc => ?_)
  rcases h c hc with rfl | rfl | rfl | rfl <;> decide

theorem IsMark.plain {c : Char} (hc : isOrdinary c = true) {s : List Char} (h : IsMark c s) :
    IsPlain s := by
  obtain ⟨front, back, hfront, hback, rfl⟩ := h
  have hmark : IsPlain [c] := by
    apply isPlain_of_all
    rw [List.all_cons, hc]
    rfl
  exact hfront.plain.append (hmark.append hback.plain)

/-- A character of a string leaves the string open. -/
theorem IsItem.stays {i : List Char} (h : IsItem i) :
    i.foldl Place.next .inside = .inside ∧ outer .inside i = [] := by
  have hplain : ∀ c, c ≠ '"' → c ≠ '\\' → Place.next .inside c = .inside := by
    intro c hquote hslash
    exact (if_neg hquote).trans (if_neg hslash)
  have hslash : Place.next .inside '\\' = .escaped := rfl
  have hescaped : ∀ c, Place.next .escaped c = .inside := fun _ => rfl
  cases h with
  | plain _ hq hb => simp [outer, hplain _ hq hb]
  | simple _ => simp [outer, hslash, hescaped]
  | @unit a b c d hex =>
    have hnext : ∀ x ∈ [a, b, c, d], Place.next .inside x = .inside := by
      intro x hx
      refine hplain x ?_ ?_
      · rintro rfl
        exact absurd (hex _ hx) (by decide)
      · rintro rfl
        exact absurd (hex _ hx) (by decide)
    simp only [List.forall_mem_cons] at hnext
    simp [outer, hslash, hescaped, hnext]

theorem IsString.plain {s : List Char} (h : IsString s) : IsPlain s := by
  obtain ⟨items, hitems, rfl⟩ := h
  have hstays : items.flatten.foldl Place.next .inside = .inside ∧
      outer .inside items.flatten = [] := by
    induction items with
    | nil => exact ⟨rfl, rfl⟩
    | cons i rest ih =>
      rw [List.forall_mem_cons] at hitems
      obtain ⟨hplace, houter⟩ := hitems.1.stays
      obtain ⟨hrest, hnone⟩ := ih hitems.2
      rw [List.flatten_cons, List.foldl_append, outer_append, hplace, houter]
      exact ⟨hrest, hnone⟩
  obtain ⟨hplace, houter⟩ := hstays
  refine ⟨?_, ?_⟩
  · unfold IsClosed
    rw [List.foldl_cons, List.foldl_append]
    show ([] ++ ['"']).foldl Place.next (items.flatten.foldl Place.next .inside) = _
    rw [hplace]
    rfl
  · have hout : outer .outside ('"' :: (items.flatten ++ ['"'])) =
        '"' :: outer .inside (items.flatten ++ ['"']) := rfl
    unfold hasWord
    rw [hout, outer_append, houter, hplace]
    rfl

/-- A container is closed if its parts are, and has a word exactly if one of them has. -/
theorem IsSeparated.words {parts : List (List Char)} {content : List Char}
    (h : IsSeparated parts content) (hparts : ∀ s ∈ parts, IsClosed s) :
    IsClosed content ∧ hasWord content = parts.any hasWord := by
  induction h with
  | nil => exact ⟨rfl, rfl⟩
  | one s =>
    rw [List.forall_mem_singleton] at hparts
    refine ⟨hparts, ?_⟩
    rw [List.any_cons, List.any_nil, Bool.or_false]
  | more hmark _ ih =>
    rw [List.forall_mem_cons] at hparts
    obtain ⟨hclosed, hword⟩ := ih hparts.2
    have hplain := hmark.plain (by decide)
    refine ⟨hparts.1.append (hplain.closed.append hclosed), ?_⟩
    rw [hasWord_append hparts.1, hasWord_append hplain.closed, hplain.noWord, hword]
    rfl

/-- A container in its marks. -/
theorem words_container {left content right : List Char} {parts : List (List Char)}
    (hleft : IsPlain left) (hright : IsPlain right) (h : IsSeparated parts content)
    (hparts : ∀ s ∈ parts, IsClosed s) :
    IsClosed (left ++ (content ++ right)) ∧
      hasWord (left ++ (content ++ right)) = parts.any hasWord := by
  obtain ⟨hclosed, hword⟩ := h.words hparts
  refine ⟨hleft.closed.append (hclosed.append hright.closed), ?_⟩
  rw [hasWord_append hleft.closed, hasWord_append hclosed, hleft.noWord, hright.noWord, hword,
    Bool.false_or, Bool.or_false]

/-- The same for parts without words. -/
theorem isPlain_container {left content right : List Char} {parts : List (List Char)}
    (hleft : IsPlain left) (hright : IsPlain right) (h : IsSeparated parts content)
    (hparts : ∀ s ∈ parts, IsPlain s) : IsPlain (left ++ (content ++ right)) := by
  obtain ⟨hclosed, hword⟩ := words_container hleft hright h fun s hs => (hparts s hs).closed
  refine ⟨hclosed, ?_⟩
  rw [hword, List.any_eq_false]
  intro s hs
  rw [(hparts s hs).noWord]
  exact Bool.false_ne_true

/-- **No value of the grammar has a word for a number.** -/
theorem IsValue.plain {s : List Char} (h : IsValue s) : IsPlain s := by
  induction h with
  | null => exact isPlain_of_all (by decide)
  | true => exact isPlain_of_all (by decide)
  | false => exact isPlain_of_all (by decide)
  | number h => exact h.plain
  | string h => exact h.plain
  | array hleft _ hcontent hright ih =>
    exact isPlain_container (hleft.plain (by decide)) (hright.plain (by decide)) hcontent ih
  -- a member has its name in front, and a name has no words outside of its quotation marks
  | @object _ _ _ members hleft hname hcolon _ hcontent hright ih =>
    refine isPlain_container (hleft.plain (by decide)) (hright.plain (by decide)) hcontent ?_
    intro s hs
    obtain ⟨m, hm, rfl⟩ := List.mem_map.1 hs
    exact (hname m hm).plain.append (((hcolon m hm).plain (by decide)).append (ih m hm))

theorem IsText.plain {s : List Char} (h : IsText s) : IsPlain s := by
  obtain ⟨front, value, back, hfront, hvalue, hback, rfl⟩ := h
  exact hfront.plain.append (hvalue.plain.append hback.plain)

/-! ### Printed scalars -/

theorem isNumber_text (negative : Bool) (t : NumberText) :
    IsNumber (Double.signChars negative ++ t.chars 'e') := by
  refine ⟨_, t.whole, t.fractionChars, t.exponentChars 'e', ?_, t.isWhole, ?_, ?_, rfl⟩
  · cases negative
    · exact .inl rfl
    · exact .inr rfl
  · unfold NumberText.fractionChars
    split
    · exact .inl rfl
    · rename_i hsome
      exact .inr ⟨t.fraction, t.isFraction, hsome, rfl⟩
  · unfold NumberText.exponentChars
    split
    · exact .inl rfl
    · rename_i hsome
      exact .inr ⟨'e', t.sign, t.exponent, .inl rfl, t.isSign, t.isExponent, hsome, rfl⟩

theorem isNumber_printInt (n : Int) : IsNumber (printInt n) := by
  have hwhole := isWhole_decimalDigits n.natAbs
  unfold printInt
  split
  · exact ⟨['-'], _, [], [], .inr rfl, hwhole, .inl rfl, .inl rfl, by simp⟩
  · exact ⟨[], _, [], [], .inl rfl, hwhole, .inl rfl, .inl rfl, by simp⟩

theorem isSome_hexValue?_digitChar : ∀ n < 16, (hexValue? (Nat.digitChar n)).isSome = true := by
  decide

theorem isItem_unitEscape {n : Nat} (h : n < 0x10000) : IsItem (unitEscape n) := by
  have hdigit := isSome_hexValue?_digitChar
  unfold unitEscape
  rw [hexPadded_four h]
  refine .unit fun x hx => ?_
  simp only [List.mem_cons, List.not_mem_nil, or_false] at hx
  rcases hx with rfl | rfl | rfl | rfl
  · exact hdigit _ (by omega)
  · exact hdigit _ (by omega)
  · exact hdigit _ (by omega)
  · exact hdigit _ (by omega)

/-- A character is printed as one character of a string, or as two. -/
theorem exists_items_escape (c : Char) :
    ∃ items : List (List Char), (∀ i ∈ items, IsItem i) ∧ escape c = items.flatten := by
  have hone : ∀ i, IsItem i →
      ∃ items : List (List Char), (∀ i ∈ items, IsItem i) ∧ i = items.flatten := by
    intro i hi
    exact ⟨[i], by rwa [List.forall_mem_singleton], by simp⟩
  have hvalid : c.toNat < 0xD800 ∨ 0xDFFF < c.toNat ∧ c.toNat < 0x110000 := c.valid
  unfold escape
  -- the cases of the printer in their order: marks, printable characters, short escapes, units
  by_cases hmark : c = '"' ∨ c = '\\'
  · rw [if_pos hmark]
    refine hone _ (.simple ?_)
    rcases hmark with rfl | rfl <;> decide
  rw [if_neg hmark]
  rw [not_or] at hmark
  by_cases hprintable : 32 ≤ c.toNat ∧ c.toNat < 127
  · rw [if_pos hprintable]
    exact hone _ (.plain hprintable.1 hmark.1 hmark.2)
  rw [if_neg hprintable]
  split
  · exact hone _ (.simple (by decide))
  split
  · exact hone _ (.simple (by decide))
  split
  · exact hone _ (.simple (by decide))
  split
  · exact hone _ (.simple (by decide))
  split
  · exact hone _ (.simple (by decide))
  split
  · rename_i hunit
    exact hone _ (isItem_unitEscape hunit)
  · -- two code units, each with an escape of its own
    refine ⟨[unitEscape (0xD800 + (c.toNat - 0x10000) / 1024),
      unitEscape (0xDC00 + (c.toNat - 0x10000) % 1024)], ?_, by simp⟩
    rw [List.forall_mem_cons, List.forall_mem_singleton]
    exact ⟨isItem_unitEscape (by omega), isItem_unitEscape (by omega)⟩

/-- A code point is printed likewise, a surrogate as its escape. -/
theorem exists_items_escapePoint (p : CodePoint) :
    ∃ items : List (List Char), (∀ i ∈ items, IsItem i) ∧ escapePoint p = items.flatten := by
  cases p with
  | char c => exact exists_items_escape c
  | surrogate n =>
    have hn := n.isLt
    refine ⟨[escapePoint (.surrogate n)], ?_, by simp⟩
    rw [List.forall_mem_singleton]
    exact isItem_unitEscape (show 0xD800 + n.val < 0x10000 by omega)

theorem isString_quotePoints (points : List CodePoint) : IsString (quotePoints points) := by
  have hitems : ∃ items : List (List Char), (∀ i ∈ items, IsItem i) ∧
      points.flatMap escapePoint = items.flatten := by
    induction points with
    | nil => exact ⟨[], List.forall_mem_nil _, rfl⟩
    | cons p points ih =>
      obtain ⟨front, hfront, hpoint⟩ := exists_items_escapePoint p
      obtain ⟨back, hback, hrest⟩ := ih
      refine ⟨front ++ back, ?_, ?_⟩
      · rw [List.forall_mem_append]
        exact ⟨hfront, hback⟩
      · rw [List.flatMap_cons, hpoint, hrest, List.flatten_append]
  obtain ⟨items, hitem, hflat⟩ := hitems
  exact ⟨items, hitem, by rw [quotePoints, hflat]; rfl⟩

theorem isString_quote (s : List Char) : IsString (quote s) := by
  rw [← quotePoints_map_char]
  exact isString_quotePoints _

/-! ### Printed values -/

/-- What is printed of a value: a value of the grammar if all its numbers are finite, and else a
text with a word for a number. -/
structure Printed (v : Value) (cs : List Char) : Prop where
  value : v.isFinite = true → IsValue cs
  closed : IsClosed cs
  word : hasWord cs = !v.isFinite

theorem printed_of_value {v : Value} {cs : List Char} (hfinite : v.isFinite = true)
    (h : IsValue cs) : Printed v cs := by
  refine ⟨fun _ => h, h.plain.closed, ?_⟩
  rw [h.plain.noWord, hfinite]
  rfl

/-- The text of a double. -/
theorem printed_double (d : Double) : Printed (.double d) (printDouble d) := by
  have hvalue : (Value.double d).isFinite = d.isFinite := rfl
  by_cases hfinite : d.isFinite = true
  · obtain ⟨hnan, hinf⟩ := Double.not_special hfinite
    obtain ⟨t, ht, -⟩ := Double.text_chars hnan hinf
    refine printed_of_value (hvalue.trans hfinite) (.number ?_)
    unfold printDouble
    rw [hnan, hinf, if_neg Bool.false_ne_true, if_neg Bool.false_ne_true, ht]
    exact isNumber_text d.isNegative t
  · -- one of the three words
    rw [Bool.not_eq_true] at hfinite
    have hspecial : d.isNaN = true ∨ d.isInfinite = true := by
      unfold Double.isFinite at hfinite
      unfold Double.isNaN Double.isInfinite
      rw [bne_eq_false_iff_eq] at hfinite
      by_cases hfraction : d.fraction = 0
      · right
        simp [hfinite, hfraction]
      · left
        simp [hfinite, hfraction]
    have hword : IsClosed (printDouble d) ∧ hasWord (printDouble d) = true := by
      unfold printDouble
      split
      · exact ⟨rfl, rfl⟩
      · rename_i hnan
        rw [if_pos (hspecial.resolve_left hnan)]
        cases d.isNegative
        · exact ⟨rfl, rfl⟩
        · exact ⟨rfl, rfl⟩
    refine ⟨fun h => ?_, hword.1, ?_⟩
    · rw [hvalue, hfinite] at h
      cases h
    · rw [hword.2, hvalue, hfinite]
      rfl

/-- The items of an array are printed one by one. -/
theorem exists_texts {items : List Value} {content : List Char}
    (hitems : ∀ v ∈ items, ∀ cs, print compact v = .ok cs → Printed v cs)
    (h : printItems compact items = .ok content) :
    ∃ texts, List.Forall₂ Printed items texts ∧ IsSeparated texts content := by
  induction items generalizing content with
  | nil =>
    rw [printItems] at h
    obtain rfl := Except.ok.inj h
    exact ⟨[], .nil, .nil⟩
  | cons v rest ih =>
    rw [List.forall_mem_cons] at hitems
    rw [printItems] at h
    obtain ⟨head, hhead, h⟩ := bind_eq_ok.1 h
    obtain ⟨tail, htail, h⟩ := bind_eq_ok.1 h
    obtain rfl := Except.ok.inj h
    obtain ⟨texts, hall, hseparated⟩ := ih hitems.2 htail
    have hfirst := hitems.1 head hhead
    refine ⟨head :: texts, .cons hfirst hall, ?_⟩
    cases hall with
    | nil =>
      cases hseparated
      rw [List.isEmpty_nil, if_pos rfl, List.append_nil, List.append_nil]
      exact .one head
    | cons _ _ =>
      rw [List.isEmpty_cons, if_neg Bool.false_ne_true, List.append_assoc]
      exact .more (isMark_alone ',') hseparated

/-- The members of an object are printed one by one, each key as a string. -/
theorem exists_members {fields : Fields} {content : List Char}
    (hfields : ∀ p ∈ fields, ∀ cs, print compact p.2 = .ok cs → Printed p.2 cs)
    (h : printFields compact fields = .ok content) :
    ∃ members : List Member, (∀ m ∈ members, IsString m.name ∧ m.colon = [':']) ∧
      List.Forall₂ (fun p m => Printed p.2 m.value) fields members ∧
      IsSeparated (members.map Member.text) content := by
  induction fields generalizing content with
  | nil =>
    rw [printFields] at h
    obtain rfl := Except.ok.inj h
    exact ⟨[], List.forall_mem_nil _, .nil, .nil⟩
  | cons p rest ih =>
    obtain ⟨k, x⟩ := p
    rw [List.forall_mem_cons] at hfields
    rw [printFields] at h
    obtain ⟨key, -, h⟩ := bind_eq_ok.1 h
    obtain ⟨head, hhead, h⟩ := bind_eq_ok.1 h
    obtain ⟨tail, htail, h⟩ := bind_eq_ok.1 h
    obtain rfl := Except.ok.inj h
    obtain ⟨members, hnames, hall, hseparated⟩ := ih hfields.2 htail
    have hfirst := hfields.1 head hhead
    refine ⟨⟨quotePoints key.points, [':'], head⟩ :: members, ?_, .cons hfirst hall, ?_⟩
    · rw [List.forall_mem_cons]
      exact ⟨⟨isString_quotePoints key.points, rfl⟩, hnames⟩
    · have htext : quotePoints key.points ++ compact.key ++ head =
          Member.text ⟨quotePoints key.points, [':'], head⟩ := by
        rw [Member.text, List.append_assoc]
        rfl
      rw [htext]
      -- the last member has no comma behind it
      cases hall with
      | nil =>
        cases hseparated
        rw [List.isEmpty_nil, if_pos rfl, List.append_nil, List.append_nil]
        exact .one _
      | cons _ _ =>
        rw [List.isEmpty_cons, if_neg Bool.false_ne_true, List.append_assoc]
        exact .more (isMark_alone ',') hseparated

/-- The words in an array are those of its items. -/
theorem words_of_items {items : List Value} {texts : List (List Char)}
    (h : List.Forall₂ Printed items texts) :
    (∀ s ∈ texts, IsClosed s) ∧ texts.any hasWord = !Value.itemsAreFinite items ∧
      (Value.itemsAreFinite items = true → ∀ s ∈ texts, IsValue s) := by
  induction h with
  | nil => exact ⟨List.forall_mem_nil _, rfl, fun _ => List.forall_mem_nil _⟩
  | cons hfirst _ ih =>
    obtain ⟨hclosed, hword, hvalue⟩ := ih
    rw [Value.itemsAreFinite, List.forall_mem_cons, List.any_cons, hfirst.word, hword,
      Bool.not_and, Bool.and_eq_true, List.forall_mem_cons]
    exact ⟨⟨hfirst.closed, hclosed⟩, rfl, fun hall => ⟨hfirst.value hall.1, hvalue hall.2⟩⟩

/-- The words in an object are those of the values of its members. -/
theorem words_of_members {fields : Fields} {members : List Member}
    (hnames : ∀ m ∈ members, IsString m.name ∧ m.colon = [':'])
    (h : List.Forall₂ (fun p m => Printed p.2 m.value) fields members) :
    (∀ s ∈ members.map Member.text, IsClosed s) ∧
      (members.map Member.text).any hasWord = !Value.fieldsAreFinite fields ∧
      (Value.fieldsAreFinite fields = true → ∀ m ∈ members, IsValue m.value) := by
  induction h with
  | nil => exact ⟨List.forall_mem_nil _, rfl, fun _ => List.forall_mem_nil _⟩
  | @cons p m _ _ hfirst _ ih =>
    rw [List.forall_mem_cons] at hnames
    obtain ⟨⟨hname, hcolon⟩, hrest⟩ := hnames
    obtain ⟨hclosed, hword, hvalue⟩ := ih hrest
    have hplain : IsPlain m.colon := by
      rw [hcolon]
      exact (isMark_alone ':').plain (by decide)
    have htext : hasWord m.text = hasWord m.value := by
      rw [Member.text, hasWord_append hname.plain.closed, hasWord_append hplain.closed,
        hname.plain.noWord, hplain.noWord]
      rfl
    rw [Value.fieldsAreFinite, List.map_cons, List.forall_mem_cons, List.any_cons, htext,
      hfirst.word, hword, Bool.not_and, Bool.and_eq_true, List.forall_mem_cons]
    exact ⟨⟨hname.plain.closed.append (hplain.closed.append hfirst.closed), hclosed⟩, rfl,
      fun hall => ⟨hfirst.value hall.1, hvalue hall.2⟩⟩

/-- A printed array, of a list or of a tuple. -/
theorem printed_array {v : Value} {items : List Value} {content : List Char}
    (hv : v.isFinite = Value.itemsAreFinite items)
    (hitems : ∀ v ∈ items, ∀ cs, print compact v = .ok cs → Printed v cs)
    (h : printItems compact items = .ok content) : Printed v ('[' :: content ++ [']']) := by
  obtain ⟨texts, hall, hseparated⟩ := exists_texts hitems h
  obtain ⟨hclosed, hword, hvalue⟩ := words_of_items hall
  obtain ⟨hclosedAll, hwordAll⟩ := words_container ((isMark_alone '[').plain (by decide))
    ((isMark_alone ']').plain (by decide)) hseparated hclosed
  refine ⟨fun hfinite => ?_, hclosedAll, ?_⟩
  · exact .array (isMark_alone '[') (hvalue (hv ▸ hfinite)) hseparated (isMark_alone ']')
  · rw [hv, ← hword]
    exact hwordAll

/-- A printed object. -/
theorem printed_object {fields : Fields} {content : List Char}
    (hfields : ∀ p ∈ fields, ∀ cs, print compact p.2 = .ok cs → Printed p.2 cs)
    (h : printFields compact fields = .ok content) :
    Printed (.map fields) ('{' :: content ++ ['}']) := by
  obtain ⟨members, hnames, hall, hseparated⟩ := exists_members hfields h
  obtain ⟨hclosed, hword, hvalue⟩ := words_of_members hnames hall
  obtain ⟨hclosedAll, hwordAll⟩ := words_container ((isMark_alone '{').plain (by decide))
    ((isMark_alone '}').plain (by decide)) hseparated hclosed
  refine ⟨fun hfinite => ?_, hclosedAll, ?_⟩
  · refine .object (isMark_alone '{') (fun m hm => (hnames m hm).1) (fun m hm => ?_)
      (hvalue hfinite) hseparated (isMark_alone '}')
    rw [(hnames m hm).2]
    exact isMark_alone ':'
  · rw [Value.isFinite, ← hword]
    exact hwordAll

mutual

/-- **What is printed of a value**, whichever value it is. -/
theorem printed_of_print : ∀ (v : Value) (cs : List Char), print compact v = .ok cs → Printed v cs
  | .null, cs, h => by
    rw [print] at h
    obtain rfl := Except.ok.inj h
    exact printed_of_value rfl .null
  | .bool b, cs, h => by
    rw [print] at h
    obtain rfl := Except.ok.inj h
    cases b
    · exact printed_of_value rfl .false
    · exact printed_of_value rfl .true
  | .int n, cs, h => by
    rw [print] at h
    unfold integerText at h
    split at h
    · cases h
    · obtain rfl := Except.ok.inj h
      exact printed_of_value rfl (.number (isNumber_printInt n))
  | .double d, cs, h => by
    rw [print] at h
    obtain rfl := Except.ok.inj h
    exact printed_double d
  | .text s, cs, h => by
    rw [print] at h
    obtain rfl := Except.ok.inj h
    exact printed_of_value rfl (.string (isString_quote s.toList))
  | .loose t, cs, h => by
    rw [print] at h
    obtain rfl := Except.ok.inj h
    exact printed_of_value rfl (.string (isString_quotePoints t.text.points))
  | .list items, cs, h => by
    rw [print] at h
    obtain ⟨content, hcontent, h⟩ := bind_eq_ok.1 h
    obtain rfl := Except.ok.inj h
    exact printed_array rfl (printed_of_printItems items) hcontent
  | .tuple items, cs, h => by
    rw [print] at h
    obtain ⟨content, hcontent, h⟩ := bind_eq_ok.1 h
    obtain rfl := Except.ok.inj h
    exact printed_array rfl (printed_of_printItems items) hcontent
  | .map fields, cs, h => by
    rw [print] at h
    obtain ⟨content, hcontent, h⟩ := bind_eq_ok.1 h
    obtain rfl := Except.ok.inj h
    exact printed_object (printed_of_printFields fields) hcontent
  | .decimal _, _, h => by cases h
  | .bytes _ _, _, h => by cases h
  | .timestamp _, _, h => by cases h
  | .set _, _, h => by cases h
  | .symbol _, _, h => by cases h
  | .tagged _ _, _, h => by cases h
  | .simple _, _, h => by cases h
  | .undefined, _, h => by cases h

theorem printed_of_printItems : ∀ (items : List Value), ∀ v ∈ items, ∀ cs,
    print compact v = .ok cs → Printed v cs
  | [], v, hv, _, _ => absurd hv List.not_mem_nil
  | x :: xs, v, hv, cs, h => by
    rcases List.mem_cons.1 hv with hx | hxs
    · rw [hx] at h ⊢
      exact printed_of_print x cs h
    · exact printed_of_printItems xs v hxs cs h

theorem printed_of_printFields : ∀ (fields : Fields), ∀ p ∈ fields, ∀ cs,
    print compact p.2 = .ok cs → Printed p.2 cs
  | [], p, hp, _, _ => absurd hp List.not_mem_nil
  | (k, x) :: rest, p, hp, cs, h => by
    rcases List.mem_cons.1 hp with hx | hrest
    · rw [hx] at h ⊢
      exact printed_of_print x cs h
    · exact printed_of_printFields rest p hrest cs h

end

/-- **A printed text is a text of JSON** exactly if all numbers of the value are finite. -/
theorem isText_print {v : Value} {cs : List Char} (h : print compact v = .ok cs) :
    IsText cs ↔ v.isFinite = true := by
  have hprinted := printed_of_print v cs h
  -- a word for a number shows in the text, and no text of the grammar has one
  constructor
  · intro htext
    have hword := htext.plain.noWord
    rw [hprinted.word, Bool.not_eq_false'] at hword
    exact hword
  · intro hfinite
    exact ⟨[], cs, [], List.forall_mem_nil _, hprinted.value hfinite, List.forall_mem_nil _,
      by simp⟩

end Json

end ServiceClient
