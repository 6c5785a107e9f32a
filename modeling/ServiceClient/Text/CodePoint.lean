/-!
# Text of code points

A text that arrives in escapes can hold one half of a surrogate pair without the other. Such a
half is a code point but no character, and no encoding can write it.

* `CodePoint`: a character or a surrogate.
* `Text`: a list of code points; every string is a text.
* `Text.string?`: the string that a text is, if it has no surrogate.
* `Text.replaced`: a text as a string, with a mark for each surrogate.
* `Loose`: the texts that are no strings.
-/

namespace ServiceClient

/-- A code point: a character, or a surrogate counted from U+D800. -/
inductive CodePoint
  | char (c : Char)
  | surrogate (n : Fin 2048)
deriving DecidableEq, Repr, Inhabited

namespace CodePoint

instance : Coe Char CodePoint := ⟨char⟩

/-- The number of the code point. -/
def toNat : CodePoint → Nat
  | char c => c.toNat
  | surrogate n => 0xD800 + n

/-- The code point of a number below 0x110000. -/
def ofNat (n : Nat) : CodePoint :=
  if h : 0xD800 ≤ n ∧ n < 0xE000 then surrogate ⟨n - 0xD800, by omega⟩ else char (Char.ofNat n)

def char? : CodePoint → Option Char
  | char c => some c
  | surrogate _ => none

def isSurrogate (p : CodePoint) : Bool := p.char?.isNone

/-- The surrogates that can stand first in a pair. -/
def isHigh : CodePoint → Bool
  | char _ => false
  | surrogate n => n.val < 1024

/-- The surrogates that can stand second in a pair. -/
def isLow : CodePoint → Bool
  | char _ => false
  | surrogate n => 1024 ≤ n.val

/-- The character that marks the place of a surrogate. -/
def mark : Char := '\uFFFD'

/-- The character, or the mark of a surrogate. -/
def shown : CodePoint → Char
  | char c => c
  | surrogate _ => mark

theorem toNat_lt (p : CodePoint) : p.toNat < 0x110000 := by
  cases p with
  | char c => exact c.valid.elim (fun h => Nat.lt_trans h (by decide)) And.right
  | surrogate n => have := n.isLt; simp only [toNat]; omega

@[simp] theorem shown_char (c : Char) : (char c).shown = c := rfl

@[simp] theorem char?_char (c : Char) : (char c).char? = some c := rfl

@[simp] theorem toNat_char (c : Char) : (char c).toNat = c.toNat := rfl

end CodePoint

/-- A text: code points in order. -/
structure Text where
  points : List CodePoint
deriving DecidableEq, Repr, Inhabited

namespace Text

/-- The text of characters. -/
def ofChars (s : List Char) : Text := ⟨s.map .char⟩

/-- A string as a text. -/
def ofString (s : String) : Text := ofChars s.toList

instance : Coe String Text := ⟨ofString⟩

instance : Append Text := ⟨fun a b => ⟨a.points ++ b.points⟩⟩

def isEmpty (t : Text) : Bool := t.points.isEmpty

def length (t : Text) : Nat := t.points.length

/-- The texts one after the other with a text between them. -/
def intercalate (between : Text) (parts : List Text) : Text :=
  ⟨between.points.intercalate (parts.map points)⟩

/-- The characters of code points none of which is a surrogate. -/
def chars? : List CodePoint → Option (List Char)
  | [] => some []
  | p :: rest => do return (← p.char?) :: (← chars? rest)

/-- The string that a text is, if it has no surrogate. -/
def string? (t : Text) : Option String := (chars? t.points).map String.ofList

/-- The text as a string with a mark in the place of each surrogate. -/
def replaced (t : Text) : String := String.ofList (t.points.map CodePoint.shown)

@[simp] theorem points_ofChars (s : List Char) : (ofChars s).points = s.map .char := rfl

@[simp] theorem points_ofString (s : String) : (ofString s).points = s.toList.map .char := rfl

@[simp] theorem points_append (a b : Text) : (a ++ b).points = a.points ++ b.points := rfl

@[ext] theorem ext_points {a b : Text} (h : a.points = b.points) : a = b := by
  cases a; cases b; cases h; rfl

theorem map_shown_char (s : List Char) :
    (s.map CodePoint.char).map CodePoint.shown = s := by
  rw [List.map_map]
  exact List.map_id s

/-- A string is itself, read back from its text. -/
@[simp] theorem replaced_ofString (s : String) : (ofString s).replaced = s := by
  unfold replaced
  rw [points_ofString, map_shown_char, String.ofList_toList]

theorem ofString_injective {a b : String} (h : ofString a = ofString b) : a = b := by
  rw [← replaced_ofString a, h, replaced_ofString]

@[simp] theorem ofString_inj {a b : String} : ofString a = ofString b ↔ a = b :=
  ⟨ofString_injective, congrArg ofString⟩

theorem ofString_append (a b : String) : ofString (a ++ b) = ofString a ++ ofString b := by
  ext1
  simp only [points_ofString, points_append, String.toList_append, List.map_append]

theorem chars?_map_char (s : List Char) : chars? (s.map .char) = some s := by
  induction s with
  | nil => rfl
  | cons c rest ih => simp [chars?, ih]

@[simp] theorem string?_ofString (s : String) : (ofString s).string? = some s := by
  unfold string?
  rw [points_ofString, chars?_map_char, Option.map_some, String.ofList_toList]

theorem map_char_of_chars? {points : List CodePoint} :
    ∀ {s : List Char}, chars? points = some s → points = s.map .char := by
  induction points with
  | nil => rintro s h; cases h; rfl
  | cons p rest ih =>
    intro s h
    cases p with
    | surrogate n => cases h
    | char c =>
      simp only [chars?, CodePoint.char?_char, Option.pure_def, Option.bind_eq_bind,
        Option.bind_some, Option.bind_eq_some_iff, Option.some.injEq] at h
      obtain ⟨tail, htail, rfl⟩ := h
      rw [ih htail, List.map_cons]

/-- A text is a string exactly if it is the text of one. -/
theorem string?_eq_some {t : Text} {s : String} : t.string? = some s ↔ t = ofString s := by
  constructor
  · intro h
    obtain ⟨chars, hchars, rfl⟩ := Option.map_eq_some_iff.1 h
    ext1
    rw [map_char_of_chars? hchars, points_ofString, String.toList_ofList]
  · rintro rfl
    exact string?_ofString s

@[simp] theorem isEmpty_ofString (s : String) : (ofString s).isEmpty = s.isEmpty := by
  unfold isEmpty
  rw [points_ofString, List.isEmpty_map, Bool.eq_iff_iff, List.isEmpty_iff,
    String.isEmpty_iff, String.toList_eq_nil_iff]

end Text

/-- A text that no string is: at least one of its code points is a surrogate. -/
structure Loose where
  text : Text
  isLoose : text.string? = none
deriving DecidableEq, Repr

instance : Inhabited Loose := ⟨⟨⟨[.surrogate 0]⟩, rfl⟩⟩

end ServiceClient
