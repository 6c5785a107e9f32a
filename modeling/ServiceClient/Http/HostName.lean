import ServiceClient.Text.NameTable
import ServiceClient.Text.Punycode
import ServiceClient.Text.Quoted

/-!
# Host names

A host name has labels between dots. In requests it stands in ASCII: a label with other
characters is brought to one spelling (RFC 3491) and becomes `xn--` and its Punycode. That
spelling has folded letters, no variants of characters and no marks apart from their letters.

* `HostName.prepare`: a label in its one spelling.
* `HostName.toAscii`: the name in ASCII, or what is wrong with a label.
* `LabelFault.message`: the wording.
-/

namespace ServiceClient

/-- What is wrong with a label. -/
inductive LabelFault
  | emptyOrLong
  | long
  /-- A label with other characters than ASCII that looks as if it were encoded. -/
  | encoded
  /-- A label with a character that no name has. -/
  | forbidden (c : Char)
  /-- A label that is read in both directions. -/
  | mixedDirections
  /-- A label that is read from right to left but does not start and end so. -/
  | openDirection
deriving DecidableEq, Repr

def LabelFault.message (fault : LabelFault) : String :=
  let reason := match fault with
    | .emptyOrLong => "label empty or too long"
    | .long => "label too long"
    | .encoded => "Label starts with ACE prefix"
    | .forbidden c => "Invalid character " ++ quoteText (String.singleton c)
    | .mixedDirections => "Violation of BIDI requirement 2"
    | .openDirection => "Violation of BIDI requirement 3"
  "encoding with 'idna' codec failed (UnicodeError: " ++ reason ++ ")"

namespace HostName

/-- The size that a label stays below. -/
def labelLimit : Nat := 64

def isAscii (s : List Char) : Bool := s.all (·.toNat < 128)

/-- The dots of host names in all scripts. -/
def isDot (c : Char) : Bool := ['.', '\u3002', '\uff0e', '\uff61'].contains c

/-- The three letters of a Korean syllable, or two. -/
def syllableParts (n : Nat) : List Nat :=
  let index := n - 0xAC00
  let vowel := 0x1161 + index % 588 / 28
  [0x1100 + index / 588, vowel] ++ (if index % 28 = 0 then [] else [0x11A7 + index % 28])

/-- What a character stands for in a name. -/
def fold (c : Char) : List Nat :=
  let n := c.toNat
  if 0xAC00 ≤ n ∧ n < 0xD7A4 then syllableParts n
  else
    match NameTable.foldRuns.find? (·.holds n) with
    | some r => [((n : Int) + r.shift).toNat]
    | none =>
      ((NameTable.foldSeries.findSome? fun (first, parts) =>
        if first ≤ n then parts[n - first]? else none)).getD [n]

/-- The place of a mark among those of its letter; a letter has none. -/
def markOrder (n : Nat) : Nat :=
  ((NameTable.orderRanges.find? fun r => r.1 ≤ n && n ≤ r.2.1).map (·.2.2)).getD 0

/-- Puts a mark in its place behind code points, the last of which stands first. -/
def placeMark (n : Nat) : List Nat → List Nat
  | [] => [n]
  | last :: rest =>
    if markOrder n ≠ 0 ∧ markOrder n < markOrder last then last :: placeMark n rest
    else n :: last :: rest

/-- The marks of each letter in their order. -/
def orderMarks (points : List Nat) : List Nat :=
  (points.foldl (fun placed n => placeMark n placed) []).reverse

/-- What two code points become together. -/
def compose? (a b : Nat) : Option Nat :=
  if 0x1100 ≤ a ∧ a < 0x1113 ∧ 0x1161 ≤ b ∧ b < 0x1176 then
    some (0xAC00 + ((a - 0x1100) * 21 + (b - 0x1161)) * 28)
  else if 0xAC00 ≤ a ∧ a < 0xD7A4 ∧ (a - 0xAC00) % 28 = 0 ∧ 0x11A7 < b ∧ b < 0x11C3 then
    some (a + (b - 0x11A7))
  else (NameTable.compositionSeries.lookup b).bind (List.lookup a)

/-- Joins a code point with those behind it: what it becomes, and what is left. A mark is out of
reach behind one that stays and has no lower place; `reached` is the place of the last one. -/
def absorb (base reached : Nat) : List Nat → Nat × List Nat
  | [] => (base, [])
  | n :: rest =>
    let order := markOrder n
    let keep (reached : Nat) : Nat × List Nat :=
      let (base, left) := absorb base reached rest
      (base, n :: left)
    if reached ≠ 0 ∧ order = 0 then (base, n :: rest)
    else if reached ≠ 0 ∧ order ≤ reached then keep reached
    else
      match compose? base n with
      | some joined => absorb joined reached rest
      | none => if order = 0 then (base, n :: rest) else keep order

theorem length_absorb (base reached : Nat) (points : List Nat) :
    (absorb base reached points).2.length ≤ points.length := by
  induction points generalizing base reached with
  | nil => simp [absorb]
  | cons n rest ih =>
    have hkeep (r : Nat) : (n :: (absorb base r rest).2).length ≤ (n :: rest).length := by
      simpa using ih base r
    unfold absorb
    dsimp only
    split
    · exact Nat.le_refl _
    split
    · exact hkeep _
    split
    · exact Nat.le_succ_of_le (ih _ _)
    · split
      · exact Nat.le_refl _
      · exact hkeep _

/-- Joins letters with their marks. -/
def composeMarks : List Nat → List Nat
  | [] => []
  | n :: rest => (absorb n 0 rest).1 :: composeMarks (absorb n 0 rest).2
termination_by points => points.length
decreasing_by exact Nat.lt_succ_of_le (length_absorb n 0 rest)

/-- A label in its one spelling. -/
def normalForm (label : List Char) : List Char :=
  (composeMarks (orderMarks (label.flatMap fold))).map Char.ofNat

/-- Checks that a label is not read in both directions. -/
def checkDirections (label : List Char) : Except LabelFault Unit :=
  let isRightToLeft (c : Char) : Bool := inRanges NameTable.rightToLeftRanges c.toNat
  if !label.any isRightToLeft then .ok ()
  else if label.any fun c => inRanges NameTable.leftToRightRanges c.toNat then
    .error .mixedDirections
  else if (label.head?.any isRightToLeft) && (label.getLast?.any isRightToLeft) then .ok ()
  else .error .openDirection

/-- A label in its one spelling, if all its characters are allowed in names. -/
def prepare (label : List Char) : Except LabelFault (List Char) :=
  let form := normalForm label
  match form.find? fun c => inRanges NameTable.forbiddenRanges c.toNat with
  | some c => .error (.forbidden c)
  | none => (checkDirections form).map fun _ => form

/-- A label of a size that is allowed. -/
def checked (label : List Char) : Except LabelFault (List Char) :=
  if label.isEmpty ∨ labelLimit ≤ label.length then .error .emptyOrLong else .ok label

/-- A label in ASCII. -/
def labelToAscii (label : List Char) : Except LabelFault (List Char) :=
  if isAscii label then checked label
  else do
    let form ← prepare label
    if isAscii form then checked form
    else if "xn--".toList.isPrefixOf form then .error .encoded
    else checked ("xn--".toList ++ Punycode.encode form)

/-- The labels of a name. -/
def labels (isDot : Char → Bool) (name : List Char) : List (List Char) :=
  name.foldr (fun c parts =>
    if isDot c then [] :: parts
    else
      match parts with
      | [] => [[c]]
      | label :: rest => (c :: label) :: rest) [[]]

/-- A name in ASCII as it is, if its labels have a size that is allowed. The last one may be
empty. -/
def checkAscii (name : List Char) : Except LabelFault Unit :=
  let parts := labels (· = '.') name
  if parts.dropLast.any (fun l => l.isEmpty || labelLimit ≤ l.length) then .error .emptyOrLong
  else if (parts.getLastD []).length < labelLimit then .ok ()
  else .error .long

/-- The name in ASCII. A dot at its end stays. -/
def toAscii (name : List Char) : Except LabelFault (List Char) :=
  if isAscii name then (checkAscii name).map fun _ => name
  else do
    let parts := labels isDot name
    let ended := parts.getLast? = some []
    let encoded ← (if ended then parts.dropLast else parts).mapM labelToAscii
    return ['.'].intercalate encoded ++ (if ended then ['.'] else [])

end HostName

end ServiceClient
