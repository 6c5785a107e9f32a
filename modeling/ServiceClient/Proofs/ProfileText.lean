import ServiceClient.Proofs.ProfileFiles
import ServiceClient.Proofs.Utf8
import Mathlib.Data.List.Nodup

/-!
# Profiles as text

Profiles are written as blocks of lines, a header and one line for each property, and are read back
as they are. The one thing that a line cannot hold is a value that ends with a closing bracket: such
a line is taken for a header.

* `trimChars_eq_self_iff`: which texts have no blanks around them.
* `Profile.lines`, `Profile.IsStorable`: the lines of a profile, and what they can hold.
* `Profile.spells_property`, `Profile.spells_bracket`: what the line of a property says.
* `Profile.hold_lines`: the lines of profiles hold their blocks.
* `Profiles.linesOf_text`: the text of a file falls into its lines.
* `Profiles.ofLines_lines`: when profiles are read back.
-/

namespace ServiceClient

/-! ### Blanks around a text -/

theorem dropWhile_isBlank_eq_self_iff {s : List Char} :
    s.dropWhile isBlank = s ↔ ∀ c, s.head? = some c → isBlank c = false := by
  cases s with
  | nil => simp
  | cons c s =>
    rw [List.dropWhile_eq_self_iff]
    simp

theorem trimChars_cons {c : Char} (h : isBlank c = true) (s : List Char) :
    trimChars (c :: s) = trimChars s := by
  unfold trimChars
  rw [List.dropWhile_cons_of_pos h]

theorem trimChars_concat {c : Char} (h : isBlank c = true) (s : List Char) :
    trimChars (s ++ [c]) = trimChars s := by
  unfold trimChars
  rw [List.dropWhile_append]
  split
  · -- a text of blanks only is empty with one more or without it
    rename_i hnil
    rw [List.isEmpty_iff.1 hnil, List.dropWhile_cons_of_pos h]
    rfl
  · rw [List.reverse_append, List.reverse_singleton, List.singleton_append,
      List.dropWhile_cons_of_pos h]

/-- **A text has no blanks around it** exactly if neither its first nor its last character is
one. -/
theorem trimChars_eq_self_iff {s : List Char} :
    trimChars s = s ↔ (∀ c, s.head? = some c → isBlank c = false) ∧
      ∀ c, s.getLast? = some c → isBlank c = false := by
  have hreverse : ∀ t : List Char, (t.reverse.dropWhile isBlank).reverse = t ↔
      ∀ c, t.getLast? = some c → isBlank c = false := by
    intro t
    rw [List.reverse_eq_iff, dropWhile_isBlank_eq_self_iff, List.head?_reverse]
  unfold trimChars
  constructor
  · intro h
    -- nothing can be missing in front, since what is left is not shorter
    have hfront : s.dropWhile isBlank = s := by
      have hsuffix := List.dropWhile_suffix (l := s) isBlank
      refine hsuffix.eq_of_length_le ?_
      have hle := (List.dropWhile_sublist isBlank (l := (s.dropWhile isBlank).reverse)).length_le
      have hlength := congrArg List.length h
      rw [List.length_reverse] at hle hlength
      omega
    rw [hfront] at h
    exact ⟨dropWhile_isBlank_eq_self_iff.1 hfront, (hreverse s).1 h⟩
  · rintro ⟨hfirst, hlast⟩
    rw [dropWhile_isBlank_eq_self_iff.2 hfirst]
    exact (hreverse s).2 hlast

/-- A text without line ends and without blanks around it. -/
structure IsTrimmedLine (s : String) : Prop where
  trimmed : trimChars s.toList = s.toList
  one_line : ∀ c ∈ s.toList, Profiles.isLineEnd c = false

instance (s : String) : Decidable (IsTrimmedLine s) :=
  -- the characters of the text are tried, not all characters
  have : Decidable (∀ c ∈ s.toList, Profiles.isLineEnd c = false) := List.decidableBAll _ _
  decidable_of_iff (trimChars s.toList = s.toList ∧ ∀ c ∈ s.toList, Profiles.isLineEnd c = false)
    ⟨fun h => ⟨h.1, h.2⟩, fun h => ⟨h.trimmed, h.one_line⟩⟩

/-! ### The lines of a profile -/

namespace Profile

/-- The line of a property. -/
def propertyLine (q : String × String) : String := q.1 ++ " = " ++ q.2

/-- The header of a profile. -/
def headerLine (p : Profile) : String := "[" ++ p.name ++ "]"

/-- The header of a profile, and a line for each of its properties. -/
def lines (p : Profile) : List String := p.headerLine :: p.properties.map propertyLine

/-- The block that a profile is in a file. -/
def block (p : Profile) : ProfileBlock := ⟨⟨p.name, false⟩, p.properties⟩

/-- A property whose name can stand in front of an equals sign, with any value of one line. -/
structure IsStorableProperty (q : String × String) : Prop where
  name_line : IsTrimmedLine q.1
  name_ne : q.1 ≠ ""
  name_equals : '=' ∉ q.1.toList
  name_first : q.1.toList.head? ≠ some '#' ∧ q.1.toList.head? ≠ some '['
  value_line : IsTrimmedLine q.2

instance (q : String × String) : Decidable (IsStorableProperty q) :=
  decidable_of_iff (IsTrimmedLine q.1 ∧ q.1 ≠ "" ∧ '=' ∉ q.1.toList ∧
      (q.1.toList.head? ≠ some '#' ∧ q.1.toList.head? ≠ some '[') ∧ IsTrimmedLine q.2)
    ⟨fun ⟨name, ne, equals, first, value⟩ => ⟨name, ne, equals, first, value⟩,
      fun h => ⟨h.name_line, h.name_ne, h.name_equals, h.name_first, h.value_line⟩⟩

/-- A profile whose name can stand in a header as it is, with different properties. -/
structure IsStorable (p : Profile) : Prop where
  name_line : IsTrimmedLine p.name
  name_ne : p.name ≠ ""
  name_word : ¬ ProfileLine.profileWord <+: p.name.toList
  nodup : (p.properties.map (·.1)).Nodup
  storable : ∀ q ∈ p.properties, IsStorableProperty q

instance (p : Profile) : Decidable p.IsStorable :=
  decidable_of_iff (IsTrimmedLine p.name ∧ p.name ≠ "" ∧
      ¬ ProfileLine.profileWord <+: p.name.toList ∧ (p.properties.map (·.1)).Nodup ∧
      ∀ q ∈ p.properties, IsStorableProperty q)
    ⟨fun ⟨name, ne, word, nodup, storable⟩ => ⟨name, ne, word, nodup, storable⟩,
      fun h => ⟨h.name_line, h.name_ne, h.name_word, h.nodup, h.storable⟩⟩

/-- A value that does not end with a closing bracket. -/
def IsOpenEnded (q : String × String) : Prop := q.2.toList.getLast? ≠ some ']'

instance (q : String × String) : Decidable (IsOpenEnded q) := inferInstanceAs (Decidable (_ ≠ _))

theorem toList_propertyLine (q : String × String) :
    (propertyLine q).toList = q.1.toList ++ ' ' :: '=' :: ' ' :: q.2.toList := by
  have hmark : " = ".toList = [' ', '=', ' '] := rfl
  unfold propertyLine
  simp only [String.toList_append, hmark, List.append_assoc, List.cons_append, List.nil_append]

theorem toList_headerLine (p : Profile) :
    p.headerLine.toList = '[' :: (p.name.toList ++ [']']) := by
  unfold headerLine
  simp only [String.toList_append]
  rfl

variable {q : String × String}

/-- The blanks around the equals sign stay, but for the one in front of an empty value. -/
theorem trimChars_propertyLine (h : IsStorableProperty q) :
    trimChars (propertyLine q).toList =
      q.1.toList ++ ' ' :: '=' :: (if q.2.toList = [] then [] else ' ' :: q.2.toList) := by
  have hne : q.1.toList ≠ [] := mt String.toList_eq_nil_iff.1 h.name_ne
  obtain ⟨c, cs, hc⟩ := List.exists_cons_of_ne_nil hne
  have hfirst : isBlank c = false :=
    (trimChars_eq_self_iff.1 h.name_line.trimmed).1 c (by rw [hc]; rfl)
  rw [toList_propertyLine]
  by_cases hv : q.2.toList = []
  · rw [if_pos hv, hv]
    have hend : q.1.toList ++ [' ', '=', ' '] = (q.1.toList ++ [' ', '=']) ++ [' '] := by simp
    rw [hend, trimChars_concat (by decide), trimChars_eq_self_iff, hc]
    refine ⟨fun d hd => ?_, fun d hd => ?_⟩
    · cases hd
      exact hfirst
    · have hlast : (c :: cs ++ [' ', '=']).getLast? = some '=' := by
        rw [List.getLast?_append]
        rfl
      cases hlast.symm.trans hd
      decide
  · rw [if_neg hv, trimChars_eq_self_iff, hc]
    refine ⟨fun d hd => ?_, fun d hd => ?_⟩
    · cases hd
      exact hfirst
    · -- the last character is that of the value
      refine (trimChars_eq_self_iff.1 h.value_line.trimmed).2 d ?_
      rw [← hd]
      exact (List.getLast?_append_of_ne_nil (c :: cs ++ [' ', '=', ' ']) hv).symm.trans (by simp)

/-- The line of a property starts as its name does. -/
theorem head?_propertyLine (h : IsStorableProperty q) :
    (trimChars (propertyLine q).toList).head? = q.1.toList.head? := by
  have hne : q.1.toList ≠ [] := mt String.toList_eq_nil_iff.1 h.name_ne
  obtain ⟨c, cs, hc⟩ := List.exists_cons_of_ne_nil hne
  rw [trimChars_propertyLine h, hc]
  rfl

/-- The line of a property ends with a bracket exactly if its value does. -/
theorem getLast?_propertyLine (h : IsStorableProperty q) :
    (trimChars (propertyLine q).toList).getLast? = some ']' ↔ ¬ IsOpenEnded q := by
  unfold IsOpenEnded
  rw [not_not, trimChars_propertyLine h]
  by_cases hv : q.2.toList = []
  · rw [if_pos hv, hv]
    simp
  · rw [if_neg hv]
    have hlast := List.getLast?_append_of_ne_nil (q.1.toList ++ [' ', '=', ' ']) hv
    rw [List.append_assoc] at hlast
    exact Eq.congr_left hlast

/-- **The line of a property says it**, unless its value ends with a bracket. -/
theorem spells_property (h : IsStorableProperty q) (hopen : IsOpenEnded q) :
    (ProfileLine.property q.1 q.2).Spells (trimChars (propertyLine q).toList) := by
  have hhead := head?_propertyLine h
  have hne : trimChars (propertyLine q).toList ≠ [] := by
    rw [trimChars_propertyLine h]
    simp
  refine ⟨⟨hne, ?_, ?_, ?_⟩, ?_⟩
  · rw [hhead]
    exact h.name_first.1
  · rw [hhead]
    exact h.name_first.2
  · rw [Ne, getLast?_propertyLine h, not_not]
    exact hopen
  · refine ⟨q.1.toList ++ [' '], if q.2.toList = [] then [] else ' ' :: q.2.toList, ?_, ?_, ?_, ?_⟩
    · rw [trimChars_propertyLine h, List.append_assoc]
      rfl
    · intro hmem
      rcases List.mem_append.1 hmem with hmem | hmem
      · exact h.name_equals hmem
      · exact absurd (List.mem_singleton.1 hmem) (by decide)
    · rw [trimChars_concat (by decide)]
      exact h.name_line.trimmed
    · by_cases hv : q.2.toList = []
      · rw [if_pos hv, hv]
        rfl
      · rw [if_neg hv, trimChars_cons (by decide)]
        exact h.value_line.trimmed

/-- **A line whose value ends with a bracket** is taken for a header that is not opened. -/
theorem spells_bracket (h : IsStorableProperty q) (hopen : ¬ IsOpenEnded q) :
    (ProfileLine.malformedHeader (propertyLine q)).Spells
      (trimChars (propertyLine q).toList) := by
  have hhead := head?_propertyLine h
  have hlast := (getLast?_propertyLine h).2 hopen
  have hv : q.2.toList ≠ [] := by
    intro hnil
    refine hopen ?_
    unfold IsOpenEnded
    rw [hnil]
    simp
  refine ⟨?_, ?_, ?_, ?_⟩
  · rw [trimChars_propertyLine h, if_neg hv, toList_propertyLine]
  · rw [trimChars_propertyLine h]
    simp
  · rw [hhead]
    exact h.name_first.1
  · rw [hhead, hlast]
    exact fun hiff => h.name_first.2 (hiff.2 rfl)

/-- The header of a profile is its name in brackets. -/
theorem spells_header {p : Profile} (h : p.IsStorable) :
    (ProfileLine.header ⟨p.name, false⟩).Spells (trimChars p.headerLine.toList) := by
  have hself : trimChars p.headerLine.toList = p.headerLine.toList := by
    rw [trimChars_eq_self_iff, toList_headerLine]
    refine ⟨fun c hc => ?_, fun c hc => ?_⟩
    · cases hc
      decide
    · rw [← List.cons_append, List.getLast?_concat] at hc
      cases hc
      decide
  refine ⟨h.name_ne, h.name_word, p.name.toList, ?_, h.name_line.trimmed⟩
  rw [hself, toList_headerLine]

/-- The lines of properties hold them. -/
theorem hold_properties {props : List (String × String)}
    (h : ∀ q ∈ props, IsStorableProperty q ∧ IsOpenEnded q) {rest : List String}
    {items : List ProfileLine} (hrest : ProfileLine.Hold rest items) :
    ProfileLine.Hold (props.map propertyLine ++ rest)
      ((props.map fun q => .property q.1 q.2) ++ items) := by
  induction props with
  | nil => exact hrest
  | cons q props ih =>
    rw [List.forall_mem_cons] at h
    exact .item (spells_property h.1.1 h.1.2) (ih h.2)

/-- **The lines of profiles hold their blocks.** -/
theorem hold_lines {profiles : Profiles} (h : ∀ p ∈ profiles, p.IsStorable)
    (hopen : ∀ p ∈ profiles, ∀ q ∈ p.properties, IsOpenEnded q) :
    ProfileLine.Hold (profiles.flatMap lines)
      ((profiles.map block).flatMap ProfileBlock.items) := by
  induction profiles with
  | nil => exact .nil
  | cons p profiles ih =>
    rw [List.forall_mem_cons] at h hopen
    have hprops := hold_properties
      (fun q hq => ⟨h.1.storable q hq, hopen.1 q hq⟩) (ih h.2 hopen.2)
    rw [List.flatMap_cons, List.map_cons, List.flatMap_cons]
    exact .item (spells_header h.1) hprops

theorem isPlain_block {profiles : Profiles} (h : ∀ p ∈ profiles, p.IsStorable) :
    ∀ b ∈ profiles.map block, b.IsPlain := by
  intro b hb
  obtain ⟨p, hp, rfl⟩ := List.mem_map.1 hb
  exact (h p hp).nodup

end Profile

/-! ### Profiles of blocks with different names -/

namespace Association

variable {κ α : Type} [DecidableEq κ]

theorem put_of_notMem {key : κ} {value : α} {pairs : List (κ × α)}
    (h : key ∉ pairs.map (·.1)) : put key value pairs = pairs ++ [(key, value)] := by
  induction pairs with
  | nil => rfl
  | cons p rest ih =>
    rw [List.map_cons, List.mem_cons, not_or] at h
    rw [put, if_neg (Ne.symm h.1), ih h.2]
    rfl

/-- Pairs with different keys stay as they are. -/
theorem ofPairs_of_nodup {pairs : List (κ × α)} (h : (pairs.map (·.1)).Nodup) :
    ofPairs pairs = pairs := by
  induction pairs using List.reverseRecOn with
  | nil => rfl
  | append_singleton pairs p ih =>
    rw [List.map_append, List.map_singleton, List.nodup_append] at h
    have hnew : p.1 ∉ pairs.map (·.1) := fun hmem =>
      h.2.2 p.1 hmem p.1 (List.mem_singleton_self _) rfl
    rw [ofPairs_concat, ih h.1, put_of_notMem hnew]

end Association

namespace Profiles

open ProfileSections (ofBlocks)

/-- The lines of profiles, one block after the other. -/
def lines (profiles : Profiles) : List String := profiles.flatMap Profile.lines

/-- The text of a file that holds profiles. -/
def text (profiles : Profiles) : String :=
  String.ofList ((lines profiles).flatMap fun line => line.toList ++ ['\n'])

/-- Blocks of profiles with different names stand for these profiles. -/
theorem profiles_ofBlocks {profiles : Profiles} (hnames : (profiles.map (·.name)).Nodup) :
    (ofBlocks (profiles.map Profile.block)).profiles = profiles := by
  have hheaders : (profiles.map fun p => (⟨p.name, false⟩ : ProfileHeader)).Nodup := by
    have hinj : Function.Injective fun name : String => (⟨name, false⟩ : ProfileHeader) :=
      fun a b hab => (ProfileHeader.mk.inj hab).1
    have hmap := (List.nodup_map_iff hinj).2 hnames
    rwa [List.map_map] at hmap
  have hsections : (ofBlocks (profiles.map Profile.block)).sections =
      profiles.map fun p => (⟨p.name, false⟩, p.properties) := by
    show Association.ofPairs
      ((profiles.map Profile.block).map fun b => (b.header, b.properties)) = _
    rw [List.map_map]
    refine Association.ofPairs_of_nodup ?_
    rw [List.map_map]
    exact hheaders
  have hprefixed : namedSections (ofBlocks (profiles.map Profile.block)) true = [] := by
    unfold namedSections
    rw [hsections, List.map_eq_nil_iff, List.filter_eq_nil_iff]
    intro s hs
    obtain ⟨p, -, rfl⟩ := List.mem_map.1 hs
    exact Bool.false_ne_true
  have hbare : namedSections (ofBlocks (profiles.map Profile.block)) false =
      profiles.map fun p => (p.name, p.properties) := by
    unfold namedSections
    rw [hsections, List.filter_eq_self.2, List.map_map]
    · rfl
    · intro s hs
      obtain ⟨p, -, rfl⟩ := List.mem_map.1 hs
      exact beq_self_eq_true false
  rw [profiles_eq, hprefixed, hbare, List.nil_append, Association.ofPairs_of_nodup, List.map_map]
  · exact List.map_id profiles
  · rw [List.map_map]
    exact hnames

/-! ### The text of a file -/

/-- A line is split off at its end. -/
theorem linesOf_line {line : List Char} (h : ∀ c ∈ line, isLineEnd c = false) (rest : List Char) :
    linesOf (line ++ '\n' :: rest) = line :: linesOf rest := by
  induction line with
  | nil =>
    have hend : isLineEnd '\n' = true := by decide
    rw [List.nil_append, linesOf.eq_def]
    simp [hend]
  | cons c line ih =>
    rw [List.forall_mem_cons] at h
    have hreturn : c ≠ '\r' := by
      rintro rfl
      exact absurd h.1 (by decide)
    rw [List.cons_append, linesOf.eq_def]
    simp [hreturn, h.1, ih h.2]

theorem one_line_headerLine {p : Profile} (h : p.IsStorable) :
    ∀ c ∈ p.headerLine.toList, isLineEnd c = false := by
  intro c hc
  rw [Profile.toList_headerLine, List.mem_cons, List.mem_append, List.mem_singleton] at hc
  rcases hc with rfl | hc | rfl
  · decide
  · exact h.name_line.one_line c hc
  · decide

theorem one_line_propertyLine {q : String × String} (h : Profile.IsStorableProperty q) :
    ∀ c ∈ (Profile.propertyLine q).toList, isLineEnd c = false := by
  intro c hc
  rw [Profile.toList_propertyLine, List.mem_append, List.mem_cons, List.mem_cons,
    List.mem_cons] at hc
  rcases hc with hc | rfl | rfl | rfl | hc
  · exact h.name_line.one_line c hc
  · decide
  · decide
  · decide
  · exact h.value_line.one_line c hc

/-- **The text of a file falls into its lines.** -/
theorem linesOf_text {profiles : Profiles} (h : ∀ p ∈ profiles, p.IsStorable) :
    (linesOf (text profiles).toList).map String.ofList = lines profiles := by
  have hlines : ∀ line ∈ lines profiles, ∀ c ∈ line.toList, isLineEnd c = false := by
    intro line hline
    obtain ⟨p, hp, hline⟩ := List.mem_flatMap.1 hline
    rcases List.mem_cons.1 hline with rfl | hline
    · exact one_line_headerLine (h p hp)
    · obtain ⟨q, hq, rfl⟩ := List.mem_map.1 hline
      exact one_line_propertyLine ((h p hp).storable q hq)
  unfold text
  rw [String.toList_ofList]
  generalize lines profiles = lines at hlines
  induction lines with
  | nil => rfl
  | cons line lines ih =>
    rw [List.forall_mem_cons] at hlines
    rw [List.flatMap_cons, List.append_assoc, List.singleton_append, linesOf_line hlines.1,
      List.map_cons, ih hlines.2, String.ofList_toList]

/-- A file is read as the lines of its text are. -/
theorem result_load {e : Environment} {path text : String} {content : Bytes}
    (hfile : e.files.lookup path = some content) (htext : Utf8.decode content = .ok text) :
    (load e path).run.result =
      (ofLines path ((linesOf text.toList).map String.ofList)).run.result.map some := by
  unfold load
  rw [hfile]
  dsimp only
  rw [htext]
  show (ofLines path ((linesOf text.toList).map String.ofList) >>= fun read =>
    (pure (some read) : Attempt (Option Profiles))).run.result = _
  rw [Attempt.result_bind]
  cases (ofLines path ((linesOf text.toList).map String.ofList)).run.result with
  | error f => rfl
  | ok read => rfl

/-! ### Reading profiles back -/

/-- The first value that ends with a bracket is reported as a header, whatever follows it. -/
theorem result_lines_bracket (source : String) {front rest : Profiles} {p : Profile}
    {done more : List (String × String)} {q : String × String}
    (hp : p.properties = done ++ q :: more) (h : ∀ p' ∈ front ++ p :: rest, p'.IsStorable)
    (hfront : ∀ p' ∈ front, ∀ q' ∈ p'.properties, Profile.IsOpenEnded q')
    (hdone : ∀ q' ∈ done, Profile.IsOpenEnded q') (hq : ¬ Profile.IsOpenEnded q) :
    (ofLines source (lines (front ++ p :: rest))).run.result =
      .error (.profile ⟨source, (lines (front ++ [⟨p.name, done⟩])).length + 1⟩
        (.header (Profile.propertyLine q))) := by
  have hall : p.IsStorable := h p (by simp)
  -- what stands in front of the line is a file of its own
  have hbefore : ∀ p' ∈ front ++ [⟨p.name, done⟩], Profile.IsStorable p' := by
    intro p' hp'
    rcases List.mem_append.1 hp' with hp' | hp'
    · exact h p' (List.mem_append_left _ hp')
    · rw [List.mem_singleton.1 hp']
      refine ⟨hall.name_line, hall.name_ne, hall.name_word, ?_, fun q' hq' => ?_⟩
      · have hnodup := hall.nodup
        rw [hp, List.map_append] at hnodup
        exact (List.nodup_append.1 hnodup).1
      · exact hall.storable q' (by rw [hp]; exact List.mem_append_left _ hq')
  have hopen : ∀ p' ∈ front ++ [⟨p.name, done⟩], ∀ q' ∈ p'.properties,
      Profile.IsOpenEnded q' := by
    intro p' hp'
    rcases List.mem_append.1 hp' with hp' | hp'
    · exact hfront p' hp'
    · rw [List.mem_singleton.1 hp']
      exact hdone
  have hlines : lines (front ++ p :: rest) = lines (front ++ [⟨p.name, done⟩]) ++
      Profile.propertyLine q :: (more.map Profile.propertyLine ++ lines rest) := by
    unfold lines
    rw [List.flatMap_append, List.flatMap_cons, List.flatMap_append, List.flatMap_singleton]
    unfold Profile.lines
    rw [hp, List.map_append, List.map_cons]
    simp [Profile.headerLine]
  have hmem : q ∈ p.properties := by rw [hp]; simp
  rw [hlines]
  exact result_ofLines_fault source _ (Profile.hold_lines hbefore hopen)
    (Profile.isPlain_block hbefore) (Profile.spells_bracket (hall.storable q hmem) hq) rfl

/-- A list with a member of some kind has a first one. -/
theorem exists_first {α : Type} {p : α → Prop} {xs : List α} (h : ∃ x ∈ xs, p x) :
    ∃ front x rest, xs = front ++ x :: rest ∧ (∀ y ∈ front, ¬ p y) ∧ p x := by
  induction xs with
  | nil =>
    obtain ⟨x, hx, -⟩ := h
    cases hx
  | cons x xs ih =>
    by_cases hx : p x
    · exact ⟨[], x, xs, rfl, List.forall_mem_nil _, hx⟩
    · rw [List.exists_mem_cons_iff] at h
      obtain ⟨front, y, rest, rfl, hfront, hy⟩ := ih (h.resolve_left hx)
      exact ⟨x :: front, y, rest, rfl, List.forall_mem_cons.2 ⟨hx, hfront⟩, hy⟩

/-- Profiles with a value that ends with a bracket have a first one. -/
theorem exists_first_bracket {profiles : Profiles}
    (h : ¬ ∀ p ∈ profiles, ∀ q ∈ p.properties, Profile.IsOpenEnded q) :
    ∃ front p rest done q more, profiles = front ++ p :: rest ∧ p.properties = done ++ q :: more ∧
      (∀ p' ∈ front, ∀ q' ∈ p'.properties, Profile.IsOpenEnded q') ∧
      (∀ q' ∈ done, Profile.IsOpenEnded q') ∧ ¬ Profile.IsOpenEnded q := by
  have hprofile : ∃ p ∈ profiles, ¬ ∀ q ∈ p.properties, Profile.IsOpenEnded q := by
    simpa using h
  obtain ⟨front, p, rest, hprofiles, hfront, hp⟩ := exists_first hprofile
  have hproperty : ∃ q ∈ p.properties, ¬ Profile.IsOpenEnded q := by
    simpa using hp
  obtain ⟨done, q, more, hproperties, hdone, hq⟩ := exists_first hproperty
  exact ⟨front, p, rest, done, q, more, hprofiles, hproperties,
    fun p' hp' => not_not.1 (hfront p' hp'), fun q' hq' => not_not.1 (hdone q' hq'), hq⟩

/-- **Profiles are read back from their lines**, and from a file with these lines, exactly if no
value of a property ends with a closing bracket. The line of the first such value is reported as a
header that is not well formed. -/
theorem ofLines_lines (source : String) (profiles : Profiles)
    (hnames : (profiles.map (·.name)).Nodup) (h : ∀ p ∈ profiles, p.IsStorable) :
    ((ofLines source (lines profiles)).run.result = .ok profiles ↔
      ∀ p ∈ profiles, ∀ q ∈ p.properties, Profile.IsOpenEnded q) ∧
    (∀ (e : Environment) (path : String),
      e.files.lookup path = some (Utf8.encode (text profiles)) →
      ((load e path).run.result = .ok (some profiles) ↔
        ∀ p ∈ profiles, ∀ q ∈ p.properties, Profile.IsOpenEnded q)) ∧
    ∀ front p rest done q more, profiles = front ++ p :: rest → p.properties = done ++ q :: more →
      (∀ p' ∈ front, ∀ q' ∈ p'.properties, Profile.IsOpenEnded q') →
      (∀ q' ∈ done, Profile.IsOpenEnded q') → ¬ Profile.IsOpenEnded q →
      (ofLines source (lines profiles)).run.result =
        .error (.profile ⟨source, (lines (front ++ [⟨p.name, done⟩])).length + 1⟩
          (.header (Profile.propertyLine q))) := by
  have hread : ∀ source, (ofLines source (lines profiles)).run.result = .ok profiles ↔
      ∀ p ∈ profiles, ∀ q ∈ p.properties, Profile.IsOpenEnded q := by
    intro source
    constructor
    · intro hok
      by_contra hbad
      obtain ⟨front, p, rest, done, q, more, rfl, hp, hfront, hdone, hq⟩ :=
        exists_first_bracket hbad
      rw [result_lines_bracket source hp h hfront hdone hq] at hok
      cases hok
    · intro hopen
      have hresult := result_ofLines source (Profile.hold_lines h hopen)
        (Profile.isPlain_block h)
      rw [profiles_ofBlocks hnames] at hresult
      exact hresult
  refine ⟨hread source, fun e path hfile => ?_, ?_⟩
  · rw [result_load hfile (Utf8.decode_encode _), linesOf_text h, map_eq_ok, ← hread path]
    constructor
    · rintro ⟨read, hok, hsome⟩
      rw [hok, Option.some.inj hsome]
    · exact fun hok => ⟨profiles, hok, rfl⟩
  · rintro front p rest done q more rfl hp hfront hdone hq
    exact result_lines_bracket source hp h hfront hdone hq

/-- Marks inside of values are kept, and the line of a list in brackets is refused. -/
theorem ofLines_lines_marks :
    (ofLines "f" (lines [⟨"a", [("x", "[1] = #"), ("y", "")]⟩, ⟨"b", []⟩])).run.result =
      .ok [⟨"a", [("x", "[1] = #"), ("y", "")]⟩, ⟨"b", []⟩] ∧
    (load ⟨"", [], [("f", Utf8.encode (text [⟨"a", [("x", "[1] = #"), ("y", "")]⟩, ⟨"b", []⟩]))]⟩
      "f").run.result = .ok (some [⟨"a", [("x", "[1] = #"), ("y", "")]⟩, ⟨"b", []⟩]) ∧
    (ofLines "f" (lines [⟨"a", [("x", "")]⟩, ⟨"b", [("y", "[1]"), ("z", "")]⟩])).run.result =
      .error (.profile ⟨"f", 4⟩ (.header "y = [1]")) := by
  have hkept := ofLines_lines "f" [⟨"a", [("x", "[1] = #"), ("y", "")]⟩, ⟨"b", []⟩] (by decide)
    (by decide +kernel)
  have hrefused := ofLines_lines "f" [⟨"a", [("x", "")]⟩, ⟨"b", [("y", "[1]"), ("z", "")]⟩]
    (by decide) (by decide +kernel)
  refine ⟨hkept.1.2 (by decide), (hkept.2.1 _ "f" ?_).2 (by decide), ?_⟩
  · exact List.lookup_cons_self
  · exact hrefused.2.2 [⟨"a", [("x", "")]⟩] ⟨"b", [("y", "[1]"), ("z", "")]⟩ [] [] ("y", "[1]")
      [("z", "")] rfl rfl (by decide) (by decide) (by decide)

/-- One value that ends with a bracket makes a file unreadable. -/
theorem lines_not_read :
    Profile.IsStorable ⟨"a", [("key", "x]")]⟩ ∧
    lines [⟨"a", [("key", "x]")]⟩] = ["[a]", "key = x]"] ∧
    (ofLines "f" ["[a]", "key = x]"]).run.result =
      .error (.profile ⟨"f", 2⟩ (.header "key = x]")) :=
  ⟨by decide +kernel, rfl, rfl⟩

end Profiles

end ServiceClient
