import Mathlib.Data.List.DropRight
import Mathlib.Data.List.Forall2
import Mathlib.Data.Nat.Find
import ServiceClient.Log.ShortName
import ServiceClient.Proofs.QueryText

/-!
# Short names are the best that fit

The parts of a name are gone through from its end. Each is kept whole as long as the name fits with
one character of each part in front of it, so the result is told by how many parts those are.

* `KeepsLast`: so many parts at the end fit one after the other, and the next one does not.
* `shortName_eq`: what is left of a name that does not fit, or why it is refused.
* `wholeParts`: the most parts that can be whole at all; with no empty part these are kept.
* `shortName_best`: a short name is the best abbreviation, and stays as it is.
-/

namespace ServiceClient

/-- Only the first character of each part is left; an empty part has none. -/
theorem initials_eq (parts : List (List Char)) :
    initials parts =
      if [] ∈ parts then .error .stringIndex else .ok (parts.map (List.take 1)) := by
  induction parts with
  | nil => rfl
  | cons part rest ih =>
    cases part with
    | nil => simp [initials]
    | cons c part =>
      rw [initials, ih]
      by_cases h : [] ∈ rest
      · rw [if_pos h, if_pos (List.mem_cons_of_mem _ h)]; rfl
      · rw [if_neg h, if_neg (by simpa using h)]; rfl

/-- The parts that fit one after the other are whole, all others are cut. -/
theorem shortenParts_rest {limit current : Int} {parts : List (List Char)} {k : Nat}
    (hk : k ≤ parts.length)
    (hfits : ∀ j, 1 ≤ j → j ≤ k → current + (parts.take j).flatten.length - j ≤ limit)
    (hstops : k < parts.length →
      limit < current + (parts.take (k + 1)).flatten.length - (k + 1 : Nat)) :
    shortenParts limit current false parts =
      (initials (parts.drop k)).map (parts.take k ++ ·) := by
  -- `current` takes in what the first part has more than one character, and one part less is kept.
  induction parts generalizing current k with
  | nil => rw [List.drop_nil, List.take_nil]; rfl
  | cons part rest ih =>
    cases k with
    | zero =>
      have hpart : limit < current + part.length - 1 := by simpa using hstops (by simp)
      rw [shortenParts, if_pos hpart]
      simp only [Bool.false_and, Bool.false_eq_true, if_false]
      rw [List.drop_zero]
      cases initials (part :: rest) <;> rfl
    | succ k =>
      have hpart : ¬ limit < current + part.length - 1 := by
        simpa using hfits 1 (Nat.le_refl 1) (by omega)
      rw [shortenParts, if_neg hpart, ih (k := k)]
      · rw [List.drop_succ_cons]
        cases initials (rest.drop k) <;> rfl
      · exact Nat.le_of_succ_le_succ hk
      · intro j _ hjk
        have h := hfits (j + 1) (by omega) (by omega)
        rw [List.take_succ_cons, List.flatten_cons, List.length_append] at h
        push_cast at h
        omega
      · intro hlt
        have h := hstops (by simpa using hlt)
        rw [List.take_succ_cons, List.flatten_cons, List.length_append] at h
        push_cast at h ⊢
        omega

/-- A last part that fits is a part as any other. -/
theorem shortenParts_last {limit current : Int} {part : List Char} (rest : List (List Char))
    (h : current + part.length - 1 ≤ limit) :
    shortenParts limit current true (part :: rest) =
      shortenParts limit current false (part :: rest) := by
  rw [shortenParts, shortenParts, if_neg (by omega), if_neg (by omega)]

/-- A last part that does not fit is shown as far as there is room. -/
theorem shortenParts_cut {limit current : Int} {part : List Char} {rest : List (List Char)}
    (h : limit < current + part.length - 1) :
    shortenParts limit current true (part :: rest) =
      if [] ∈ part :: rest then .error .stringIndex
      else .ok (part.take ((limit - current).toNat + 1) :: rest.map (List.take 1)) := by
  rw [shortenParts, if_pos h, initials_eq]
  by_cases hempty : [] ∈ part :: rest
  · rw [if_pos hempty, if_pos hempty]; rfl
  · rw [if_neg hempty, if_neg hempty]
    show Except.ok (if (true && decide (0 < limit - current)) = true then _ else _) = _
    by_cases hroom : 0 < limit - current
    · have hsize : (limit - current + 1).toNat = (limit - current).toNat + 1 := by omega
      rw [if_pos (by simpa using hroom), hsize]
      rfl
    · have hsize : (limit - current).toNat = 0 := by omega
      rw [if_neg (by simpa using hroom), hsize]
      rfl

/-- The parts of a name, which stand between its dots. -/
def nameParts (name : String) : List (List Char) := splitAll (· = '.') name.toList

/-- Parts as a name. -/
def dotted (parts : List (List Char)) : String := ".".intercalate (parts.map String.ofList)

theorem toList_dotted (parts : List (List Char)) :
    (dotted parts).toList = ['.'].intercalate parts := by
  rw [dotted, String.toList_intercalate, List.map_map]
  congr 1
  simp [Function.comp_def]

theorem nameParts_eq_splitOn (name : String) : nameParts name = name.toList.splitOn '.' :=
  HostName.labels_eq_splitOn name.toList

theorem nameParts_ne_nil (name : String) : nameParts name ≠ [] := by
  rw [nameParts_eq_splitOn]
  exact List.splitOn_ne_nil '.' name.toList

theorem dotted_nameParts (name : String) : dotted (nameParts name) = name := by
  rw [← String.toList_inj, toList_dotted, nameParts_eq_splitOn, List.intercalate_splitOn]

theorem nameParts_dotted {parts : List (List Char)} (hne : parts ≠ [])
    (hdot : ∀ part ∈ parts, '.' ∉ part) : nameParts (dotted parts) = parts := by
  rw [nameParts_eq_splitOn, toList_dotted, List.splitOn_intercalate '.' hdot hne]

/-- A name has its parts and a dot between two of them. -/
theorem length_dotted {parts : List (List Char)} (hne : parts ≠ []) :
    (dotted parts).length = parts.flatten.length + (parts.length - 1) := by
  rw [← String.length_toList, toList_dotted]
  induction parts with
  | nil => exact absurd rfl hne
  | cons part rest ih =>
    cases rest with
    | nil => simp
    | cons next rest =>
      rw [List.intercalate_cons_cons, List.length_append, List.length_append, ih (by simp)]
      simp only [List.flatten_cons, List.length_append, List.length_cons, List.length_nil]
      omega

theorem dot_notMem_nameParts {name : String} {part : List Char} (h : part ∈ nameParts name) :
    '.' ∉ part := fun hdot => by
  have := eq_false_of_mem_splitAll h '.' hdot
  simp at this

/-- The last `k` parts whole and one character of each part in front of them. -/
def abbreviate (k : Nat) (parts : List (List Char)) : List (List Char) :=
  (parts.rdrop k).map (List.take 1) ++ parts.rtake k

/-- The length of a name with the last `k` parts whole. One character is counted for each part in
front of them, for an empty one too. -/
def lengthWith (k : Nat) (parts : List (List Char)) : Nat :=
  (parts.length - 1) + (parts.length - k) + (parts.rtake k).flatten.length

/-- The last part in `limit` characters less what one character of each other part takes, and at
least one character of it. -/
def cutLast (limit : Nat) (parts : List (List Char)) : List (List Char) :=
  (parts.rdrop 1).map (List.take 1) ++
    (parts.rtake 1).map (List.take (limit - (2 * parts.length - 1) + 1))

/-- The last `k` parts fit one after the other, and the next one does not. -/
structure KeepsLast (limit k : Nat) (parts : List (List Char)) : Prop where
  le : k ≤ parts.length
  fits : ∀ j, 1 ≤ j → j ≤ k → lengthWith j parts ≤ limit
  stops : k < parts.length → limit < lengthWith (k + 1) parts

/-- The length from the end of a name. -/
theorem lengthWith_reverse {j : Nat} {parts : List (List Char)} (hne : parts ≠ [])
    (h : j ≤ parts.length) :
    (lengthWith j parts.reverse : Int) =
      2 * parts.length - 1 + (parts.take j).flatten.length - j := by
  have hpos := List.length_pos_iff.2 hne
  rw [lengthWith, List.rtake_eq_reverse_take_reverse, List.reverse_reverse, List.length_reverse,
    List.length_flatten, List.map_reverse, List.sum_reverse, ← List.length_flatten]
  omega

/-- For each limit there are parts that are kept whole. -/
theorem exists_keeps (limit : Nat) (parts : List (List Char)) : ∃ k, KeepsLast limit k parts := by
  have hend : ∃ k, parts.length ≤ k ∨ limit < lengthWith (k + 1) parts :=
    ⟨parts.length, .inl (Nat.le_refl _)⟩
  -- the first number of parts behind which one more would be too much
  refine ⟨Nat.find hend, Nat.find_min' hend (.inl (Nat.le_refl _)), fun j hj hle => ?_,
    fun hlt => (Nat.find_spec hend).resolve_left (Nat.not_le.2 hlt)⟩
  obtain ⟨i, rfl⟩ : ∃ i, j = i + 1 := ⟨j - 1, by omega⟩
  exact Nat.le_of_not_lt fun hlong => Nat.find_min hend hle (.inr hlong)

/-- What is left of the parts of a name, in their order from its end. -/
theorem shortenParts_reverse {limit k : Nat} {parts : List (List Char)}
    (hkeeps : KeepsLast limit k parts.reverse) (hlt : k < parts.length) :
    shortenParts limit (2 * parts.length - 1) true parts =
      if [] ∈ parts.drop k then .error .stringIndex
      else .ok (if k = 0 then cutLast limit parts.reverse
        else abbreviate k parts.reverse).reverse := by
  obtain ⟨last, rest, rfl⟩ := List.exists_cons_of_length_pos (Nat.zero_lt_of_lt hlt)
  have hlength {j : Nat} (h : j ≤ (last :: rest).length) :=
    lengthWith_reverse (List.cons_ne_nil last rest) h
  have hstops := hkeeps.stops (by simpa using hlt)
  have hfits := hkeeps.fits
  -- the last part is cut in a way of its own if not even it fits
  rcases Nat.eq_zero_or_pos k with rfl | hk
  · have hlast := hlength (j := 1) (by simp)
    rw [List.take_succ_cons, List.take_zero, List.flatten_singleton] at hlast
    rw [Nat.zero_add] at hstops
    rw [shortenParts_cut (by omega), List.drop_zero, if_pos rfl]
    split
    · rfl
    · have hroom : (limit - (2 * (last :: rest).length - 1) : Int).toNat =
          limit - (2 * (last :: rest).length - 1) := by omega
      rw [hroom]
      simp [cutLast, List.rdrop_eq_reverse_drop_reverse, List.rtake_eq_reverse_take_reverse]
  · have hlast := hfits 1 (Nat.le_refl 1) hk
    have hlast' := hlength (j := 1) (by simp)
    rw [List.take_succ_cons, List.take_zero, List.flatten_singleton] at hlast'
    rw [shortenParts_last rest (by omega), shortenParts_rest (k := k) (Nat.le_of_lt hlt),
      initials_eq, if_neg (Nat.ne_of_gt hk)]
    · split
      · rfl
      · simp [abbreviate, List.rdrop_eq_reverse_drop_reverse, List.rtake_eq_reverse_take_reverse,
          Except.map]
    · intro j hj hjk
      rw [← hlength (by omega)]
      exact_mod_cast hfits j hj hjk
    · intro _
      rw [← hlength hlt]
      exact_mod_cast hstops

variable {name : String} {limit k : Nat}

/-- A name that fits is left as it is. -/
theorem shortName_of_le (h : name.length ≤ limit) : shortName name limit = .ok name := by
  rw [shortName, if_pos (by exact_mod_cast h)]

theorem lengthWith_length (name : String) :
    lengthWith (nameParts name).length (nameParts name) = name.length := by
  have h := length_dotted (nameParts_ne_nil name)
  rw [dotted_nameParts] at h
  rw [h, lengthWith, List.rtake, Nat.sub_self, List.drop_zero]
  omega

theorem KeepsLast.lt_length (hkeeps : KeepsLast limit k (nameParts name))
    (hlong : limit < name.length) :
    k < (nameParts name).length := by
  refine Nat.lt_of_le_of_ne hkeeps.le fun h => ?_
  have hpos := List.length_pos_iff.2 (nameParts_ne_nil name)
  have hfits := hkeeps.fits k (by omega) (Nat.le_refl k)
  rw [h, lengthWith_length] at hfits
  omega

/-- A name that does not fit is refused if a part is empty that has to be cut. -/
theorem shortName_eq (hkeeps : KeepsLast limit k (nameParts name)) (hlong : limit < name.length) :
    shortName name limit =
      if [] ∈ (nameParts name).rdrop k then .error .stringIndex
      else .ok (dotted
        (if k = 0 then cutLast limit (nameParts name) else abbreviate k (nameParts name))) := by
  rw [shortName, if_neg (by omega)]
  rw [← List.reverse_reverse (nameParts name)] at hkeeps
  have hlt : k < (nameParts name).reverse.length := by
    rw [List.length_reverse]
    rw [List.reverse_reverse] at hkeeps
    exact hkeeps.lt_length hlong
  have hshort := shortenParts_reverse hkeeps hlt
  show (do let short ← shortenParts limit (2 * (nameParts name).reverse.length - 1) true
             (nameParts name).reverse; _) = _
  rw [hshort, List.rdrop_eq_reverse_drop_reverse]
  by_cases hempty : [] ∈ (nameParts name).reverse.drop k
  · rw [if_pos hempty, if_pos (List.mem_reverse.2 hempty)]
    rfl
  · have hempty' : [] ∉ ((nameParts name).reverse.drop k).reverse :=
      fun h => hempty (List.mem_reverse.1 h)
    rw [if_neg hempty, if_neg hempty', List.reverse_reverse]
    show Except.ok (dotted (List.reverse (List.reverse _))) = _
    rw [List.reverse_reverse]

/-! ## Names with no empty part -/

/-- The most parts at the end of a name that can be whole within a limit, if one character of each
other part is left. -/
def wholeParts (limit : Nat) (parts : List (List Char)) : Nat :=
  Nat.findGreatest (fun k => (dotted (abbreviate k parts)).length ≤ limit) parts.length

theorem length_flatten_initials {parts : List (List Char)} (h : [] ∉ parts) :
    (parts.map (List.take 1)).flatten.length = parts.length := by
  induction parts with
  | nil => rfl
  | cons part rest ih =>
    rw [List.mem_cons, not_or] at h
    have hpart := List.length_pos_iff.2 (Ne.symm h.1)
    rw [List.map_cons, List.flatten_cons, List.length_append, ih h.2, List.length_take,
      List.length_cons]
    omega

theorem length_le_length_flatten {parts : List (List Char)} (h : [] ∉ parts) :
    parts.length ≤ parts.flatten.length := by
  induction parts with
  | nil => exact Nat.le_refl 0
  | cons part rest ih =>
    rw [List.mem_cons, not_or] at h
    have hpart := List.length_pos_iff.2 (Ne.symm h.1)
    have hrest := ih h.2
    rw [List.flatten_cons, List.length_append, List.length_cons]
    omega

section Parts

variable {parts : List (List Char)} {limit j k : Nat}

theorem empty_notMem_rdrop (h : [] ∉ parts) : [] ∉ parts.rdrop k :=
  fun hmem => h (List.mem_of_mem_take hmem)

theorem length_abbreviate (k : Nat) (parts : List (List Char)) :
    (abbreviate k parts).length = parts.length := by
  rw [abbreviate, List.length_append, List.length_map, ← List.length_append,
    List.rdrop, List.rtake, List.take_append_drop]

theorem length_cutLast (limit : Nat) (parts : List (List Char)) :
    (cutLast limit parts).length = parts.length := by
  rw [cutLast, List.length_append, List.length_map, List.length_map, ← List.length_append,
    List.rdrop, List.rtake, List.take_append_drop]

/-- No empty part is in front, so that what is counted is what is left. -/
theorem length_dotted_abbreviate (hne : parts ≠ []) (h : [] ∉ parts.rdrop k) :
    (dotted (abbreviate k parts)).length = lengthWith k parts := by
  have hpos := length_abbreviate k parts ▸ List.length_pos_iff.2 hne
  rw [length_dotted (List.length_pos_iff.1 hpos), length_abbreviate, abbreviate,
    List.flatten_append, List.length_append, length_flatten_initials h, lengthWith, List.rdrop,
    List.length_take]
  omega

theorem length_dotted_cutLast (hne : parts ≠ []) (h : [] ∉ parts)
    (hlast : limit < lengthWith 1 parts) :
    (dotted (cutLast limit parts)).length = max limit (2 * parts.length - 1) := by
  obtain ⟨front, last, rfl⟩ := (List.eq_nil_or_concat' parts).resolve_left hne
  have hfront : [] ∉ front := fun hmem => h (List.mem_append_left _ hmem)
  have hpos : 0 < last.length := List.length_pos_iff.2 fun hnil => h (by simp [hnil])
  have hcons : cutLast limit (front ++ [last]) ≠ [] := by
    rw [← List.length_pos_iff, length_cutLast]
    simp
  rw [length_dotted hcons, length_cutLast]
  simp only [cutLast, lengthWith, List.rdrop, List.rtake, List.length_append, List.length_cons,
    List.length_nil, Nat.zero_add, Nat.add_sub_cancel, List.take_left, List.drop_left,
    List.flatten_append, List.map_cons, List.map_nil, List.flatten_singleton, List.length_take,
    length_flatten_initials hfront] at hlast ⊢
  omega

theorem lengthWith_zero (hne : parts ≠ []) : lengthWith 0 parts = 2 * parts.length - 1 := by
  have hpos := List.length_pos_iff.2 hne
  rw [lengthWith, List.rtake_zero, List.flatten_nil, List.length_nil]
  omega

/-- Whole parts take no less than one character. -/
theorem lengthWith_mono (h : [] ∉ parts) (hjk : j ≤ k) (hk : k ≤ parts.length) :
    lengthWith j parts ≤ lengthWith k parts := by
  have hsplit : parts.rtake k = (parts.rtake k).take (k - j) ++ parts.rtake j := by
    have hdrop : parts.rtake j = (parts.rtake k).drop (k - j) := by
      rw [List.rtake, List.rtake, List.drop_drop]
      congr 1
      omega
    rw [hdrop, List.take_append_drop]
  have hmore := length_le_length_flatten fun hmem : [] ∈ (parts.rtake k).take (k - j) =>
    h (List.mem_of_mem_drop (List.mem_of_mem_take hmem))
  have hlength := congrArg (fun ps => ps.flatten.length) hsplit
  simp only [List.flatten_append, List.length_append] at hlength
  have hwhole : (parts.rtake k).length = parts.length - (parts.length - k) := List.length_drop
  rw [List.length_take, hwhole] at hmore
  unfold lengthWith
  omega

theorem wholeParts_le (limit : Nat) (parts : List (List Char)) :
    wholeParts limit parts ≤ parts.length := Nat.findGreatest_le _

theorem lengthWith_le_of_le_wholeParts (hne : parts ≠ []) (h : [] ∉ parts) (hj : 0 < j)
    (hle : j ≤ wholeParts limit parts) : lengthWith j parts ≤ limit := by
  have hwhole := Nat.findGreatest_of_ne_zero
    (P := fun k => (dotted (abbreviate k parts)).length ≤ limit) rfl
    (Nat.ne_of_gt (Nat.lt_of_lt_of_le hj hle))
  rw [length_dotted_abbreviate hne (empty_notMem_rdrop h)] at hwhole
  exact Nat.le_trans (lengthWith_mono h hle (wholeParts_le limit parts)) hwhole

/-- Since whole parts take no less, one after the other fits as long as their whole does. -/
theorem keeps_wholeParts (hne : parts ≠ []) (h : [] ∉ parts) :
    KeepsLast limit (wholeParts limit parts) parts where
  le := wholeParts_le limit parts
  fits j hj hle := lengthWith_le_of_le_wholeParts hne h hj hle
  stops hlt := by
    have hnext := Nat.findGreatest_is_greatest
      (P := fun k => (dotted (abbreviate k parts)).length ≤ limit) (Nat.lt_succ_self _) hlt
    rw [length_dotted_abbreviate hne (empty_notMem_rdrop h)] at hnext
    exact Nat.lt_of_not_le hnext

theorem wholeParts_mono {wider : Nat} (h : limit ≤ wider) :
    wholeParts limit parts ≤ wholeParts wider parts :=
  Nat.findGreatest_mono (fun _ hle => Nat.le_trans hle h) (Nat.le_refl _)

/-- What is left of parts that are not empty. -/
def shownParts (limit : Nat) (parts : List (List Char)) : List (List Char) :=
  if wholeParts limit parts = 0 then cutLast limit parts
  else abbreviate (wholeParts limit parts) parts

/-- The length of what is left. -/
theorem length_dotted_shownParts (hne : parts ≠ []) (h : [] ∉ parts) :
    (dotted (shownParts limit parts)).length =
      max (lengthWith (wholeParts limit parts) parts) (min limit (lengthWith 1 parts)) := by
  have hkeeps : KeepsLast limit _ parts := keeps_wholeParts hne h
  have hpos := List.length_pos_iff.2 hne
  rw [shownParts]
  split
  next hzero =>
    have hstops := hkeeps.stops (by omega)
    rw [hzero] at hstops ⊢
    rw [length_dotted_cutLast hne h hstops, lengthWith_zero hne]
    rw [Nat.zero_add] at hstops
    omega
  next hwhole =>
    have hone := lengthWith_mono h (Nat.one_le_iff_ne_zero.2 hwhole) hkeeps.le
    rw [length_dotted_abbreviate hne (empty_notMem_rdrop h)]
    omega

/-- A part of a name and what is left of it. -/
def IsCut (short part : List Char) : Prop := short ≠ [] ∧ short <+: part

theorem isCut_take {part : List Char} (n : Nat) (h : part ≠ []) :
    IsCut (part.take (n + 1)) part :=
  ⟨by simpa using h, List.take_prefix (n + 1) part⟩

theorem forall₂_isCut_map {f : List Char → List Char} (h : ∀ part ∈ parts, IsCut (f part) part) :
    List.Forall₂ IsCut (parts.map f) parts :=
  List.forall₂_map_left_iff.2 (List.forall₂_same.2 h)

/-- Single characters of the parts in front, and what is left of the last `k` parts. -/
theorem forall₂_isCut_append {back : List (List Char)} (h : [] ∉ parts)
    (hback : List.Forall₂ IsCut back (parts.rtake k)) :
    List.Forall₂ IsCut ((parts.rdrop k).map (List.take 1) ++ back) parts := by
  have hfront : List.Forall₂ IsCut ((parts.rdrop k).map (List.take 1)) (parts.rdrop k) :=
    forall₂_isCut_map fun part hmem =>
      isCut_take 0 fun hnil => empty_notMem_rdrop h (hnil ▸ hmem)
  have hall : List.Forall₂ IsCut _ (parts.rdrop k ++ parts.rtake k) :=
    List.rel_append hfront hback
  rwa [List.rdrop, List.rtake, List.take_append_drop] at hall

/-- Each part that is left is the start of a part. -/
theorem forall₂_isCut_shownParts (h : [] ∉ parts) :
    List.Forall₂ IsCut (shownParts limit parts) parts := by
  have hne (k : Nat) (part : List Char) (hmem : part ∈ parts.rtake k) : part ≠ [] :=
    fun hnil => h (hnil ▸ List.mem_of_mem_drop hmem)
  rw [shownParts]
  split
  · exact forall₂_isCut_append h (forall₂_isCut_map fun part hmem => isCut_take _ (hne 1 part hmem))
  · exact forall₂_isCut_append h
      (List.forall₂_same.2 fun part hmem => ⟨hne _ part hmem, List.prefix_refl part⟩)

theorem notMem_of_forall₂_isCut {c : Char} {short parts : List (List Char)}
    (h : List.Forall₂ IsCut short parts) (hc : ∀ part ∈ parts, c ∉ part) :
    ∀ part ∈ short, c ∉ part := by
  induction h with
  | nil => exact fun part hmem => absurd hmem List.not_mem_nil
  | cons hcut _ ih =>
    rw [List.forall_mem_cons] at hc ⊢
    exact ⟨fun hmem => hc.1 (hcut.2.subset hmem), ih hc.2⟩

theorem rtake_append (a b : List (List Char)) : (a ++ b).rtake b.length = b := by
  rw [List.rtake, List.length_append, Nat.add_sub_cancel, List.drop_left]

theorem rdrop_append (a b : List (List Char)) : (a ++ b).rdrop b.length = a := by
  rw [List.rdrop, List.length_append, Nat.add_sub_cancel, List.take_left]

theorem length_rtake (hk : k ≤ parts.length) : (parts.rtake k).length = k := by
  rw [List.rtake, List.length_drop]
  omega

theorem rtake_abbreviate (hk : k ≤ parts.length) :
    (abbreviate k parts).rtake k = parts.rtake k := by
  have h := rtake_append ((parts.rdrop k).map (List.take 1)) (parts.rtake k)
  rwa [length_rtake hk] at h

theorem rdrop_abbreviate (hk : k ≤ parts.length) :
    (abbreviate k parts).rdrop k = (parts.rdrop k).map (List.take 1) := by
  have h := rdrop_append ((parts.rdrop k).map (List.take 1)) (parts.rtake k)
  rwa [length_rtake hk] at h

theorem rdrop_cutLast (hne : parts ≠ []) :
    (cutLast limit parts).rdrop 1 = (parts.rdrop 1).map (List.take 1) := by
  have h := rdrop_append ((parts.rdrop 1).map (List.take 1))
    ((parts.rtake 1).map (List.take (limit - (2 * parts.length - 1) + 1)))
  rwa [List.length_map, length_rtake (List.length_pos_iff.2 hne)] at h

theorem length_of_mem_initials (h : [] ∉ parts) {part : List Char}
    (hmem : part ∈ parts.map (List.take 1)) : part.length = 1 := by
  obtain ⟨whole, hwhole, rfl⟩ := List.mem_map.1 hmem
  have hpos := List.length_pos_iff.2 fun hnil : whole = [] => h (hnil ▸ hwhole)
  rw [List.length_take]
  omega

/-- What is left is within the limit, or as short as it can be. -/
theorem length_dotted_shownParts_le (hne : parts ≠ []) (h : [] ∉ parts) :
    (dotted (shownParts limit parts)).length ≤ max limit (2 * parts.length - 1) := by
  rw [length_dotted_shownParts hne h]
  rcases Nat.eq_zero_or_pos (wholeParts limit parts) with hzero | hpos
  · rw [hzero, lengthWith_zero hne]
    omega
  · have hfits := lengthWith_le_of_le_wholeParts hne h hpos (Nat.le_refl _)
    omega

theorem length_dotted_shownParts_mono {wider : Nat} (hne : parts ≠ []) (h : [] ∉ parts)
    (hle : limit ≤ wider) :
    (dotted (shownParts limit parts)).length ≤ (dotted (shownParts wider parts)).length := by
  have hwhole := lengthWith_mono h (wholeParts_mono hle) (wholeParts_le wider parts)
  rw [length_dotted_shownParts hne h, length_dotted_shownParts hne h]
  omega

theorem empty_notMem_shownParts (h : [] ∉ parts) : [] ∉ shownParts limit parts :=
  fun hmem => ((List.forall₂_and_left _ _).1 (forall₂_isCut_shownParts h)).1 [] hmem rfl

/-- With too little room for one character of each part there is nothing more to cut. -/
theorem shownParts_of_lt (hne : parts ≠ []) (h : [] ∉ parts) (hlt : limit < 2 * parts.length - 1) :
    shownParts limit parts = parts.map (List.take 1) := by
  have hzero : wholeParts limit parts = 0 := by
    by_contra hwhole
    have hfits := lengthWith_le_of_le_wholeParts hne h (Nat.pos_of_ne_zero hwhole) (Nat.le_refl _)
    have hnone := lengthWith_mono h (Nat.zero_le _) (wholeParts_le limit parts)
    rw [lengthWith_zero hne] at hnone
    exact absurd (Nat.le_trans hnone hfits) (Nat.not_le.2 hlt)
  have hroom : limit - (2 * parts.length - 1) + 1 = 1 := by omega
  rw [shownParts, if_pos hzero, cutLast, hroom, ← List.map_append, List.rdrop, List.rtake,
    List.take_append_drop]

end Parts

theorem shortName_of_parts (h : [] ∉ nameParts name) (limit : Nat) :
    shortName name limit = .ok (dotted (shownParts limit (nameParts name))) := by
  have hne := nameParts_ne_nil name
  by_cases hlong : limit < name.length
  · rw [shortName_eq (keeps_wholeParts hne h) hlong,
      if_neg (empty_notMem_rdrop h)]
    rfl
  · have hall : wholeParts limit (nameParts name) = (nameParts name).length := by
      refine Nat.le_antisymm (wholeParts_le _ _) (Nat.le_findGreatest (Nat.le_refl _) ?_)
      rw [length_dotted_abbreviate hne fun hmem => h (List.mem_of_mem_take hmem),
        lengthWith_length]
      exact Nat.le_of_not_lt hlong
    have hshown : shownParts limit (nameParts name) = nameParts name := by
      rw [shownParts, hall, if_neg (by simpa using hne), abbreviate, List.rdrop, List.rtake,
        Nat.sub_self, List.take_zero, List.drop_zero, List.map_nil, List.nil_append]
    rw [shortName_of_le (Nat.le_of_not_lt hlong), hshown, dotted_nameParts]

theorem nameParts_shown (h : [] ∉ nameParts name) (limit : Nat) :
    nameParts (dotted (shownParts limit (nameParts name))) = shownParts limit (nameParts name) := by
  have hcut : List.Forall₂ IsCut (shownParts limit _) _ := forall₂_isCut_shownParts h
  refine nameParts_dotted (fun hnil => nameParts_ne_nil name ?_)
    (notMem_of_forall₂_isCut hcut fun _ => dot_notMem_nameParts)
  rw [hnil, List.forall₂_nil_left_iff] at hcut
  exact hcut

/-- A short name stays as it is. -/
theorem shortName_shown (h : [] ∉ nameParts name) (limit : Nat) :
    shortName (dotted (shownParts limit (nameParts name))) limit =
      .ok (dotted (shownParts limit (nameParts name))) := by
  have hne := nameParts_ne_nil name
  have hparts := nameParts_shown h limit
  by_cases hfits : (dotted (shownParts limit (nameParts name))).length ≤ limit
  · exact shortName_of_le hfits
  · -- Too long even as single characters, of which each is its own first one.
    have hle : _ ≤ max limit _ := length_dotted_shownParts_le hne h
    have hlt : limit < 2 * (nameParts name).length - 1 := by omega
    have hsingle := shownParts_of_lt hne h hlt
    have hagain : shownParts limit (shownParts limit (nameParts name)) =
        shownParts limit (nameParts name) := by
      rw [shownParts_of_lt _ (empty_notMem_shownParts h), hsingle, List.map_map]
      · congr 1
        funext part
        rw [Function.comp_apply, List.take_take, Nat.min_self]
      · rw [hsingle, List.length_map]
        exact hlt
      · rw [hsingle]
        simpa using hne
    rw [shortName_of_parts _ limit, hparts, hagain]
    rw [hparts]
    exact empty_notMem_shownParts h

/-- **A short name is the best that fits.** If no part of a name is empty, the name is left as it
is within the limit. Else each part is cut to a start of it that is not empty: as many parts at
the end as possible are whole and the others single characters, or the last one has all the room
that is left. A longer limit gives no shorter name, and a short name stays as it is. -/
theorem shortName_best (h : [] ∉ nameParts name) (limit : Nat)
    (hk : k = wholeParts limit (nameParts name)) :
    ∃ short, shortName name limit = .ok short ∧
      (name.length ≤ limit → short = name) ∧
      (limit < name.length →
        List.Forall₂ (fun part whole => part ≠ [] ∧ part <+: whole)
          (nameParts short) (nameParts name) ∧
        (0 < k → (nameParts short).rtake k = (nameParts name).rtake k ∧
          ∀ part ∈ (nameParts short).rdrop k, part.length = 1) ∧
        (k = 0 → short.length = max limit (2 * (nameParts name).length - 1) ∧
          ∀ part ∈ (nameParts short).rdrop 1, part.length = 1)) ∧
      short.length ≤ max limit (2 * (nameParts name).length - 1) ∧
      (∀ wider, limit ≤ wider →
        ∃ longer, shortName name wider = .ok longer ∧ short.length ≤ longer.length) ∧
      shortName short limit = .ok short := by
  have hne := nameParts_ne_nil name
  have hshort := shortName_of_parts h limit
  have hkeeps : KeepsLast limit _ (nameParts name) := keeps_wholeParts hne h
  rw [← hk] at hkeeps
  refine ⟨_, hshort, ?same, fun hlong => ⟨?starts, ?whole, ?last⟩,
    length_dotted_shownParts_le hne h, ?wider, shortName_shown h limit⟩
  case same =>
    intro hle
    exact Except.ok.inj (hshort.symm.trans (shortName_of_le hle))
  case starts =>
    rw [nameParts_shown h]
    exact forall₂_isCut_shownParts h
  case whole =>
    intro hpos
    rw [nameParts_shown h, shownParts, ← hk, if_neg (Nat.ne_of_gt hpos),
      rtake_abbreviate hkeeps.le, rdrop_abbreviate hkeeps.le]
    exact ⟨rfl, fun part => length_of_mem_initials (empty_notMem_rdrop h)⟩
  case last =>
    intro hzero
    have hstops := hkeeps.stops (hkeeps.lt_length hlong)
    rw [hzero] at hstops
    rw [nameParts_shown h, shownParts, ← hk, if_pos hzero, rdrop_cutLast hne]
    exact ⟨length_dotted_cutLast hne h hstops,
      fun part => length_of_mem_initials (empty_notMem_rdrop h)⟩
  case wider =>
    intro wider hle
    exact ⟨_, shortName_of_parts h wider, length_dotted_shownParts_mono hne h hle⟩

/-- Two parts of a name are whole in 17 characters. -/
theorem shortName_best_logger :
    [] ∉ nameParts "my.very.long.logger.name" ∧
    2 = wholeParts 17 (nameParts "my.very.long.logger.name") ∧
    ∃ short, shortName "my.very.long.logger.name" 17 = .ok short ∧ short.length ≤ 17 ∧
      (nameParts short).rtake 2 = ["logger".toList, "name".toList] ∧
      shortName short 17 = .ok short := by
  have hparts : [] ∉ nameParts "my.very.long.logger.name" := by decide +kernel
  have hwhole : 2 = wholeParts 17 (nameParts "my.very.long.logger.name") := by decide +kernel
  obtain ⟨short, hshort, -, hlong, hle, -, hagain⟩ := shortName_best hparts 17 hwhole
  obtain ⟨hrtake, -⟩ := (hlong (by decide +kernel)).2.1 (by decide)
  exact ⟨hparts, hwhole, short, hshort, hle, hrtake, hagain⟩

end ServiceClient
