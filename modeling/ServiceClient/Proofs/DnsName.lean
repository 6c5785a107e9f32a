import ServiceClient.Proofs.PathText

/-!
# Names of hosts

Names in the domain name system are in ASCII as they stand, and stay names in lower case.

* `kind_toLower`: kinds of characters that have lower case.
* `HostName.IsDnsName`: labels of 1 to 63 characters between dots.
* `HostName.IsDnsName.lower`, `HostName.IsDnsName.toAscii`: the forms that a name has in a URL.
-/

namespace ServiceClient

/-- Characters of ASCII have a lower case of their own, whatever stands before them. -/
theorem lowerFrom_ascii (before : List CodePoint) {s : List Char} (h : ∀ c ∈ s, c.toNat < 128) :
    lowerFrom before (s.map .char) = (s.map Char.toLower).map .char := by
  induction s generalizing before with
  | nil => rfl
  | cons c s ih =>
    rw [List.forall_mem_cons] at h
    rw [List.map_cons, lowerFrom, lowerPoint, if_pos h.1, ih _ h.2]
    rfl

/-- Text in ASCII is brought to lower case letter by letter. -/
theorem lowerChars_ascii {s : List Char} (h : ∀ c ∈ s, c.toNat < 128) :
    lowerChars s = s.map Char.toLower := by
  unfold lowerChars lowerPoints
  rw [lowerFrom_ascii [] h, Text.map_shown_char]

/-- What holds of the codes of ASCII holds of its characters. -/
theorem ascii_forall {P : Char → Prop} (hcodes : ∀ n < 128, P (Char.ofNat n)) (c : Char)
    (hc : c.toNat < 128) : P c := by
  have hcode := hcodes c.toNat hc
  rw [Char.ofNat_toNat] at hcode
  exact hcode

/-- A kind of ASCII characters that has lower case for each upper case letter. -/
theorem kind_toLower {p : Char → Bool} (hascii : ∀ c, p c = true → c.toNat < 128)
    (hlower : ∀ n < 128, p (Char.ofNat n) = true → p (Char.ofNat n).toLower = true) {c : Char}
    (hc : p c = true) : p c.toLower = true :=
  ascii_forall (P := fun c => p c = true → p c.toLower = true) hlower c (hascii c hc) hc

theorem toLower_ascii : ∀ c : Char, c.toNat < 128 →
    c.toLower.toNat < 128 ∧ c.toLower.toLower = c.toLower :=
  ascii_forall (by decide)

theorem map_toLower_ascii {s : List Char} (h : ∀ c ∈ s, c.toNat < 128) :
    (s.map Char.toLower).map Char.toLower = s.map Char.toLower := by
  rw [List.map_map, List.map_inj_left]
  exact fun c hc => (toLower_ascii c (h c hc)).2

/-- Text in lower case stays as it is. -/
theorem lowerChars_lowerChars {s : List Char} (h : ∀ c ∈ s, c.toNat < 128) :
    lowerChars (lowerChars s) = lowerChars s := by
  rw [lowerChars_ascii h, lowerChars_ascii, map_toLower_ascii h]
  intro c hc
  obtain ⟨d, hd, rfl⟩ := List.mem_map.1 hc
  exact (toLower_ascii d (h d hd)).1

theorem lt_of_isUnreserved {c : Char} (h : Percent.isUnreserved c = true) : c.toNat < 128 := by
  refine PathTemplate.lt_of_isPathChar ?_
  unfold PathTemplate.isPathChar
  rw [h]
  rfl

theorem isUnreserved_of_isAlphanum {c : Char} (h : c.isAlphanum = true) :
    Percent.isUnreserved c = true := by
  unfold Percent.isUnreserved
  rw [h]
  rfl

namespace HostName

/-- A character of a label. -/
def isLabelChar (c : Char) : Bool := c.isAlphanum || c = '-' || c = '_'

/-- A label of 1 to 63 characters. -/
def IsLabel (label : List Char) : Prop :=
  label ≠ [] ∧ label.length < labelLimit ∧ ∀ c ∈ label, isLabelChar c = true

/-- A name of labels between dots, possibly with a dot at its end. -/
def IsDnsName (name : List Char) : Prop :=
  ∃ (parts : List (List Char)) (ended : Bool), parts ≠ [] ∧ (∀ l ∈ parts, IsLabel l) ∧
    name = ['.'].intercalate parts ++ (if ended then ['.'] else [])

theorem isUnreserved_of_isLabelChar {c : Char} (h : isLabelChar c = true) :
    Percent.isUnreserved c = true := by
  unfold isLabelChar at h
  rw [Bool.or_eq_true, Bool.or_eq_true] at h
  rcases h with (h | h) | h
  · exact isUnreserved_of_isAlphanum h
  · rw [of_decide_eq_true h]
    decide
  · rw [of_decide_eq_true h]
    decide

theorem isLabelChar_toLower {c : Char} (h : isLabelChar c = true) : isLabelChar c.toLower = true :=
  kind_toLower (fun _ hc => lt_of_isUnreserved (isUnreserved_of_isLabelChar hc)) (by decide) h

theorem isLabel_toLower {label : List Char} (h : IsLabel label) :
    IsLabel (label.map Char.toLower) := by
  obtain ⟨hne, hlength, hchars⟩ := h
  refine ⟨?_, ?_, ?_⟩
  · intro he
    exact hne (List.map_eq_nil_iff.1 he)
  · rw [List.length_map]
    exact hlength
  · intro c hc
    obtain ⟨d, hd, rfl⟩ := List.mem_map.1 hc
    exact isLabelChar_toLower (hchars d hd)

theorem dot_notMem {label : List Char} (h : IsLabel label) : '.' ∉ label := by
  intro hmem
  exact absurd (h.2.2 '.' hmem) (by decide)

theorem mem_intercalate {parts : List (List Char)} {c : Char}
    (h : c ∈ ['.'].intercalate parts) : c = '.' ∨ ∃ l ∈ parts, c ∈ l := by
  induction parts with
  | nil => cases h
  | cons l rest ih =>
    cases rest with
    | nil =>
      rw [List.intercalate_singleton] at h
      exact .inr ⟨l, List.mem_cons_self, h⟩
    | cons l' rest =>
      rw [List.intercalate_cons_cons, List.mem_append, List.mem_append] at h
      rcases h with (h | h) | h
      · exact .inr ⟨l, List.mem_cons_self, h⟩
      · exact .inl (List.mem_singleton.1 h)
      · rcases ih h with h | ⟨m, hm, h⟩
        · exact .inl h
        · exact .inr ⟨m, List.mem_cons_of_mem _ hm, h⟩

theorem map_intercalate (f : Char → Char) (hf : f '.' = '.') (parts : List (List Char)) :
    (['.'].intercalate parts).map f = ['.'].intercalate (parts.map (List.map f)) := by
  induction parts with
  | nil => rfl
  | cons l rest ih =>
    cases rest with
    | nil => simp
    | cons l' rest =>
      rw [List.map_cons] at ih
      rw [List.intercalate_cons_cons, List.map_cons, List.map_cons, List.intercalate_cons_cons,
        List.map_append, List.map_append, ih]
      simp [hf]

/-- The labels of a name are the pieces between its dots. -/
theorem labels_eq_splitOn (name : List Char) : labels (· = '.') name = name.splitOn '.' := by
  induction name with
  | nil => rfl
  | cons c name ih =>
    obtain ⟨label, rest, hsplit⟩ := List.exists_cons_of_ne_nil (List.splitOn_ne_nil '.' name)
    rw [List.splitOn_cons_eq_if_modifyHead, hsplit]
    rw [hsplit] at ih
    unfold labels at ih ⊢
    rw [List.foldr_cons, ih]
    by_cases hc : c = '.'
    · simp [hc]
    · simp [hc]

namespace IsDnsName

variable {name : List Char}

/-- A label alone is a name. -/
theorem of_label {label : List Char} (h : IsLabel label) : IsDnsName label := by
  refine ⟨[label], false, List.cons_ne_nil _ _, fun l hl => ?_, ?_⟩
  · rw [List.mem_singleton.1 hl]
    exact h
  · rw [List.intercalate_singleton]
    exact (List.append_nil label).symm

theorem isUnreserved (h : IsDnsName name) : ∀ c ∈ name, Percent.isUnreserved c = true := by
  obtain ⟨parts, ended, -, hparts, rfl⟩ := h
  have hdot : Percent.isUnreserved '.' = true := by decide
  intro c hc
  rcases List.mem_append.1 hc with hc | hc
  · rcases mem_intercalate hc with rfl | ⟨l, hl, hc⟩
    · exact hdot
    · exact isUnreserved_of_isLabelChar ((hparts l hl).2.2 c hc)
  · cases ended with
    | true =>
      rw [List.mem_singleton.1 hc]
      exact hdot
    | false => cases hc

theorem ascii (h : IsDnsName name) : ∀ c ∈ name, c.toNat < 128 := fun c hc =>
  lt_of_isUnreserved (h.isUnreserved c hc)

theorem ne_nil (h : IsDnsName name) : name ≠ [] := by
  obtain ⟨parts, ended, hne, hparts, rfl⟩ := h
  obtain ⟨l, rest, rfl⟩ := List.exists_cons_of_ne_nil hne
  have hl := (hparts l List.mem_cons_self).1
  intro he
  have hfront := (List.append_eq_nil_iff.1 he).1
  cases rest with
  | nil =>
    rw [List.intercalate_singleton] at hfront
    exact hl hfront
  | cons l' rest =>
    rw [List.intercalate_cons_cons, List.append_assoc] at hfront
    exact hl (List.append_eq_nil_iff.1 hfront).1

/-- A name stays one in lower case. -/
theorem lower (h : IsDnsName name) : IsDnsName (lowerChars name) := by
  rw [lowerChars_ascii h.ascii]
  obtain ⟨parts, ended, hne, hparts, rfl⟩ := h
  refine ⟨parts.map (List.map Char.toLower), ended, ?_, ?_, ?_⟩
  · intro he
    exact hne (List.map_eq_nil_iff.1 he)
  · intro l hl
    obtain ⟨m, hm, rfl⟩ := List.mem_map.1 hl
    exact isLabel_toLower (hparts m hm)
  · rw [List.map_append, map_intercalate Char.toLower (by decide)]
    cases ended <;> rfl

/-- **A name is its own form in ASCII**: all its labels have a size that is allowed. -/
theorem toAscii (h : IsDnsName name) : HostName.toAscii name = .ok name := by
  have hascii : isAscii name = true := by
    unfold isAscii
    rw [List.all_eq_true]
    intro c hc
    exact decide_eq_true (h.ascii c hc)
  obtain ⟨parts, ended, hne, hparts, hname⟩ := h
  have hsplit : (['.'].intercalate parts).splitOn '.' = parts :=
    List.splitOn_intercalate '.' (fun l hl => dot_notMem (hparts l hl)) hne
  have hsize : ∀ l ∈ parts, (l.isEmpty || decide (labelLimit ≤ l.length)) = false := by
    intro l hl
    obtain ⟨hl, hlength, -⟩ := hparts l hl
    rw [Bool.or_eq_false_iff, List.isEmpty_eq_false_iff, decide_eq_false_iff_not]
    exact ⟨hl, by omega⟩
  have hcheck : checkAscii name = .ok () := by
    unfold checkAscii
    rw [labels_eq_splitOn, hname]
    cases ended with
    | false =>
      -- the last label has the size of all others
      have hfront : (parts.dropLast.any fun l => l.isEmpty || labelLimit ≤ l.length) = false := by
        rw [List.any_eq_false]
        intro l hl
        rw [hsize l (List.dropLast_subset _ hl)]
        decide
      have hlast : (parts.getLastD []).length < labelLimit := by
        rw [List.getLastD_eq_getLast?, List.getLast?_eq_some_getLast hne]
        exact (hparts _ (List.getLast_mem hne)).2.1
      simp only [Bool.false_eq_true, if_false, List.append_nil, hsplit, hfront, hlast, if_true]
    | true =>
      have hfront : (parts.any fun l => l.isEmpty || labelLimit ≤ l.length) = false := by
        rw [List.any_eq_false]
        intro l hl
        rw [hsize l hl]
        decide
      have hended : (['.'].intercalate parts ++ ['.']).splitOn '.' = parts ++ [[]] := by
        rw [List.splitOn_append_cons_self, hsplit]
        rfl
      simp only [if_true, hended, List.dropLast_concat, hfront, Bool.false_eq_true, if_false]
      simp [labelLimit]
  unfold HostName.toAscii
  rw [if_pos hascii, hcheck]
  rfl

end IsDnsName

end HostName

end ServiceClient
