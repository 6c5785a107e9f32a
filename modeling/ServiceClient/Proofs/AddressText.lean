import ServiceClient.Proofs.DnsName
import ServiceClient.Proofs.QueryText

/-!
# IPv6 addresses as text

An IPv6 address has hexadecimal digits, colons and dots only, and at least two colons: without its
brackets, what follows the first colon can be no port.

* `Url.isAddressChar`: the characters of an address.
* `Url.countGroups_eq_some`: what pieces are counted as groups.
* `Url.isLabel_of_isGroup`: a group is taken for the label of a name.
* `Url.isIpv6_chars`, `Url.isIpv6_colons`: what an address consists of.
-/

namespace ServiceClient

/-- A text consists of its pieces and of the marks between them. -/
theorem mem_splitAll {p : Char → Bool} {s : List Char} {c : Char} (h : c ∈ s) :
    p c = true ∨ ∃ piece ∈ splitAll p s, c ∈ piece := by
  induction s with
  | nil => cases h
  | cons d s ih =>
    by_cases hd : p d = true
    · rw [splitAll_cons_mark hd]
      rcases List.mem_cons.1 h with rfl | h
      · exact .inl hd
      · refine (ih h).imp_right fun ⟨piece, hpiece, hc⟩ => ?_
        exact ⟨piece, List.mem_cons_of_mem _ hpiece, hc⟩
    · obtain ⟨first, rest, hs⟩ := exists_splitAll p s
      rw [splitAll_cons hd hs]
      rcases List.mem_cons.1 h with rfl | h
      · exact .inr ⟨_, List.mem_cons_self, List.mem_cons_self⟩
      · refine (ih h).imp_right fun ⟨piece, hpiece, hc⟩ => ?_
        rw [hs] at hpiece
        rcases List.mem_cons.1 hpiece with rfl | hpiece
        · exact ⟨_, List.mem_cons_self, List.mem_cons_of_mem _ hc⟩
        · exact ⟨piece, List.mem_cons_of_mem _ hpiece, hc⟩

namespace Url

/-- A character of an IPv6 address. -/
def isAddressChar (c : Char) : Bool := (hexValue? c).isSome || c = ':' || c = '.'

theorem isAddressChar_of_hex {c : Char} (h : (hexValue? c).isSome = true) :
    isAddressChar c = true := by
  unfold isAddressChar
  rw [h]
  rfl

theorem lt_of_hex {c : Char} (h : (hexValue? c).isSome = true) : c.toNat < 128 := by
  unfold hexValue? at h
  by_contra hlarge
  rw [if_neg (by omega), if_neg (by omega), if_neg (by omega)] at h
  cases h

theorem hex_of_isDigit {c : Char} (h : c.isDigit = true) : (hexValue? c).isSome = true := by
  unfold Char.isDigit at h
  simp only [Bool.and_eq_true, decide_eq_true_eq, ge_iff_le, UInt32.le_iff_toNat_le] at h
  obtain ⟨hlow, hhigh⟩ := h
  have hlow : 48 ≤ c.toNat := hlow
  have hhigh : c.toNat ≤ 57 := hhigh
  unfold hexValue?
  rw [if_pos ⟨hlow, hhigh⟩]
  rfl

theorem lt_of_isAddressChar {c : Char} (h : isAddressChar c = true) : c.toNat < 128 := by
  unfold isAddressChar at h
  rw [Bool.or_eq_true, Bool.or_eq_true, decide_eq_true_eq, decide_eq_true_eq] at h
  rcases h with (h | rfl) | rfl
  · exact lt_of_hex h
  · decide
  · decide

/-! ### Groups -/

/-- A group has one to four digits. -/
theorem isGroup_iff {s : List Char} : isGroup s = true ↔
    s ≠ [] ∧ s.length ≤ 4 ∧ ∀ c ∈ s, (hexValue? c).isSome = true := by
  unfold isGroup
  rw [Bool.and_eq_true, Bool.and_eq_true, Bool.not_eq_true', List.isEmpty_eq_false_iff,
    decide_eq_true_eq, List.all_eq_true, and_assoc]

/-- A group is a label of a host. -/
theorem isLabel_of_isGroup {s : List Char} (h : isGroup s = true) : HostName.IsLabel s := by
  obtain ⟨hne, hlength, hchars⟩ := isGroup_iff.1 h
  have hall : ∀ c : Char, c.toNat < 128 → (hexValue? c).isSome = true →
      HostName.isLabelChar c = true := ascii_forall (by decide)
  refine ⟨hne, Nat.lt_of_le_of_lt hlength (by decide), fun c hc => ?_⟩
  exact hall c (lt_of_hex (hchars c hc)) (hchars c hc)

theorem isIpv4_chars {s : List Char} (h : isIpv4 s = true) : ∀ c ∈ s, isAddressChar c = true := by
  unfold isIpv4 at h
  obtain ⟨-, hpieces⟩ := Bool.and_eq_true_iff.1 h
  intro c hc
  rcases mem_splitAll (p := (· = '.')) hc with hdot | ⟨piece, hpiece, hc⟩
  · rw [of_decide_eq_true hdot]
    decide
  · have hoctet := List.all_eq_true.1 hpieces piece hpiece
    unfold isOctet at hoctet
    simp only [Bool.and_eq_true] at hoctet
    exact isAddressChar_of_hex (hex_of_isDigit (List.all_eq_true.1 hoctet.1.1.2 c hc))

/-- An IPv4 address has dots. -/
theorem dot_mem_of_isIpv4 {s : List Char} (h : isIpv4 s = true) : '.' ∈ s := by
  by_contra hdot
  unfold isIpv4 at h
  rw [splitAll_none (no_mark hdot)] at h
  cases h

/-- **Pieces that are counted** are groups, but for the last one, which may be an IPv4 address. -/
theorem countGroups_eq_some {pieces : List (List Char)} {n : Nat}
    (h : countGroups pieces = some n) :
    (∀ piece ∈ pieces, isGroup piece = true ∨ isIpv4 piece = true) ∧
      (∀ piece ∈ pieces.dropLast, isGroup piece = true) ∧ n ≤ pieces.length + 1 := by
  -- only the last piece may be an IPv4 address, so the pieces are taken from their end
  rcases List.eq_nil_or_concat pieces with rfl | ⟨front, last, rfl⟩
  · cases h
    exact ⟨List.forall_mem_nil _, List.forall_mem_nil _, Nat.zero_le _⟩
  · unfold countGroups at h
    rw [List.concat_eq_append, List.reverse_append, List.reverse_singleton,
      List.singleton_append] at h
    dsimp only at h
    split at h
    · rename_i hall
      have hfront : ∀ piece ∈ front, isGroup piece = true := by
        rw [List.all_reverse] at hall
        exact List.all_eq_true.1 hall
      have hmem : (isGroup last = true ∨ isIpv4 last = true) → ∀ piece ∈ front.concat last,
          isGroup piece = true ∨ isIpv4 piece = true := by
        intro hlast piece hpiece
        rw [List.concat_eq_append, List.mem_append, List.mem_singleton] at hpiece
        rcases hpiece with hpiece | rfl
        · exact .inl (hfront piece hpiece)
        · exact hlast
      rw [List.concat_eq_append, List.dropLast_concat, List.length_append, ← List.concat_eq_append]
      rw [List.length_reverse] at h
      split at h
      · rename_i hlast
        cases h
        exact ⟨hmem (.inl hlast), hfront, by simp⟩
      · split at h
        · rename_i hlast
          cases h
          exact ⟨hmem (.inr hlast), hfront, by simp⟩
        · cases h
    · cases h

/-- The pieces of a part of an address. -/
def groupTexts (s : List Char) : List (List Char) := if s.isEmpty then [] else splitAll (· = ':') s

theorem groupTexts_of_ne {s : List Char} (h : s ≠ []) : groupTexts s = splitAll (· = ':') s :=
  if_neg (mt List.isEmpty_iff.1 h)

theorem groupTexts_chars {s : List Char} {n : Nat} (h : countGroups (groupTexts s) = some n) :
    ∀ c ∈ s, isAddressChar c = true := by
  intro c hc
  rw [groupTexts_of_ne (List.ne_nil_of_mem hc)] at h
  obtain ⟨hpieces, -, -⟩ := countGroups_eq_some h
  rcases mem_splitAll (p := (· = ':')) hc with hcolon | ⟨piece, hpiece, hc⟩
  · rw [of_decide_eq_true hcolon]
    decide
  · rcases hpieces piece hpiece with hgroup | hipv4
    · exact isAddressChar_of_hex ((isGroup_iff.1 hgroup).2.2 c hc)
    · exact isIpv4_chars hipv4 c hc

/-- What stands in front of the first colon is a group. -/
theorem groupTexts_first {group rest : List Char} {n : Nat} (hgroup : ':' ∉ group)
    (h : countGroups (groupTexts (group ++ ':' :: rest)) = some n) : isGroup group = true := by
  obtain ⟨piece, pieces, hpieces⟩ := exists_splitAll (· = ':') rest
  rw [groupTexts_of_ne (by simp), splitAll_mark (by decide), splitAll_none (no_mark hgroup),
    hpieces] at h
  obtain ⟨-, hfront, -⟩ := countGroups_eq_some h
  exact hfront group (by simp)

/-- The parts around a gap. -/
theorem splitGap_eq_some {s before after : List Char} (h : splitGap s = some (before, after)) :
    s = before ++ ':' :: ':' :: after := by
  induction s generalizing before with
  | nil => cases h
  | cons c s ih =>
    rw [splitGap.eq_def] at h
    split at h
    · rename_i rest heq
      cases heq
      cases h
      rfl
    · rename_i d rest _ heq
      cases heq
      obtain ⟨⟨before', after'⟩, hrest, hsplit⟩ := Option.map_eq_some_iff.1 h
      cases hsplit
      rw [ih hrest]
      rfl
    · rename_i heq
      cases heq

/-! ### Addresses -/

/-- An address without a zone has eight groups, or a gap with less than eight around it. -/
theorem isIpv6_cases {s : List Char} (h : isIpv6 s = true) (hzone : '%' ∉ s) :
    countGroups (groupTexts s) = some 8 ∨
      ∃ before after a b, s = before ++ ':' :: ':' :: after ∧ '.' ∉ before ∧
        countGroups (groupTexts before) = some a ∧ countGroups (groupTexts after) = some b := by
  unfold isIpv6 at h
  rw [splitFirst_none (no_mark hzone)] at h
  dsimp only at h
  rw [Bool.true_and] at h
  split at h
  · exact .inl (beq_iff_eq.1 h)
  · rename_i before after hgap
    split at h
    · rename_i a b ha hb
      rw [Bool.and_eq_true, List.all_eq_true] at h
      refine .inr ⟨before, after, a, b, splitGap_eq_some hgap, fun hdot => ?_, ha, hb⟩
      exact absurd (h.2 '.' hdot) (by decide)
    · cases h

/-- **An address has digits, colons and dots only.** -/
theorem isIpv6_chars {s : List Char} (h : isIpv6 s = true) (hzone : '%' ∉ s) :
    ∀ c ∈ s, isAddressChar c = true := by
  -- the characters of the groups, and the two colons of the gap
  rcases isIpv6_cases h hzone with hcount | ⟨before, after, a, b, rfl, -, ha, hb⟩
  · exact groupTexts_chars hcount
  · intro c hc
    rw [List.mem_append, List.mem_cons, List.mem_cons] at hc
    rcases hc with hc | rfl | rfl | hc
    · exact groupTexts_chars ha c hc
    · decide
    · decide
    · exact groupTexts_chars hb c hc

/-- An address without a zone passes the check of what stands between brackets. -/
theorem checkAddress_of_isIpv6 {s : List Char} (h : isIpv6 s = true) (hzone : '%' ∉ s) :
    checkAddress s = .ok () := by
  have hversion : s.head? ≠ some 'v' := by
    intro hhead
    have hchar := isIpv6_chars h hzone 'v' (List.mem_of_mem_head? hhead)
    exact absurd hchar (by decide)
  rw [checkAddress, if_neg hversion, if_pos h]

/-- **An address has two colons**: behind the first one, there is no number only. -/
theorem isIpv6_colons {s : List Char} (h : isIpv6 s = true) (hzone : '%' ∉ s) :
    ∃ group rest, s = group ++ ':' :: rest ∧ (group = [] ∨ isGroup group = true) ∧
      ':' ∈ rest := by
  rcases isIpv6_cases h hzone with hcount | ⟨before, after, a, b, rfl, hdot, ha, -⟩
  · -- with less than two colons, there are not enough pieces
    have hne : s ≠ [] := by
      rintro rfl
      cases hcount
    have hpieces : 7 ≤ (splitAll (· = ':') s).length := by
      obtain ⟨-, -, hle⟩ := countGroups_eq_some hcount
      rw [groupTexts_of_ne hne] at hle
      omega
    by_cases hcolon : ':' ∈ s
    · obtain ⟨group, rest, rfl, hgroup⟩ := List.eq_append_cons_of_mem hcolon
      refine ⟨group, rest, rfl, .inr (groupTexts_first hgroup hcount), ?_⟩
      by_contra hrest
      rw [splitAll_mark (by decide), splitAll_none (no_mark hgroup),
        splitAll_none (no_mark hrest)] at hpieces
      exact absurd hpieces (by simp)
    · rw [splitAll_none (no_mark hcolon)] at hpieces
      exact absurd hpieces (by simp)
  · by_cases hcolon : ':' ∈ before
    · obtain ⟨group, rest, rfl, hgroup⟩ := List.eq_append_cons_of_mem hcolon
      refine ⟨group, rest ++ ':' :: ':' :: after, by simp, .inr (groupTexts_first hgroup ha), ?_⟩
      simp
    · refine ⟨before, ':' :: after, rfl, ?_, List.mem_cons_self⟩
      by_cases hne : before = []
      · exact .inl hne
      · -- in front of the gap there is one piece, which has no dots
        rw [groupTexts_of_ne hne, splitAll_none (no_mark hcolon)] at ha
        obtain ⟨hpieces, -, -⟩ := countGroups_eq_some ha
        refine .inr ((hpieces before List.mem_cons_self).resolve_right fun hipv4 => ?_)
        exact hdot (dot_mem_of_isIpv4 hipv4)

end Url

end ServiceClient
