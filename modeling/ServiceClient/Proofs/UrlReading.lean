import Mathlib.Data.List.TakeWhile
import ServiceClient.Proofs.PathText
import ServiceClient.Proofs.Requests

/-!
# Paths and endpoints read as URLs

* `Url.parse_path`: what is read of a path, with whatever follows a question mark behind it.
* `Url.pathOnly_of_path`: a path has no parameters of its own.
* `Url.parse_endpoint`: the path of an endpoint.
-/

namespace ServiceClient

open PathTemplate (isPathChar)

/-- A character of a kind is not one that is not of the kind. -/
theorem ne_of_kind {p : Char → Bool} {c d : Char} (hc : p c = true) (hd : p d = false) : c ≠ d := by
  rintro rfl
  rw [hc] at hd
  cases hd

/-- A text without a mark has no character that is taken for it. -/
theorem no_mark {s : List Char} {d : Char} (h : d ∉ s) : ∀ c ∈ s, decide (c = d) = false :=
  fun _ hc => decide_eq_false (ne_of_mem_of_not_mem hc h)

namespace Url

/-- What may follow a path: nothing, or a question mark and anything. -/
def EndsPath (rest : List Char) : Prop := rest = [] ∨ ∃ query, rest = '?' :: query

/-- Characters of a kind that has no tabs and no line breaks are not dropped. -/
theorem not_isDropped {p : Char → Bool} (htab : p '\t' = false) (hreturn : p '\r' = false)
    (hline : p '\n' = false) {c : Char} (hc : p c = true) : isDropped c = false := by
  unfold isDropped
  simp [ne_of_kind hc htab, ne_of_kind hc hreturn, ne_of_kind hc hline]

/-- A part of a text before a mark ends where the path does. -/
theorem takeWhile_path {p : Char → Bool} {path rest : List Char} (hp : ∀ c ∈ path, p c = true)
    (hrest : EndsPath rest) (hmark : p '?' = false) : (path ++ rest).takeWhile p = path := by
  rw [List.takeWhile_append_of_pos hp]
  rcases hrest with rfl | ⟨query, rfl⟩
  · rw [List.takeWhile_nil, List.append_nil]
  · rw [List.takeWhile_cons_of_neg (by rw [hmark]; decide), List.append_nil]

theorem splitFirst_fst (p : Char → Bool) (s : List Char) :
    (splitFirst p s).1 = s.takeWhile fun c => !p c := by
  unfold splitFirst
  dsimp only
  split <;> rfl

/-- No scheme stands in front of a slash. -/
theorem takeScheme_slash (s : List Char) : takeScheme ('/' :: s) = ([], '/' :: s) := by
  have hfst : ∃ before, (splitFirst (· = ':') ('/' :: s)).1 = '/' :: before := by
    rw [splitFirst_fst, List.takeWhile_cons_of_pos (by decide)]
    exact ⟨_, rfl⟩
  obtain ⟨before, hbefore⟩ := hfst
  unfold takeScheme
  split
  · rename_i c rest after heq
    rw [heq] at hbefore
    cases hbefore
    rfl
  · rfl

/-- Without two slashes in front there is no authority. -/
theorem takeAuthority_none {s : List Char} (h : ∀ rest, s ≠ '/' :: '/' :: rest) :
    takeAuthority s = ([], s) := by
  unfold takeAuthority
  split
  · exact absurd rfl (h _)
  · rfl

/-- Exactly two slashes in front let a part of a text be read as an authority. -/
theorem takeAuthority_eq_self {s : List Char} :
    (takeAuthority s).2 = s ↔ ¬ ∃ t, s = '/' :: '/' :: t := by
  constructor
  · rintro h ⟨t, rfl⟩
    have hle : (takeAuthority ('/' :: '/' :: t)).2.length ≤ t.length :=
      (List.dropWhile_sublist _).length_le
    rw [h, List.length_cons, List.length_cons] at hle
    omega
  · intro h
    rw [takeAuthority_none fun t ht => h ⟨t, ht⟩]

/-- A mark that ends a path ends its first part, too. -/
theorem span_append {p : Char → Bool} {rest : List Char} (hrest : EndsPath rest)
    (hmark : p '?' = false) (s : List Char) :
    (s ++ rest).takeWhile p = s.takeWhile p ∧ (s ++ rest).dropWhile p = s.dropWhile p ++ rest := by
  induction s with
  | nil =>
    rcases hrest with rfl | ⟨query, rfl⟩
    · exact ⟨rfl, rfl⟩
    · rw [List.nil_append, List.takeWhile_cons_of_neg (by rw [hmark]; decide),
        List.dropWhile_cons_of_neg (by rw [hmark]; decide)]
      exact ⟨rfl, rfl⟩
  | cons c s ih =>
    rw [List.cons_append]
    by_cases hc : p c = true
    · rw [List.takeWhile_cons_of_pos hc, List.takeWhile_cons_of_pos hc,
        List.dropWhile_cons_of_pos hc, List.dropWhile_cons_of_pos hc, ih.1, ih.2]
      exact ⟨rfl, rfl⟩
    · rw [List.takeWhile_cons_of_neg hc, List.takeWhile_cons_of_neg hc,
        List.dropWhile_cons_of_neg hc, List.dropWhile_cons_of_neg hc]
      exact ⟨rfl, rfl⟩

/-- The part of a path that is read as an authority ends in the path. -/
theorem takeAuthority_append {rest : List Char} (hrest : EndsPath rest) (s : List Char) :
    takeAuthority (s ++ rest) = ((takeAuthority s).1, (takeAuthority s).2 ++ rest) := by
  by_cases hs : ∃ t, s = '/' :: '/' :: t
  · obtain ⟨t, rfl⟩ := hs
    obtain ⟨htake, hdrop⟩ := span_append
      (p := fun c => !(decide (c = '/') || decide (c = '?') || decide (c = '#')))
      hrest (by decide) t
    exact Prod.ext htake hdrop
  · -- what follows a path starts with no slash, so that it does not make a second one
    have hnone : ∀ t, s ++ rest ≠ '/' :: '/' :: t := by
      intro t h
      rcases s with _ | ⟨c, _ | ⟨d, s⟩⟩
      · rcases hrest with rfl | ⟨query, rfl⟩ <;> cases h
      · rcases hrest with rfl | ⟨query, rfl⟩ <;> cases h
      · cases h
        exact hs ⟨s, rfl⟩
    rw [takeAuthority_none hnone, takeAuthority_none fun t h => hs ⟨t, h⟩]

/-- What is read as an authority and what is left are parts of the text. -/
theorem takeAuthority_sublist (s : List Char) :
    (∀ c ∈ (takeAuthority s).1, c ∈ s) ∧ (takeAuthority s).2 <:+ s := by
  by_cases hs : ∃ t, s = '/' :: '/' :: t
  · obtain ⟨t, rfl⟩ := hs
    refine ⟨fun c hc => ?_, ?_⟩
    · exact List.mem_cons_of_mem _ (List.mem_cons_of_mem _ ((List.takeWhile_sublist _).subset hc))
    · exact (List.dropWhile_suffix _).trans ⟨['/', '/'], rfl⟩
  · rw [takeAuthority_none fun t h => hs ⟨t, h⟩]
    exact ⟨fun c hc => (by cases hc), List.suffix_refl s⟩

/-- Characters of a path are no brackets. -/
theorem checkBrackets_path {s : List Char} (h : ∀ c ∈ s, isPathChar c = true) :
    checkBrackets s = .ok () := by
  have hleft : s.contains '[' = false := by
    rw [← Bool.not_eq_true, List.contains_iff_mem]
    exact fun hm => absurd (h _ hm) (by decide)
  have hright : s.contains ']' = false := by
    rw [← Bool.not_eq_true, List.contains_iff_mem]
    exact fun hm => absurd (h _ hm) (by decide)
  unfold checkBrackets
  rw [hleft, hright]
  rfl

/-- Variants of marks are not in ASCII. -/
theorem notMem_markVariants {c : Char} (h : c.toNat < 128) : c ∉ markVariants := by
  have hvariants : markVariants.all (fun d => decide (128 ≤ d.toNat)) = true := by decide
  intro hmem
  have hle := of_decide_eq_true (List.all_eq_true.1 hvariants c hmem)
  omega

theorem checkMarks_of_none {s : List Char} (h : ∀ c ∈ s, c ∉ markVariants) :
    checkMarks s = .ok () := by
  have hnone : s.any markVariants.contains = false :=
    List.any_eq_false.2 fun c hc hmem => h c hc (List.contains_iff_mem.1 hmem)
  unfold checkMarks
  rw [hnone]
  rfl

/-- **A path is read** up to its end: after two slashes, the first part of it is an authority,
and the path is the rest. -/
theorem parse_path {s rest : List Char} (hs : ∀ c ∈ s, isPathChar c = true)
    (hslash : s.head? = some '/') (hrest : EndsPath rest) :
    ∃ u, parse (String.ofList (s ++ rest)) = .ok u ∧
      u.authority = String.ofList (takeAuthority s).1 ∧
        u.path = String.ofList (takeAuthority s).2 := by
  obtain ⟨t, rfl⟩ : ∃ t, s = '/' :: t := by
    cases s with
    | nil => cases hslash
    | cons c t => cases hslash; exact ⟨t, rfl⟩
  -- nothing of the path is dropped, and what is left behind it still ends it
  obtain ⟨rest', hrest', hfilter⟩ : ∃ rest', EndsPath rest' ∧
      (('/' :: t ++ rest).dropWhile isLeading).filter (fun c => !isDropped c) =
        '/' :: t ++ rest' := by
    refine ⟨rest.filter fun c => !isDropped c, ?_, ?_⟩
    · rcases hrest with rfl | ⟨query, rfl⟩
      · exact .inl rfl
      · exact .inr ⟨_, List.filter_cons_of_pos (by decide)⟩
    · rw [List.cons_append, List.dropWhile_cons_of_neg (by decide), ← List.cons_append,
        List.filter_append]
      congr 1
      rw [List.filter_eq_self]
      intro c hc
      rw [not_isDropped rfl rfl rfl (hs c hc)]
      rfl
  -- authority and path are parts of the path, so that they have no other marks
  obtain ⟨hmem, hsuffix⟩ := takeAuthority_sublist ('/' :: t)
  have hbrackets : checkBrackets (takeAuthority ('/' :: t)).1 = .ok () :=
    checkBrackets_path fun c hc => hs c (hmem c hc)
  have hmarks : checkMarks (takeAuthority ('/' :: t)).1 = .ok () :=
    checkMarks_of_none fun c hc =>
      notMem_markVariants (PathTemplate.lt_of_isPathChar (hs c (hmem c hc)))
  have hpath : ∀ c ∈ (takeAuthority ('/' :: t)).2, isPathChar c = true :=
    fun c hc => hs c (hsuffix.subset hc)
  unfold parse
  rw [String.toList_ofList, hfilter]
  simp only [List.cons_append, takeScheme_slash]
  rw [← List.cons_append, takeAuthority_append hrest' ('/' :: t)]
  simp only [hbrackets, hmarks]
  refine ⟨_, rfl, rfl, ?_⟩
  have hmark : ∀ d, isPathChar d = false → ∀ c ∈ (takeAuthority ('/' :: t)).2,
      (!decide (c = d)) = true := by
    intro d hd c hc
    rw [decide_eq_false (ne_of_kind (hpath c hc) hd)]
    rfl
  have hfragment : (splitFirst (· = '#') ((takeAuthority ('/' :: t)).2 ++ rest')).1 =
      (takeAuthority ('/' :: t)).2 ++ rest'.takeWhile fun c => !decide (c = '#') := by
    rw [splitFirst_fst, List.takeWhile_append_of_pos (hmark '#' (by decide))]
  have hends : EndsPath (rest'.takeWhile fun c => !decide (c = '#')) := by
    rcases hrest' with rfl | ⟨query, rfl⟩
    · exact .inl rfl
    · exact .inr ⟨_, List.takeWhile_cons_of_pos (by decide)⟩
  show String.ofList (splitFirst (· = '?')
    (splitFirst (· = '#') ((takeAuthority ('/' :: t)).2 ++ rest')).1).1 = _
  rw [hfragment, splitFirst_fst, takeWhile_path (hmark '?' (by decide)) hends (by decide)]

/-- A path that does not start with two slashes has a plain form. -/
theorem normalize_path {s : List Char} (hs : ∀ c ∈ s, isPathChar c = true)
    (hslash : s.head? = some '/') (hsingle : ¬ ∃ t, s = '/' :: '/' :: t) :
    ∃ plain, normalize (String.ofList s) = .ok plain := by
  have hend : EndsPath [] := .inl rfl
  obtain ⟨u, hu, hauthority, -⟩ := parse_path hs hslash hend
  rw [List.append_nil] at hu
  rw [takeAuthority_none fun t ht => hsingle ⟨t, ht⟩] at hauthority
  -- without two slashes in front there is no authority
  have htexts : u.hostAndPortTexts = ([], []) := by
    unfold hostAndPortTexts hostAndPort
    rw [hauthority]
    rfl
  have hname : u.hostName? = none := by
    unfold hostName?
    rw [htexts]
    rfl
  have hport : u.port? = .ok none := by
    unfold port?
    rw [htexts]
    rfl
  have hhost : (HostName.toAscii (u.hostName?.getD "").toList).mapError
      (fun f => Failure.url (.label f)) = .ok [] := by
    rw [hname]
    rfl
  exact ⟨_, bind_eq_ok.2 ⟨u, hu, bind_eq_ok.2 ⟨[], hhost, bind_eq_ok.2 ⟨none, hport, rfl⟩⟩⟩⟩

/-- A text is split at the last of its marks, if it has any. -/
theorem splitLast_eq (p : Char → Bool) (s : List Char) :
    (∃ after, splitLast p s = (none, after) ∧ s = after) ∨
      ∃ before c after, splitLast p s = (some before, after) ∧ p c = true ∧
        s = before ++ c :: after := by
  have hsplit : s = (s.reverse.dropWhile fun c => !p c).reverse ++
      (s.reverse.takeWhile fun c => !p c).reverse := by
    rw [← List.reverse_append, List.takeWhile_append_dropWhile, List.reverse_reverse]
  unfold splitLast
  cases hdrop : s.reverse.dropWhile fun c => !p c with
  | nil =>
    rw [hdrop] at hsplit
    exact .inl ⟨_, rfl, hsplit⟩
  | cons c before =>
    rw [hdrop, List.reverse_cons, List.append_assoc] at hsplit
    have hc := List.head?_dropWhile_not (fun c => !p c) s.reverse
    rw [hdrop, List.head?_cons] at hc
    exact .inr ⟨before.reverse, c, _, rfl, by simpa using hc, hsplit⟩

/-- A path has no parameters of its own. -/
theorem pathOnly_of_path {u : Url} {s : List Char} (hu : u.path = String.ofList s)
    (hs : ∀ c ∈ s, isPathChar c = true) : u.pathOnly = String.ofList s := by
  have hkept : ∀ after : List Char, (∀ c ∈ after, c ∈ s) → after.takeWhile (· != ';') = after := by
    intro after hafter
    rw [List.takeWhile_eq_self_iff]
    exact fun c hc => bne_iff_ne.2 (ne_of_kind (hs c (hafter c hc)) (by decide))
  unfold pathOnly
  rw [hu, String.toList_ofList]
  split
  · rcases splitLast_eq (· = '/') s with ⟨after, hlast, rfl⟩ | ⟨before, c, after, hlast, hc, rfl⟩
    · rw [hlast]
      exact congrArg String.ofList (hkept s fun c hc => hc)
    · have hafter : ∀ d ∈ after, d ∈ before ++ c :: after := fun d hd =>
        List.mem_append_right _ (List.mem_cons_of_mem _ hd)
      rw [hlast, of_decide_eq_true hc]
      dsimp only
      rw [hkept after hafter]
  · rfl

/-- A text is split at its first mark. -/
theorem splitFirst_of_mark {p : Char → Bool} {before after : List Char} {c : Char}
    (hbefore : ∀ d ∈ before, p d = false) (hc : p c = true) :
    splitFirst p (before ++ c :: after) = (before, some after) := by
  have hpos : ∀ d ∈ before, (!p d) = true := fun d hd => by rw [hbefore d hd]; rfl
  have hneg : ¬ (!p c) = true := by rw [hc]; decide
  have htake : (before ++ c :: after).takeWhile (fun c => !p c) = before := by
    rw [List.takeWhile_append_of_pos hpos, List.takeWhile_cons_of_neg (p := fun c => !p c) hneg,
      List.append_nil]
  have hdrop : (before ++ c :: after).dropWhile (fun c => !p c) = c :: after := by
    rw [List.dropWhile_append_of_pos hpos, List.dropWhile_cons_of_neg (p := fun c => !p c) hneg]
  unfold splitFirst
  rw [htake, hdrop]

/-- A text that starts with a mark is split there. -/
theorem splitFirst_cons {p : Char → Bool} {c : Char} (hc : p c = true) (after : List Char) :
    splitFirst p (c :: after) = ([], some after) := by
  have hnone : ∀ d ∈ ([] : List Char), p d = false := List.forall_mem_nil _
  exact splitFirst_of_mark hnone hc

/-- A text without marks is not split. -/
theorem splitFirst_none {p : Char → Bool} {s : List Char} (hs : ∀ d ∈ s, p d = false) :
    splitFirst p s = (s, none) := by
  have hpos : ∀ d ∈ s, (!p d) = true := fun d hd => by rw [hs d hd]; rfl
  unfold splitFirst
  rw [List.takeWhile_eq_self_iff.2 hpos, List.dropWhile_eq_nil_iff.2 hpos]

/-- A text is split at its last mark. -/
theorem splitLast_of_mark {p : Char → Bool} {before after : List Char} {c : Char}
    (hafter : ∀ d ∈ after, p d = false) (hc : p c = true) :
    splitLast p (before ++ c :: after) = (some before, after) := by
  have hpos : ∀ d ∈ after.reverse, (!p d) = true := fun d hd => by
    rw [hafter d (List.mem_reverse.1 hd)]
    rfl
  have hneg : ¬ (!p c) = true := by rw [hc]; decide
  have hreverse : (before ++ c :: after).reverse = after.reverse ++ c :: before.reverse := by
    simp
  unfold splitLast
  rw [hreverse, List.takeWhile_append_of_pos hpos, List.dropWhile_append_of_pos hpos,
    List.takeWhile_cons_of_neg (p := fun c => !p c) hneg,
    List.dropWhile_cons_of_neg (p := fun c => !p c) hneg, List.append_nil, List.reverse_reverse]
  exact congrArg (fun s => (some s, after)) (List.reverse_reverse before)

theorem splitLast_none {p : Char → Bool} {s : List Char} (hs : ∀ d ∈ s, p d = false) :
    splitLast p s = (none, s) := by
  have hpos : ∀ d ∈ s.reverse, (!p d) = true := fun d hd => by
    rw [hs d (List.mem_reverse.1 hd)]
    rfl
  unfold splitLast
  rw [List.takeWhile_eq_self_iff.2 hpos, List.dropWhile_eq_nil_iff.2 hpos, List.reverse_reverse]

/-- The characters of an endpoint's host are no marks of other parts, and are not dropped. -/
def IsHostText (host : List Char) : Prop :=
  ∀ c ∈ host, c ≠ '/' ∧ c ≠ '?' ∧ c ≠ '#' ∧ isDropped c = false

/-- A scheme starts with a letter. -/
def IsSchemeText (scheme : List Char) : Prop :=
  ∃ c rest, scheme = c :: rest ∧ c.isAlpha = true ∧ rest.all isSchemeChar = true

theorem isLeading_of_isAlpha {c : Char} (h : c.isAlpha = true) : isLeading c = false := by
  unfold isLeading
  rw [decide_eq_false_iff_not]
  intro hle
  have hval : c.val.toNat ≤ 32 := hle
  unfold Char.isAlpha Char.isUpper Char.isLower at h
  simp only [Bool.or_eq_true, Bool.and_eq_true, decide_eq_true_eq, UInt32.le_iff_toNat_le] at h
  simp at h
  omega

theorem IsSchemeText.all {scheme : List Char} (h : IsSchemeText scheme) :
    ∀ c ∈ scheme, isSchemeChar c = true := by
  obtain ⟨c, cs, rfl, hc, hcs⟩ := h
  rw [List.forall_mem_cons]
  refine ⟨?_, List.all_eq_true.1 hcs⟩
  unfold isSchemeChar Char.isAlphanum
  rw [hc]
  rfl

/-- Nothing is dropped in front of a scheme. -/
theorem IsSchemeText.dropWhile_isLeading {scheme : List Char} (h : IsSchemeText scheme)
    (rest : List Char) : (scheme ++ rest).dropWhile isLeading = scheme ++ rest := by
  obtain ⟨c, cs, rfl, hc, -⟩ := h
  rw [List.cons_append, List.dropWhile_cons_of_neg (by rw [isLeading_of_isAlpha hc]; decide)]

/-- A scheme is split off. -/
theorem takeScheme_of_scheme {scheme rest : List Char} (h : IsSchemeText scheme) :
    takeScheme (scheme ++ ':' :: rest) = (scheme.map Char.toLower, rest) := by
  have hchars := h.all
  obtain ⟨c, cs, rfl, hc, hcs⟩ := h
  have hcolon : ∀ d ∈ c :: cs, decide (d = ':') = false := fun d hd =>
    decide_eq_false (ne_of_kind (hchars d hd) (by decide))
  unfold takeScheme
  rw [splitFirst_of_mark hcolon (by decide)]
  dsimp only
  rw [hc, hcs]
  rfl

/-- What may follow an authority: nothing, or the mark of another part and anything. -/
def EndsAuthority (tail : List Char) : Prop :=
  tail = [] ∨ ∃ c rest, tail = c :: rest ∧ (c = '/' ∨ c = '?' ∨ c = '#')

/-- A host behind two slashes is split off, up to what ends it. -/
theorem takeAuthority_of_host {host tail : List Char} (hhost : IsHostText host)
    (htail : EndsAuthority tail) :
    takeAuthority ('/' :: '/' :: (host ++ tail)) = (host, tail) := by
  have hpos : ∀ c ∈ host, (!(decide (c = '/') || decide (c = '?') || decide (c = '#'))) = true := by
    intro c hc
    obtain ⟨h1, h2, h3, -⟩ := hhost c hc
    simp only [h1, h2, h3, decide_false, Bool.or_false, Bool.not_false]
  show (List.takeWhile _ (host ++ tail), List.dropWhile _ (host ++ tail)) = _
  rw [List.takeWhile_append_of_pos hpos, List.dropWhile_append_of_pos hpos]
  rcases htail with rfl | ⟨c, rest, rfl, hc⟩
  · rw [List.takeWhile_nil, List.dropWhile_nil, List.append_nil]
  · rcases hc with rfl | rfl | rfl
    all_goals
      rw [List.takeWhile_cons_of_neg (by decide), List.dropWhile_cons_of_neg (by decide),
        List.append_nil]

/-- **The parts of an endpoint** are its scheme in lower case, its host, and the path behind. -/
theorem parse_endpoint {scheme host base : List Char} {u : Url} (hscheme : IsSchemeText scheme)
    (hhost : IsHostText host) (hbase : ∀ c ∈ base, isPathChar c = true)
    (hslash : base = [] ∨ base.head? = some '/')
    (h : parse (String.ofList (scheme ++ ':' :: '/' :: '/' :: (host ++ base))) = .ok u) :
    u.path = String.ofList base ∧ u.scheme = String.ofList (scheme.map Char.toLower) ∧
      u.authority = String.ofList host := by
  have hdropped : ∀ d ∈ scheme ++ ':' :: '/' :: '/' :: (host ++ base), (!isDropped d) = true := by
    intro d hd
    rw [Bool.not_eq_true']
    rcases List.mem_append.1 hd with hd | hd
    · exact not_isDropped rfl rfl rfl (hscheme.all d hd)
    · rw [List.mem_cons, List.mem_cons, List.mem_cons, List.mem_append] at hd
      rcases hd with rfl | rfl | rfl | hd | hd
      · decide
      · decide
      · decide
      · exact (hhost d hd).2.2.2
      · exact not_isDropped rfl rfl rfl (hbase d hd)
  -- nothing is dropped: the scheme stands in front, and no part has a line break
  have hkept : ((scheme ++ ':' :: '/' :: '/' :: (host ++ base)).dropWhile isLeading).filter
      (fun c => !isDropped c) = scheme ++ ':' :: '/' :: '/' :: (host ++ base) := by
    rw [hscheme.dropWhile_isLeading, List.filter_eq_self]
    exact hdropped
  have hmark : ∀ d, isPathChar d = false → ∀ c ∈ base, decide (c = d) = false := fun d hd c hc =>
    decide_eq_false (ne_of_kind (hbase c hc) hd)
  have hends : EndsAuthority base := hslash.imp_right fun hslash => by
    obtain ⟨rest, hrest⟩ := List.head?_eq_some_iff.1 hslash
    exact ⟨'/', rest, hrest, .inl rfl⟩
  unfold parse at h
  rw [String.toList_ofList, hkept] at h
  simp only [takeScheme_of_scheme hscheme, takeAuthority_of_host hhost hends] at h
  obtain ⟨-, -, h⟩ := bind_eq_ok.1 h
  rw [splitFirst_none (hmark '#' (by decide))] at h
  dsimp only at h
  rw [splitFirst_none (hmark '?' (by decide))] at h
  obtain ⟨-, -, h⟩ := bind_eq_ok.1 h
  rw [← Except.ok.inj h]
  exact ⟨rfl, rfl, rfl⟩

end Url

end ServiceClient
