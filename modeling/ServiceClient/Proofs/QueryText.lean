import Mathlib.Data.List.Induction
import ServiceClient.Http.Query
import ServiceClient.Proofs.DnsName
import ServiceClient.Proofs.PathSegments

/-!
# Query strings are read as they are written

* `Query.component_escaped`: an escaped name or value is what it was.
* `Query.parse_append`: the pairs of two query strings with a `&` in between.
* `Query.parse_encode`: encoded pairs are read back.
* `Query.filter_grouped`: grouping keeps the pairs of each name, in order.
-/

namespace ServiceClient

/-- A mark ends a piece. -/
theorem splitAll_cons_mark {p : Char → Bool} {c : Char} (hc : p c = true) (s : List Char) :
    splitAll p (c :: s) = [] :: splitAll p s := if_pos hc

/-- Any other character goes into the first piece. -/
theorem splitAll_cons {p : Char → Bool} {c : Char} {s piece : List Char} {rest : List (List Char)}
    (hc : ¬ p c = true) (hs : splitAll p s = piece :: rest) :
    splitAll p (c :: s) = (c :: piece) :: rest := by
  unfold splitAll at hs ⊢
  rw [List.foldr_cons, hs, if_neg hc]

theorem exists_splitAll (p : Char → Bool) (s : List Char) :
    ∃ piece rest, splitAll p s = piece :: rest := by
  induction s with
  | nil => exact ⟨[], [], rfl⟩
  | cons c s ih =>
    obtain ⟨piece, rest, hs⟩ := ih
    by_cases hc : p c = true
    · exact ⟨[], _, splitAll_cons_mark hc s⟩
    · exact ⟨c :: piece, rest, splitAll_cons hc hs⟩

/-- Pieces in front of a mark and behind it. -/
theorem splitAll_mark {p : Char → Bool} {c : Char} (hc : p c = true) (a b : List Char) :
    splitAll p (a ++ c :: b) = splitAll p a ++ splitAll p b := by
  induction a with
  | nil => rw [List.nil_append, splitAll_cons_mark hc]; rfl
  | cons d a ih =>
    by_cases hd : p d = true
    · rw [List.cons_append, splitAll_cons_mark hd, splitAll_cons_mark hd, ih]; rfl
    · obtain ⟨piece, rest, hpiece⟩ := exists_splitAll p a
      rw [hpiece] at ih
      rw [List.cons_append, splitAll_cons hd hpiece, splitAll_cons hd ih]; rfl

/-- A text without marks is one piece. -/
theorem splitAll_none {p : Char → Bool} {s : List Char} (h : ∀ c ∈ s, p c = false) :
    splitAll p s = [s] := by
  induction s with
  | nil => rfl
  | cons c s ih =>
    obtain ⟨hc, hs⟩ := List.forall_mem_cons.1 h
    exact splitAll_cons (by rw [hc]; decide) (ih hs)

/-- No piece has a mark in it. -/
theorem eq_false_of_mem_splitAll {p : Char → Bool} {s piece : List Char}
    (h : piece ∈ splitAll p s) : ∀ c ∈ piece, p c = false := by
  induction s generalizing piece with
  | nil =>
    rw [List.mem_singleton.1 h]
    exact fun c hc => absurd hc List.not_mem_nil
  | cons d s ih =>
    by_cases hd : p d = true
    · rw [splitAll_cons_mark hd, List.mem_cons] at h
      rcases h with rfl | h
      · exact fun c hc => absurd hc List.not_mem_nil
      · exact ih h
    · obtain ⟨first, rest, hs⟩ := exists_splitAll p s
      rw [splitAll_cons hd hs, List.mem_cons] at h
      rw [hs] at ih
      rcases h with rfl | h
      · exact List.forall_mem_cons.2 ⟨by simpa using hd, ih List.mem_cons_self⟩
      · exact ih (List.mem_cons_of_mem first h)

namespace Query

/-- No character is safe in a name or a value. -/
def nothing (_ : Char) : Bool := false

/-- A name or a value as it is written. -/
def escaped (s : String) : List Char := Percent.encodeBytes nothing (Utf8.encode s)

theorem escaped_eq (s : String) : escaped s = (Percent.encode nothing s).toList := by
  rw [Percent.encode, String.toList_ofList]; rfl

theorem mem_escaped {s : String} {c : Char} (h : c ∈ escaped s) :
    Percent.isUnreserved c = true ∨ c = '%' := by
  rw [escaped_eq] at h
  rcases Percent.mem_encode h with h | h | h
  · exact .inl h
  · exact .inr h
  · exact Bool.noConfusion h

/-- The marks of a query string are escaped. -/
theorem notMem_escaped {s : String} {c : Char} (hc : Percent.isUnreserved c = false)
    (hmark : c ≠ '%') : c ∉ escaped s := by
  intro h
  rcases mem_escaped h with h | h
  · rw [hc] at h; cases h
  · exact hmark h

/-- An escaped text is one run of ASCII characters. -/
theorem unescape_ascii {s : List Char} (h : ∀ c ∈ s, c.toNat < 128) :
    unescape s = decodeKeeping (Percent.decodeBytes s) := by
  have hruns : ∀ s : List Char, (∀ c ∈ s, c.toNat < 128) → s ≠ [] → runs s = [(true, s)] := by
    intro s
    induction s with
    | nil => exact fun _ hne => absurd rfl hne
    | cons c s ih =>
      intro h _
      rw [List.forall_mem_cons] at h
      have hc : decide (c.toNat < 128) = true := decide_eq_true h.1
      cases s with
      | nil => rw [runs, runs, hc]
      | cons d s =>
        rw [runs, ih h.2 (List.cons_ne_nil d s)]
        simp only [hc, if_true]
  by_cases hne : s = []
  · subst hne
    have hnil : Percent.decodeBytes [] = [] := by rw [Percent.decodeBytes]
    rw [hnil, decodeKeeping]; rfl
  · rw [unescape, hruns s h hne, List.flatMap_singleton]; rfl

theorem decodeKeeping_encodeChars (s : List Char) : decodeKeeping (Utf8.encodeChars s) = s := by
  induction s with
  | nil => unfold Utf8.encodeChars; rw [List.flatMap_nil, decodeKeeping]
  | cons c s ih =>
    obtain ⟨b, more, hb, hs⟩ := Utf8.start_encodeChar c (Utf8.encodeChars s)
    have he : Utf8.encodeChars (c :: s) = b :: (more ++ Utf8.encodeChars s) := by
      unfold Utf8.encodeChars; rw [List.flatMap_cons, hb]; rfl
    rw [he, decodeKeeping, hs]
    simp only [List.drop_left, ih]

/-- **An escaped name or value is what it was.** -/
theorem component_escaped (s : String) : component (escaped s) = s := by
  have hplus : (escaped s).map (fun c => if c = '+' then ' ' else c) = escaped s := by
    have hid : ∀ c ∈ escaped s, (if c = '+' then ' ' else c) = id c := by
      intro c hc
      refine if_neg fun he => ?_
      exact notMem_escaped (by decide) (by decide) (he ▸ hc)
    rw [List.map_congr_left hid, List.map_id]
  have hascii : ∀ c ∈ escaped s, c.toNat < 128 := by
    intro c hc
    rcases mem_escaped hc with h | rfl
    · exact lt_of_isUnreserved h
    · decide
  unfold component
  rw [hplus, unescape_ascii hascii, escaped_eq, Percent.decodeBytes_encode rfl, Utf8.encode,
    decodeKeeping_encodeChars, String.ofList_toList]

/-- The pair that a piece of a query string stands for. -/
def pairOf (s : List Char) : String × String :=
  (component (splitFirst (· = '=') s).1, component ((splitFirst (· = '=') s).2.getD []))

theorem parse_eq (query : String) :
    parse query = ((splitAll (· = '&') query.toList).filter fun s => !s.isEmpty).map pairOf := rfl

theorem parse_empty : parse "" = [] := rfl

/-- The pairs of two query strings follow each other. -/
theorem parse_append (a b : String) : parse (a ++ "&" ++ b) = parse a ++ parse b := by
  have hchars : (a ++ "&" ++ b).toList = a.toList ++ '&' :: b.toList := by
    rw [String.toList_append, String.toList_append, List.append_assoc]
    rfl
  rw [parse_eq, hchars, splitAll_mark (decide_eq_true rfl), List.filter_append, List.map_append]
  rfl

/-- A pair as it is written. -/
def pairText (p : String × String) : String :=
  String.ofList (escaped p.1 ++ '=' :: escaped p.2)

/-- A written pair is read back. -/
theorem parse_pairText (p : String × String) : parse (pairText p) = [p] := by
  have hand : ∀ c ∈ escaped p.1 ++ '=' :: escaped p.2, decide (c = '&') = false := by
    intro c hc
    refine decide_eq_false fun he => ?_
    subst he
    rcases List.mem_append.1 hc with hc | hc
    · exact notMem_escaped (by decide) (by decide) hc
    · rcases List.mem_cons.1 hc with hc | hc
      · cases hc
      · exact notMem_escaped (by decide) (by decide) hc
  have hequal : ∀ c ∈ escaped p.1, decide (c = '=') = false := by
    intro c hc
    refine decide_eq_false fun he => ?_
    subst he
    exact notMem_escaped (by decide) (by decide) hc
  have hne : (!(escaped p.1 ++ '=' :: escaped p.2).isEmpty) = true := by
    cases escaped p.1 <;> rfl
  have hsplit : splitFirst (· = '=') (escaped p.1 ++ '=' :: escaped p.2) =
      (escaped p.1, some (escaped p.2)) := Url.splitFirst_of_mark hequal (decide_eq_true rfl)
  rw [parse_eq, pairText, String.toList_ofList, splitAll_none hand,
    List.filter_cons_of_pos (p := fun s : List Char => !s.isEmpty) hne, List.filter_nil,
    List.map_singleton, pairOf, hsplit, component_escaped, Option.getD_some, component_escaped]

/-- Texts with a mark in between: the first one, then the others. -/
theorem intercalate_cons (a b : String) (rest : List String) :
    "&".intercalate (a :: b :: rest) = a ++ "&" ++ "&".intercalate (b :: rest) := by
  refine String.toList_inj.1 ?_
  simp [String.toList_intercalate, List.intercalate]

/-- The written pairs with a mark in between. -/
theorem encode_texts (pairs : List (String × String)) :
    encode (pairs.map fun p => (Utf8.encode p.1, Utf8.encode p.2)) =
      "&".intercalate (pairs.map pairText) := by
  show "&".intercalate ((pairs.map _).map _) = _
  rw [List.map_map]
  rfl

/-- **Encoded pairs are read back**, whatever characters they have. -/
theorem parse_encode (pairs : List (String × String)) :
    parse (encode (pairs.map fun p => (Utf8.encode p.1, Utf8.encode p.2))) = pairs := by
  rw [encode_texts]
  induction pairs with
  | nil => rfl
  | cons p rest ih =>
    cases rest with
    | nil => exact parse_pairText p
    | cons q rest =>
      rw [List.map_cons, List.map_cons, intercalate_cons, parse_append, parse_pairText,
        ← List.map_cons, ih]
      rfl

/-- An encoded query string is empty only without pairs. -/
theorem encode_eq_empty {pairs : List (String × String)}
    (h : encode (pairs.map fun p => (Utf8.encode p.1, Utf8.encode p.2)) = "") : pairs = [] := by
  have hparse := parse_encode pairs
  rw [h, parse_empty] at hparse
  exact hparse.symm

/-- The pairs of a name. -/
def valuesOf (name : String) (pairs : List (String × String)) : List String :=
  (pairs.filter fun p => p.1 == name).map (·.2)

theorem valuesOf_append (name : String) (a b : List (String × String)) :
    valuesOf name (a ++ b) = valuesOf name a ++ valuesOf name b := by
  rw [valuesOf, List.filter_append, List.map_append]; rfl

/-- The names of pairs, each once. -/
def names (pairs : List (String × String)) : List String :=
  pairs.foldl (fun seen p => if seen.contains p.1 then seen else seen ++ [p.1]) []

theorem names_concat (pairs : List (String × String)) (p : String × String) :
    names (pairs ++ [p]) =
      if p.1 ∈ names pairs then names pairs else names pairs ++ [p.1] := by
  rw [names, List.foldl_append]
  show (if (names pairs).contains p.1 then names pairs else names pairs ++ [p.1]) = _
  simp only [List.contains_iff_mem]

theorem names_spec (pairs : List (String × String)) :
    (names pairs).Nodup ∧ ∀ name, name ∈ names pairs ↔ ∃ p ∈ pairs, p.1 = name := by
  induction pairs using List.reverseRecOn with
  | nil => exact ⟨List.nodup_nil, fun name => by simp [names]⟩
  | append_singleton pairs p ih =>
    obtain ⟨hnodup, hmem⟩ := ih
    rw [names_concat]
    have hfound : ∀ name, (∃ q ∈ pairs ++ [p], q.1 = name) ↔ name ∈ names pairs ∨ name = p.1 := by
      intro name
      rw [hmem]
      constructor
      · rintro ⟨q, hq, rfl⟩
        rcases List.mem_append.1 hq with hq | hq
        · exact .inl ⟨q, hq, rfl⟩
        · exact .inr (by rw [List.mem_singleton.1 hq])
      · rintro (⟨q, hq, rfl⟩ | rfl)
        · exact ⟨q, List.mem_append_left _ hq, rfl⟩
        · exact ⟨p, List.mem_append_right _ List.mem_cons_self, rfl⟩
    -- a name that is there already stays where it is
    by_cases hp : p.1 ∈ names pairs
    · rw [if_pos hp]
      refine ⟨hnodup, fun name => ?_⟩
      rw [hfound]
      exact ⟨.inl, fun h => h.elim id fun he => he ▸ hp⟩
    · rw [if_neg hp]
      refine ⟨?_, fun name => by rw [hfound, List.mem_append, List.mem_singleton]⟩
      rw [List.nodup_append]
      refine ⟨hnodup, by simp, fun a ha b hb => ?_⟩
      rw [List.mem_singleton.1 hb]
      exact fun he => hp (he ▸ ha)

/-- **Grouping keeps the values of each name**, in order. -/
theorem valuesOf_grouped (name : String) (pairs : List (String × String)) :
    valuesOf name (grouped pairs) = valuesOf name pairs := by
  obtain ⟨hnodup, hmem⟩ := names_spec pairs
  -- of a list of different names, only the name itself has pairs of it
  have hsome : ∀ found : List String, found.Nodup → ((found.flatMap fun n =>
      pairs.filter fun p => p.1 == n).filter fun p => p.1 == name) =
        if name ∈ found then pairs.filter fun p => p.1 == name else [] := by
    intro found
    induction found with
    | nil => exact fun _ => rfl
    | cons n found ih =>
      intro h
      rw [List.nodup_cons] at h
      rw [List.flatMap_cons, List.filter_append, ih h.2, List.filter_filter]
      by_cases hn : n = name
      · subst hn
        rw [if_neg h.1, if_pos List.mem_cons_self, List.append_nil]
        simp only [Bool.and_self]
      · have hnone : (pairs.filter fun p => p.1 == name && p.1 == n) = [] := by
          rw [List.filter_eq_nil_iff]
          intro p _ hp
          rw [Bool.and_eq_true, beq_iff_eq, beq_iff_eq] at hp
          exact hn (hp.2.symm.trans hp.1)
        have hmem : name ∈ n :: found ↔ name ∈ found := by
          rw [List.mem_cons, or_iff_right fun he => hn he.symm]
        rw [hnone, List.nil_append]
        simp only [hmem]
  unfold valuesOf
  show List.map _ (List.filter _ ((names pairs).flatMap _)) = _
  rw [hsome _ hnodup]
  by_cases hname : name ∈ names pairs
  · rw [if_pos hname]
  · have hnone : (pairs.filter fun p => p.1 == name) = [] := by
      rw [List.filter_eq_nil_iff]
      intro p hp he
      exact hname ((hmem name).2 ⟨p, hp, beq_iff_eq.1 he⟩)
    rw [if_neg hname, hnone]

end Query

end ServiceClient
