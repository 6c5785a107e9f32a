import ServiceClient.Proofs.Areas
import ServiceClient.Proofs.Utf8

/-!
# The path that the parameters of a request make

* `Percent.mem_encode`, `Percent.encode_slash`: what escaped text consists of and starts with.
* `PathTemplate.fill`: a template with its placeholders replaced.
* `Marshalling.addMembers_path`: the parameters that members leave.
* `Marshalling.resolvedPath_eq_ok`: the resolved path is the filled template.
-/

namespace ServiceClient

namespace Percent

theorem isUnreserved_upperHex : ∀ n < 16, isUnreserved (upperHex n) = true := by decide

theorem mem_escape {b : UInt8} {c : Char} (h : c ∈ escape b) : isUnreserved c = true ∨ c = '%' := by
  have hb : b.toNat < 256 := b.toNat_lt
  unfold escape at h
  simp only [List.mem_cons, List.not_mem_nil, or_false] at h
  rcases h with rfl | rfl | rfl
  · exact .inr rfl
  · exact .inl (isUnreserved_upperHex _ (by omega))
  · exact .inl (isUnreserved_upperHex _ (by omega))

/-- Escaped text has unreserved and safe characters only, and the marks of escapes. -/
theorem mem_encode {safe : Char → Bool} {s : String} {c : Char} (h : c ∈ (encode safe s).toList) :
    isUnreserved c = true ∨ c = '%' ∨ safe c = true := by
  rw [encode, String.toList_ofList] at h
  obtain ⟨b, -, hc⟩ := List.mem_flatMap.1 h
  unfold encodeByte at hc
  dsimp only at hc
  split at hc
  · rename_i hb
    rw [List.mem_singleton.1 hc]
    rw [Bool.and_eq_true, Bool.or_eq_true] at hb
    exact hb.2.imp_right .inr
  · exact (mem_escape hc).imp_right .inl

/-- A character above ASCII starts with a byte above it. -/
theorem encodeChar_large {c : Char} (h : ¬ c.toNat < 128) :
    ∃ b more, Utf8.encodeChar c = b :: more ∧ ¬ b.toNat < 128 := by
  have hv := Utf8.toNat_valid c
  obtain ⟨n, hn⟩ : ∃ n, n = c.toNat := ⟨_, rfl⟩
  rw [← hn] at h hv
  unfold Utf8.encodeChar
  simp only [← hn, h, if_false]
  split
  · exact ⟨_, _, rfl, by rw [Utf8.toNat_byte (by omega)]; omega⟩
  split
  · exact ⟨_, _, rfl, by rw [Utf8.toNat_byte (by omega)]; omega⟩
  · exact ⟨_, _, rfl, by rw [Utf8.toNat_byte (by omega)]; omega⟩

/-- Escaped text starts with the first character of the text or with an escape. -/
theorem head?_encode (safe : Char → Bool) (s : String) :
    (encode safe s).toList.head? = s.toList.head?.map fun c =>
      if c.toNat < 128 && (isUnreserved c || safe c) then c else '%' := by
  rw [encode, String.toList_ofList, Utf8.encode]
  cases s.toList with
  | nil => rfl
  | cons c cs =>
    have hsplit : encodeBytes safe (Utf8.encodeChars (c :: cs)) =
        encodeBytes safe (Utf8.encodeChar c) ++ encodeBytes safe (Utf8.encodeChars cs) := by
      unfold encodeBytes Utf8.encodeChars
      rw [List.flatMap_cons, List.flatMap_append]
    rw [hsplit, List.head?_cons, Option.map_some]
    -- the first byte decides: it is a character of its own only below 128
    by_cases hc : c.toNat < 128
    · have hbyte : (UInt8.ofNat c.toNat).toNat = c.toNat := Utf8.toNat_byte (by omega)
      have hchar : Utf8.encodeChar c = [UInt8.ofNat c.toNat] := by
        unfold Utf8.encodeChar
        simp only [hc, if_true]
      rw [hchar, encodeBytes, List.flatMap_singleton, encodeByte, hbyte, Char.ofNat_toNat]
      by_cases hsafe : (decide (c.toNat < 128) && (isUnreserved c || safe c)) = true
      · simp only [hsafe, if_true]
        rfl
      · simp only [hsafe]
        rfl
    · obtain ⟨b, more, henc, hb⟩ := encodeChar_large hc
      have hbyte : encodeByte safe b = escape b := by
        unfold encodeByte
        simp only [hb, decide_false, Bool.false_and, Bool.false_eq_true, if_false]
      rw [henc, encodeBytes, List.flatMap_cons, hbyte]
      simp only [hc, decide_false, Bool.false_and, Bool.false_eq_true, if_false]
      rfl

/-- Escaped text starts with a slash exactly if the text does, and slashes are safe. -/
theorem encode_slash {safe : Char → Bool} {s : String} :
    (encode safe s).toList.head? = some '/' ↔ safe '/' = true ∧ s.toList.head? = some '/' := by
  rw [head?_encode]
  cases s.toList.head? with
  | none => exact ⟨fun h => (by cases h), fun h => (by cases h.2)⟩
  | some c =>
    rw [Option.map_some]
    constructor
    · intro h
      split at h
      · rename_i hsafe
        cases h
        exact ⟨by simpa [show isUnreserved '/' = false by decide] using hsafe, rfl⟩
      · cases h
    · rintro ⟨hs, h⟩
      cases h
      rw [hs, Bool.or_true]
      rfl

/-- Only the empty text is escaped as nothing. -/
theorem encode_ne_nil {safe : Char → Bool} {s : String} (h : s ≠ "") :
    (encode safe s).toList ≠ [] := by
  intro he
  have hhead := head?_encode safe s
  rw [he] at hhead
  cases hs : s.toList with
  | nil => exact h (String.toList_eq_nil_iff.1 hs)
  | cons c cs =>
    rw [hs] at hhead
    cases hhead

end Percent

namespace PathTemplate

theorem ofChars_literal {c : Char} (hc : c ≠ '{') (rest : List Char) :
    ofChars (c :: rest) = .literal c :: ofChars rest := by
  rw [ofChars, if_neg hc]

theorem ofChars_placeholder {rest name after : List Char}
    (h : placeholder? rest = some (name, after)) :
    ofChars ('{' :: rest) = .parameter (String.ofList name) :: ofChars after := by
  rw [ofChars, if_pos rfl]
  split
  · rename_i heq
    rw [h] at heq
    cases heq
    rfl
  · rename_i heq
    rw [h] at heq
    cases heq

/-- A text without opening braces has no placeholders. -/
theorem parameter_notMem_ofChars {s : List Char} (h : ∀ c ∈ s, c ≠ '{') (name : String) :
    .parameter name ∉ ofChars s := by
  induction s with
  | nil =>
    rw [ofChars]
    exact List.not_mem_nil
  | cons c s ih =>
    rw [List.forall_mem_cons] at h
    rw [ofChars_literal h.1, List.mem_cons]
    rintro (he | hmem)
    · cases he
    · exact ih h.2 hmem

/-- The values of parameters: whether slashes stay in the value, and its text. -/
abbrev Values := List (String × Bool × String)

/-- The escaped text of a value. -/
def escaped (v : Bool × String) : String := Percent.encode (Binding.keepsInPath v.1) v.2

/-- A template with its placeholders replaced by the escaped values of their parameters. -/
def fill (values : Values) : PathTemplate → List Char
  | [] => []
  | .literal c :: rest => c :: fill values rest
  | .parameter name :: rest =>
    ((values.lookup name).map escaped |>.getD "").toList ++ fill values rest

/-- A template that is expanded is filled, and all its parameters have values. -/
theorem expandChars_eq_ok {values : Values} {parameters : List (String × String)}
    (hp : ∀ name, parameters.lookup name = (values.lookup name).map escaped) {t : PathTemplate}
    {s : List Char} : expandChars parameters t = .ok s ↔
      (∀ name, .parameter name ∈ t → (values.lookup name).isSome) ∧ s = fill values t := by
  induction t generalizing s with
  | nil =>
    rw [expandChars, fill]
    exact ⟨fun h => ⟨fun name hn => (by cases hn), (Except.ok.inj h).symm⟩, fun h => by rw [h.2]⟩
  | cons piece rest ih =>
    cases piece with
    | literal c =>
      rw [expandChars, bind_eq_ok, fill]
      constructor
      · rintro ⟨tail, htail, h⟩
        obtain ⟨hbound, rfl⟩ := ih.1 htail
        refine ⟨fun name hn => hbound name ?_, (Except.ok.inj h).symm⟩
        simpa using hn
      · rintro ⟨hbound, rfl⟩
        exact ⟨_, ih.2 ⟨fun name hn => hbound name (List.mem_cons_of_mem _ hn), rfl⟩, rfl⟩
    | parameter name =>
      rw [expandChars, hp name, fill]
      -- a parameter without a value stops the expansion
      cases hv : values.lookup name with
      | none =>
        refine ⟨fun h => (by cases h), fun h => ?_⟩
        have := h.1 name List.mem_cons_self
        rw [hv] at this
        cases this
      | some v =>
        show (expandChars parameters rest >>= fun tail =>
          pure ((escaped v).toList ++ tail)) = .ok s ↔
            _ ∧ s = (escaped v).toList ++ fill values rest
        rw [bind_eq_ok]
        constructor
        · rintro ⟨tail, htail, h⟩
          obtain ⟨hbound, rfl⟩ := ih.1 htail
          refine ⟨fun n hn => ?_, (Except.ok.inj h).symm⟩
          rcases List.mem_cons.1 hn with he | hn
          · cases he
            rw [hv]; rfl
          · exact hbound n hn
        · rintro ⟨hbound, rfl⟩
          exact ⟨_, ih.2 ⟨fun n hn => hbound n (List.mem_cons_of_mem _ hn), rfl⟩, rfl⟩

/-- A character of a path: unreserved, the mark of an escape, or a slash. -/
def isPathChar (c : Char) : Bool := Percent.isUnreserved c || c = '%' || c = '/'

theorem lt_of_isPathChar {c : Char} (h : isPathChar c = true) : c.toNat < 128 := by
  refine Nat.lt_of_not_le fun hge => ?_
  have hval : 128 ≤ c.val.toNat := by
    have heq : c.val.toNat = c.toNat := rfl
    omega
  have hother : ∀ d : Char, d.toNat < 128 → decide (c = d) = false := by
    intro d hd
    rw [decide_eq_false_iff_not]
    rintro rfl
    omega
  unfold isPathChar Percent.isUnreserved Char.isAlphanum Char.isAlpha Char.isUpper Char.isLower
    Char.isDigit at h
  simp only [hother '_' (by decide), hother '.' (by decide), hother '-' (by decide),
    hother '~' (by decide), hother '%' (by decide), hother '/' (by decide), Bool.or_false,
    Bool.or_eq_true, Bool.and_eq_true, decide_eq_true_eq, UInt32.le_iff_toNat_le] at h
  simp at h
  omega

/-- A character of a path ends none, and is ASCII. -/
theorem ne_of_isPathChar {c : Char} (h : isPathChar c = true) :
    c ≠ '?' ∧ c ≠ '#' ∧ c ≠ ' ' ∧ c.toNat < 128 := by
  have hne : ∀ d, isPathChar d = false → c ≠ d := by
    rintro d hd rfl
    rw [h] at hd
    cases hd
  exact ⟨hne _ (by decide), hne _ (by decide), hne _ (by decide), lt_of_isPathChar h⟩

/-- A template that has only unreserved characters and slashes besides its placeholders. -/
def IsPlain (t : PathTemplate) : Prop :=
  ∀ c, .literal c ∈ t → Percent.isUnreserved c = true ∨ c = '/'

theorem mem_escaped {v : Bool × String} {c : Char} (h : c ∈ (escaped v).toList) :
    isPathChar c = true := by
  unfold isPathChar
  rcases Percent.mem_encode h with hc | rfl | hc
  · rw [hc]; rfl
  · rfl
  · unfold Binding.keepsInPath at hc
    rw [Bool.and_eq_true] at hc
    rw [hc.2, Bool.or_true]

/-- A filled template is a path. -/
theorem mem_fill {values : Values} {t : PathTemplate} (ht : t.IsPlain) :
    ∀ c ∈ fill values t, isPathChar c = true := by
  induction t with
  | nil => intro c hc; cases hc
  | cons piece rest ih =>
    have hrest : IsPlain rest := fun c hc => ht c (List.mem_cons_of_mem _ hc)
    intro c hc
    cases piece with
    | literal d =>
      rcases List.mem_cons.1 hc with rfl | hc
      · unfold isPathChar
        rcases ht c List.mem_cons_self with h | rfl
        · rw [h]; rfl
        · decide
      · exact ih hrest c hc
    | parameter name =>
      rcases List.mem_append.1 hc with hc | hc
      · cases hv : values.lookup name with
        | none => rw [hv] at hc; cases hc
        | some v => rw [hv] at hc; exact mem_escaped hc
      · exact ih hrest c hc

end PathTemplate

namespace Binding

/-- The name and the value of a parameter of the path, whose value is a text. -/
def pathValue? (request : Fields) (b : Binding) : Option (String × Bool × String) :=
  if b.isBody then none
  else
    match b.location, b.valueIn request with
    | .path, .text s => some (b.name, false, s)
    | .greedyPath, .text s => some (b.name, true, s)
    | _, _ => none

/-- The values of the parameters of the path, the last ones first. -/
def pathValues (bindings : List Binding) (request : Fields) : PathTemplate.Values :=
  (bindings.filterMap (pathValue? request)).reverse

end Binding

namespace Marshalling

/-- A string is written as it is. -/
theorem memberText_text (format : TimestampFormat) (s : String) :
    memberText format (.text s) = .ok s := rfl

/-- A value contributes the escaped form of its text to the path. -/
theorem pathContribution_text {b : Binding} (greedy : Bool) {v : Value} {s : String}
    (htext : memberText (b.timestampFormat .iso8601) v = .ok s) (hs : s ≠ "") :
    b.pathContribution greedy v =
      .one (.path b.name (PathTemplate.escaped (greedy, s))) := by
  have hempty : ¬ (Text.ofString s).isEmpty = true := fun he =>
    hs (String.isEmpty_iff.1 (Text.isEmpty_ofString s ▸ he))
  unfold Binding.pathContribution
  rw [htext]
  show Contribution.ofExcept (if (Text.ofString s).isEmpty = true then _ else _) = _
  rw [if_neg hempty]
  show Contribution.ofExcept (utf8Of (Text.ofString s) >>= _) = _
  rw [utf8Of_ofString]
  rfl

/-- A binding to the path is for one segment or for several. -/
theorem Binding.location_of_area_path {b : Binding} (hb : b.area = .path) :
    b.isBody = false ∧ (b.location = .path ∨ b.location = .greedyPath) := by
  unfold Binding.area at hb
  cases hbody : b.isBody with
  | true => rw [hbody] at hb; cases hb
  | false =>
    rw [hbody] at hb
    cases hloc : b.location with
    | path => exact ⟨rfl, .inl rfl⟩
    | greedyPath => exact ⟨rfl, .inr rfl⟩
    | payload | header | query | unknown => rw [hloc] at hb; cases hb

/-- A parameter of the path whose value is a text contributes to the path. -/
theorem contributionOf_path {request : Fields} {b : Binding} (hb : b.area = .path) {s : String}
    (hs : b.valueIn request = .text s) (m : Marshalling) :
    ∃ greedy, b.pathValue? request = some (b.name, greedy, s) ∧
      m.contributionOf b (b.valueIn request) = b.pathContribution greedy (.text s) := by
  obtain ⟨hbody, hloc⟩ := Binding.location_of_area_path hb
  rw [hs, contributionOf_set hbody (by simp), Binding.contribution]
  unfold Binding.pathValue?
  rw [hbody, hs]
  rcases hloc with hloc | hloc
  · exact ⟨false, by rw [hloc]; rfl, by rw [hloc]⟩
  · exact ⟨true, by rw [hloc]; rfl, by rw [hloc]⟩

/-- A parameter of the path whose value is a text is added exactly if the text is not empty, and
is put with its escaped value. -/
theorem add_path {request : Fields} {b : Binding} (hb : b.area = .path) {s : String}
    (hs : b.valueIn request = .text s) {m m' : Marshalling} :
    m.add b (b.valueIn request) = (.ok (), m') ↔
      ∃ greedy, b.pathValue? request = some (b.name, greedy, s) ∧ s ≠ "" ∧
        m' = { m with
          path := Association.put b.name (PathTemplate.escaped (greedy, s)) m.path } := by
  obtain ⟨greedy, hvalue, hcontribution⟩ := contributionOf_path hb hs m
  rw [add, hcontribution]
  constructor
  · intro h
    by_cases hs : s = ""
    · subst hs
      cases h
    · rw [pathContribution_text greedy rfl hs] at h
      exact ⟨greedy, hvalue, hs, (Prod.mk.inj h).2.symm⟩
  · rintro ⟨greedy', hvalue', hs, rfl⟩
    rw [hvalue] at hvalue'
    cases hvalue'
    rw [pathContribution_text greedy (memberText_text _ s) hs]
    rfl

/-- A value that has a text is put into the path with its escaped text, unless that is empty. -/
theorem add_path_escaped {b : Binding} (hb : b.area = .path) {v : Value} (hv : v ≠ .null)
    {s : String} (htext : memberText (b.timestampFormat .iso8601) v = .ok s) (hs : s ≠ "")
    (m : Marshalling) : ∃ greedy, m.add b v = (.ok (), { m with
      path := Association.put b.name (PathTemplate.escaped (greedy, s)) m.path }) := by
  obtain ⟨hbody, hloc⟩ := Binding.location_of_area_path hb
  unfold add
  rw [contributionOf_set hbody hv, Binding.contribution]
  rcases hloc with hloc | hloc
  · refine ⟨false, ?_⟩
    rw [hloc]
    dsimp only
    rw [pathContribution_text false htext hs]
    rfl
  · refine ⟨true, ?_⟩
    rw [hloc]
    dsimp only
    rw [pathContribution_text true htext hs]
    rfl

/-- A member of another area has no value in the path. -/
theorem pathValue?_of_area_ne {request : Fields} {b : Binding} (hb : b.area ≠ .path) :
    b.pathValue? request = none := by
  unfold Binding.area at hb
  unfold Binding.pathValue?
  by_cases hbody : b.isBody = true
  · rw [if_pos hbody]
  · rw [if_neg hbody] at hb ⊢
    cases hloc : b.location with
    | path => rw [hloc] at hb; exact absurd rfl hb
    | greedyPath => rw [hloc] at hb; exact absurd rfl hb
    | _ => rfl

/-- A parameter of the path that is not set has no value. -/
theorem pathValue?_null {request : Fields} {b : Binding} (hv : b.valueIn request = .null) :
    b.pathValue? request = none := by
  unfold Binding.pathValue?
  rw [hv]
  cases b.isBody with
  | true => rfl
  | false => cases b.location <;> rfl

/-- A parameter of the path that is not set contributes nothing. -/
theorem add_path_null {request : Fields} {b : Binding} (hb : b.area = .path)
    (hv : b.valueIn request = .null) (m : Marshalling) :
    m.add b (b.valueIn request) = (.ok (), m) := by
  rw [hv]
  exact add_unset (Binding.location_of_area_path hb).1 m

/-- **Members leave their parameters** in the path, the last one of each name, none empty. -/
theorem addMembers_path {request : Fields} {bindings : List Binding}
    (htext : ∀ b ∈ bindings, b.area = .path →
      b.valueIn request = .null ∨ ∃ s, b.valueIn request = .text s)
    {m m' : Marshalling} (h : addMembers bindings (.map request) m = .ok m') :
    m'.operation = m.operation ∧
      (∀ p ∈ Binding.pathValues bindings request, p.2.2 ≠ "") ∧
      ∀ name, m'.path.lookup name =
        (((Binding.pathValues bindings request).lookup name).map PathTemplate.escaped).or
          (m.path.lookup name) := by
  -- what `m` has is hidden by the parameters of `bindings`
  induction bindings generalizing m with
  | nil =>
    rw [← Except.ok.inj h]
    exact ⟨rfl, fun p hp => (by cases hp), fun name => rfl⟩
  | cons b rest ih =>
    rw [List.forall_mem_cons] at htext
    obtain ⟨m₁, hadd, h⟩ := addMembers_cons.1 h
    obtain ⟨hop, hne, hlookup⟩ := ih htext.2 h
    have hchanges := add_changesOnly (m := m) b (b.valueIn request)
    rw [hadd] at hchanges
    refine ⟨hop.trans hchanges.operation, ?_⟩
    unfold Binding.pathValues
    rw [List.filterMap_cons]
    by_cases hb : b.area = .path
    · rcases htext.1 hb with hnull | ⟨s, hs⟩
      · rw [add_path_null hb hnull m] at hadd
        rw [pathValue?_null hnull]
        rw [← (Prod.mk.inj hadd).2] at hlookup
        exact ⟨hne, hlookup⟩
      obtain ⟨greedy, hw, hwne, rfl⟩ := (add_path hb hs).1 hadd
      rw [hw, List.reverse_cons]
      refine ⟨fun p hp => ?_, fun name => ?_⟩
      · rcases List.mem_append.1 hp with hp | hp
        · exact hne p hp
        · rw [List.mem_singleton.1 hp]
          exact hwne
      · have hl := hlookup name
        rw [Association.lookup_put] at hl
        rw [hl, List.lookup_append, Option.map_or, Option.or_assoc]
        congr 1
        by_cases hname : name = b.name
        · rw [if_pos hname, hname, List.lookup_cons, beq_self_eq_true]
          rfl
        · rw [if_neg hname, List.lookup_cons, beq_false_of_ne hname]
          rfl
    · rw [pathValue?_of_area_ne hb]
      have hl := hlookup
      rw [hchanges.path hb] at hl
      exact ⟨hne, hl⟩

/-- Parameters of the path are added if none is empty. -/
theorem addMembers_path_ok {request : Fields} {bindings : List Binding}
    (hpath : ∀ b ∈ bindings, b.area = .path ∧
      (b.valueIn request = .null ∨ ∃ s, b.valueIn request = .text s ∧ s ≠ ""))
    (m : Marshalling) : ∃ path, addMembers bindings (.map request) m = .ok { m with path } := by
  induction bindings generalizing m with
  | nil => exact ⟨m.path, rfl⟩
  | cons b rest ih =>
    rw [List.forall_mem_cons] at hpath
    obtain ⟨⟨hb, hvalue⟩, hrest⟩ := hpath
    rcases hvalue with hnull | ⟨s, hs, hne⟩
    · obtain ⟨path, hadd⟩ := ih hrest m
      exact ⟨path, addMembers_cons.2 ⟨m, add_path_null hb hnull m, hadd⟩⟩
    · obtain ⟨greedy, hvalue, -⟩ := contributionOf_path hb hs m
      obtain ⟨path, hadd⟩ := ih hrest
        { m with path := Association.put b.name (PathTemplate.escaped (greedy, s)) m.path }
      exact ⟨path, addMembers_cons.2 ⟨_, (add_path hb hs).2 ⟨greedy, hvalue, hne, rfl⟩, hadd⟩⟩

end Marshalling

/-- The path of an operation, with placeholders for its parameters. -/
def Operation.template (o : Operation) : PathTemplate := .ofChars (Marshalling.splitUri o.uri).1

/-- **The resolved path** is the filled template, if all parameters have values. -/
theorem Marshalling.resolvedPath_eq_ok {values : PathTemplate.Values} {m : Marshalling}
    (hp : ∀ name, m.path.lookup name = (values.lookup name).map PathTemplate.escaped)
    {path : String} : m.resolvedPath = .ok path ↔
      (∀ name, .parameter name ∈ m.operation.template → (values.lookup name).isSome) ∧
        path = String.ofList (PathTemplate.fill values m.operation.template) := by
  unfold resolvedPath PathTemplate.expand
  rw [map_eq_ok]
  constructor
  · rintro ⟨s, hs, rfl⟩
    obtain ⟨hbound, rfl⟩ := (PathTemplate.expandChars_eq_ok hp).1 hs
    exact ⟨hbound, rfl⟩
  · rintro ⟨hbound, rfl⟩
    exact ⟨_, (PathTemplate.expandChars_eq_ok hp).2 ⟨hbound, rfl⟩, rfl⟩

end ServiceClient
