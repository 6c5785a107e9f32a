import Mathlib.Data.List.Induction
import ServiceClient.Proofs.RawPath

/-!
# Parameters keep their segment of a path

A path is a list of segments between slashes, each of them literal or a placeholder. The value of
a placeholder stays in its segment, from which it can be read again. Only the value of the last
placeholder may have slashes of its own.

* `Percent.decodeBytes_encode`: escaped text stands for the bytes of the text.
* `SegmentedPath`: a path of segments.
* `SegmentedPath.Keeps`: the pieces of a path, against the segments of its template.
* `SegmentedPath.keeps_fill`: a filled path keeps its segments.
* `Dialect.path_keeps_segments`: so does the path that the members of a request resolve.
-/

namespace ServiceClient

open PathTemplate (isPathChar)

namespace Percent

/-- A character of one byte other than the mark of an escape stands for itself. -/
theorem decodeBytes_char {c : Char} (hc : c ≠ '%') (hascii : c.toNat < 128) (rest : List Char) :
    decodeBytes (c :: rest) = UInt8.ofNat c.toNat :: decodeBytes rest := by
  have hchar : Utf8.encodeChar c = [UInt8.ofNat c.toNat] := by
    unfold Utf8.encodeChar
    simp only [hascii, if_true]
  rw [decodeBytes, hchar]
  · rfl
  · intro h l rest' he
    exact absurd he hc

theorem hexValue_upperHex : ∀ n < 16, hexValue? (upperHex n) = some n := by decide

theorem decodeBytes_escape (b : UInt8) (rest : List Char) :
    decodeBytes (escape b ++ rest) = b :: decodeBytes rest := by
  have hb : b.toNat < 256 := b.toNat_lt
  have hhigh := hexValue_upperHex (b.toNat / 16) (by omega)
  have hlow := hexValue_upperHex (b.toNat % 16) (by omega)
  have hvalue : b.toNat / 16 * 16 + b.toNat % 16 = b.toNat := by omega
  have hescaped : escaped? (upperHex (b.toNat / 16)) (upperHex (b.toNat % 16)) = some b := by
    unfold escaped?
    rw [hhigh, hlow]
    show some (UInt8.ofNat (b.toNat / 16 * 16 + b.toNat % 16)) = some b
    rw [hvalue, UInt8.ofNat_toNat]
  show decodeBytes ('%' :: upperHex (b.toNat / 16) :: upperHex (b.toNat % 16) :: rest) = _
  rw [decodeBytes]
  simp only [hescaped]

/-- **Escaped text stands for the bytes of the text**, if the mark of an escape is not safe. -/
theorem decodeBytes_encode {safe : Char → Bool} (hsafe : safe '%' = false) (s : String) :
    decodeBytes (encode safe s).toList = Utf8.encode s := by
  rw [encode, String.toList_ofList]
  induction Utf8.encode s with
  | nil =>
    show decodeBytes [] = []
    rw [decodeBytes]
  | cons b bytes ih =>
    rw [encodeBytes] at ih ⊢
    rw [List.flatMap_cons]
    unfold encodeByte at ih ⊢
    dsimp only
    split
    · rename_i hb
      rw [Bool.and_eq_true, decide_eq_true_eq] at hb
      obtain ⟨hascii, hkept⟩ := hb
      have hvalid : b.toNat.isValidChar := .inl (by omega)
      have hbyte : (Char.ofNat b.toNat).toNat = b.toNat := by
        unfold Char.ofNat
        rw [dif_pos hvalid]
        rfl
      have hmark : Char.ofNat b.toNat ≠ '%' := by
        intro he
        rw [he, hsafe] at hkept
        exact absurd hkept (by decide)
      rw [List.singleton_append, decodeBytes_char hmark (by omega), hbyte, UInt8.ofNat_toNat, ih]
    · rw [decodeBytes_escape, ih]

/-- The text that a piece of a path stands for. -/
def decode (s : List Char) : Except DecodeError String := Utf8.decode (decodeBytes s)

end Percent

/-- The escaped value of a placeholder stands for the bytes of the value. -/
theorem PathTemplate.decodeBytes_escaped (v : Bool × String) :
    Percent.decodeBytes (escaped v).toList = Utf8.encode v.2 := by
  have hsafe : ∀ greedy, Binding.keepsInPath greedy '%' = false := by decide
  unfold escaped
  rw [Percent.decodeBytes_encode (hsafe v.1)]

/-- The escaped value of a placeholder is read again. -/
theorem PathTemplate.decode_escaped (v : Bool × String) :
    Percent.decode (escaped v).toList = .ok v.2 := by
  unfold Percent.decode
  rw [decodeBytes_escaped, Utf8.decode_encode]

/-- A segment of a path template. -/
inductive Segment
  | literal (s : List Char)
  /-- A placeholder, possibly with a plus behind its name. -/
  | placeholder (name : String) (plus : Bool)
deriving DecidableEq, Repr

namespace Segment

/-- Literal segments are not empty and unreserved; a name has no slash, and nothing that ends it. -/
def IsWellFormed : Segment → Prop
  | literal s => s ≠ [] ∧ ∀ c ∈ s, Percent.isUnreserved c = true
  | placeholder name _ =>
    name ≠ "" ∧ ∀ c ∈ name.toList, PathTemplate.isNameChar c = true ∧ c ≠ '/'

/-- A segment as it is written. -/
def text : Segment → List Char
  | literal s => s
  | placeholder name plus => '{' :: (name.toList ++ (if plus then ['+', '}'] else ['}']))

/-- The pieces of the template that a segment is. -/
def template : Segment → PathTemplate
  | literal s => s.map .literal
  | placeholder name _ => [.parameter name]

/-- A segment with its placeholder replaced. -/
def filled (values : PathTemplate.Values) : Segment → List Char
  | literal s => s
  | placeholder name _ => ((values.lookup name).map PathTemplate.escaped |>.getD "").toList

/-- A segment is read as its pieces, whatever follows. -/
theorem ofChars_text {s : Segment} (hs : s.IsWellFormed) (rest : List Char) :
    PathTemplate.ofChars (s.text ++ rest) = s.template ++ PathTemplate.ofChars rest := by
  cases s with
  | literal s =>
    obtain ⟨-, hchars⟩ := hs
    show PathTemplate.ofChars (s ++ rest) = s.map .literal ++ _
    induction s with
    | nil => rfl
    | cons c s ih =>
      rw [List.forall_mem_cons] at hchars
      have hbrace : c ≠ '{' := by
        rintro rfl
        exact absurd hchars.1 (by decide)
      rw [List.cons_append, PathTemplate.ofChars_literal hbrace, ih hchars.2]
      rfl
  | placeholder name plus =>
    obtain ⟨hne, hchars⟩ := hs
    have hname : ∀ c ∈ name.toList, PathTemplate.isNameChar c = true := fun c hc => (hchars c hc).1
    have hempty : name.toList.isEmpty = false := by
      rw [List.isEmpty_eq_false_iff, Ne, String.toList_eq_nil_iff]
      exact hne
    -- the name ends at the brace, or at the plus in front of it
    have hread : PathTemplate.placeholder?
        (name.toList ++ ((if plus then ['+', '}'] else ['}']) ++ rest)) =
          some (name.toList, rest) := by
      unfold PathTemplate.placeholder?
      rw [List.takeWhile_append_of_pos hname, List.dropWhile_append_of_pos hname]
      cases plus with
      | false =>
        have htake : (['}'] ++ rest).takeWhile PathTemplate.isNameChar = [] := rfl
        have hdrop : (['}'] ++ rest).dropWhile PathTemplate.isNameChar = '}' :: rest := rfl
        simp only [Bool.false_eq_true, if_false, htake, hdrop, List.append_nil, hempty]
      | true =>
        have htake : (['+', '}'] ++ rest).takeWhile PathTemplate.isNameChar = [] := rfl
        have hdrop : (['+', '}'] ++ rest).dropWhile PathTemplate.isNameChar = '+' :: '}' :: rest :=
          rfl
        simp only [if_true, htake, hdrop, List.append_nil, hempty, Bool.false_eq_true, if_false]
    show PathTemplate.ofChars
      ('{' :: (name.toList ++ (if plus then ['+', '}'] else ['}']) ++ rest)) = _
    rw [List.append_assoc, PathTemplate.ofChars_placeholder hread, String.ofList_toList]
    rfl

/-- Segments behind slashes are read one by one. -/
theorem ofChars_flatMap {segments : List Segment} (h : ∀ s ∈ segments, s.IsWellFormed) :
    PathTemplate.ofChars (segments.flatMap fun s => '/' :: s.text) =
      segments.flatMap fun s => .literal '/' :: s.template := by
  induction segments with
  | nil =>
    show PathTemplate.ofChars [] = []
    rw [PathTemplate.ofChars]
  | cons s rest ih =>
    rw [List.forall_mem_cons] at h
    rw [List.flatMap_cons, List.flatMap_cons, List.cons_append,
      PathTemplate.ofChars_literal (by decide), ofChars_text h.1, ih h.2]
    rfl

/-- Only a value whose slashes stay puts a slash into its segment. -/
theorem slash_notMem_filled {values : PathTemplate.Values} {s : Segment} (hs : s.IsWellFormed)
    (hgreedy : ∀ name plus, s = .placeholder name plus → ∀ text,
      values.lookup name ≠ some (true, text)) : '/' ∉ s.filled values := by
  intro hmem
  cases s with
  | literal s => exact absurd (hs.2 '/' hmem) (by decide)
  | placeholder name plus =>
    have hvalue := hgreedy name plus rfl
    change '/' ∈ ((values.lookup name).map PathTemplate.escaped |>.getD "").toList at hmem
    cases hv : values.lookup name with
    | none =>
      rw [hv] at hmem
      cases hmem
    | some v =>
      obtain ⟨greedy, text⟩ := v
      cases greedy with
      | true => exact hvalue text hv
      | false =>
        rw [hv] at hmem
        have hkept : '/' ∈ (Percent.encode (Binding.keepsInPath false) text).toList := hmem
        rcases Percent.mem_encode hkept with h | h | h
        · exact absurd h (by decide)
        · exact absurd h (by decide)
        · exact absurd h (by decide)

end Segment

/-- A path of segments behind slashes. The last one is told apart, since it may take slashes. -/
structure SegmentedPath where
  front : List Segment
  last : Segment
  wellFormed : ∀ s ∈ front ++ [last], s.IsWellFormed

namespace SegmentedPath

def segments (p : SegmentedPath) : List Segment := p.front ++ [p.last]

/-- The path as it is written. -/
def text (p : SegmentedPath) : List Char := p.segments.flatMap fun s => '/' :: s.text

/-- The path with its placeholders replaced. -/
def filled (values : PathTemplate.Values) (p : SegmentedPath) : List Char :=
  p.segments.flatMap fun s => '/' :: s.filled values

/-- A parameter of the path has a place in it. -/
def HasParameter (p : SegmentedPath) (name : String) : Prop :=
  ∃ plus, .placeholder name plus ∈ p.segments

/-- The slashes of a value stay in the last segment only. -/
def GreedyLast (p : SegmentedPath) (values : PathTemplate.Values) : Prop :=
  ∀ name plus, .placeholder name plus ∈ p.front → ∀ text, values.lookup name ≠ some (true, text)

variable {p : SegmentedPath} {values : PathTemplate.Values}

theorem ofChars_text (p : SegmentedPath) : PathTemplate.ofChars p.text =
    p.segments.flatMap fun s => .literal '/' :: s.template :=
  Segment.ofChars_flatMap p.wellFormed

theorem fill_ofChars (p : SegmentedPath) (values : PathTemplate.Values) :
    PathTemplate.fill values (PathTemplate.ofChars p.text) = p.filled values := by
  have happend : ∀ t u : PathTemplate, PathTemplate.fill values (t ++ u) =
      PathTemplate.fill values t ++ PathTemplate.fill values u := by
    intro t u
    induction t with
    | nil => rfl
    | cons piece t ih =>
      cases piece with
      | literal c => rw [List.cons_append, PathTemplate.fill, PathTemplate.fill, ih]; rfl
      | parameter name =>
        rw [List.cons_append, PathTemplate.fill, PathTemplate.fill, ih, List.append_assoc]
  have hsegment : ∀ s : Segment, PathTemplate.fill values s.template = s.filled values := by
    intro s
    cases s with
    | literal s =>
      show PathTemplate.fill values (s.map .literal) = s
      induction s with
      | nil => rfl
      | cons c s ih => rw [List.map_cons, PathTemplate.fill, ih]
    | placeholder name plus => exact List.append_nil _
  rw [ofChars_text]
  unfold filled
  induction p.segments with
  | nil => rfl
  | cons s rest ih =>
    rw [List.flatMap_cons, List.flatMap_cons, happend, PathTemplate.fill, hsegment, ih]

/-- The parameters of the template are those of the path. -/
theorem mem_ofChars {name : String} :
    .parameter name ∈ PathTemplate.ofChars p.text ↔ p.HasParameter name := by
  have hsegment : ∀ s : Segment, PathPiece.parameter name ∈ .literal '/' :: s.template ↔
      ∃ plus, s = .placeholder name plus := by
    intro s
    cases s with
    | literal s => simp [Segment.template]
    | placeholder n plus => simp [Segment.template, eq_comm]
  rw [ofChars_text, List.mem_flatMap]
  unfold HasParameter
  constructor
  · rintro ⟨s, hs, hmem⟩
    obtain ⟨plus, rfl⟩ := (hsegment s).1 hmem
    exact ⟨plus, hs⟩
  · rintro ⟨plus, hs⟩
    exact ⟨_, hs, (hsegment _).2 ⟨plus, rfl⟩⟩

/-- The characters of a filled path. -/
theorem isPathChar_filled (p : SegmentedPath) (values : PathTemplate.Values) :
    ∀ c ∈ p.filled values, isPathChar c = true := by
  rw [← p.fill_ofChars]
  refine PathTemplate.mem_fill fun c hc => ?_
  rw [ofChars_text, List.mem_flatMap] at hc
  obtain ⟨s, hs, hc⟩ := hc
  rcases List.mem_cons.1 hc with hc | hc
  · exact .inr (PathPiece.literal.inj hc)
  · have hwell := p.wellFormed s hs
    cases s with
    | literal s =>
      obtain ⟨d, hd, he⟩ := List.mem_map.1 hc
      rw [← PathPiece.literal.inj he]
      exact .inl (hwell.2 d hd)
    | placeholder name plus =>
      rcases List.mem_cons.1 hc with hc | hc
      · cases hc
      · cases hc

/-- The pieces between the slashes of a filled path. -/
def pieces (values : PathTemplate.Values) (p : SegmentedPath) : List (List Char) :=
  p.front.map (Segment.filled values) ++ (p.last.filled values).splitOn '/'

/-- Segments without slashes are the pieces of their path. -/
theorem splitOn_flatMap {texts : List (List Char)} (h : ∀ t ∈ texts, '/' ∉ t) :
    (texts.flatMap fun t => '/' :: t).splitOn '/' = [] :: texts := by
  induction texts using List.reverseRecOn with
  | nil => rfl
  | append_singleton texts t ih =>
    have hfront : ∀ u ∈ texts, '/' ∉ u := fun u hu => h u (List.mem_append_left _ hu)
    have hlast : '/' ∉ t := h t (by simp)
    rw [List.flatMap_append, List.flatMap_singleton, List.splitOn_append_cons_self, ih hfront,
      List.splitOn_eq_singleton hlast, List.cons_append]

/-- A filled path is split into its pieces, behind the slash in front. -/
theorem splitOn_filled (hgreedy : p.GreedyLast values) :
    (p.filled values).splitOn '/' = [] :: p.pieces values := by
  have hfront : ∀ t ∈ p.front.map (Segment.filled values), '/' ∉ t := by
    intro t ht
    obtain ⟨s, hs, rfl⟩ := List.mem_map.1 ht
    refine Segment.slash_notMem_filled (p.wellFormed s (List.mem_append_left _ hs)) ?_
    rintro name plus rfl
    exact hgreedy name plus hs
  have hsplit := splitOn_flatMap hfront
  rw [List.flatMap_map] at hsplit
  unfold filled segments pieces
  rw [List.flatMap_append, List.flatMap_singleton, List.splitOn_append_cons_self, hsplit,
    List.cons_append]

/-- The pieces of a path, against the segments of its template: literal segments are what they
were, a value is read from its own segment, and the value of the last one from all that is left.
Without slashes in that value, there are no more pieces than segments. -/
structure Keeps (p : SegmentedPath) (values : PathTemplate.Values) (pieces : List (List Char)) :
    Prop where
  literal : ∀ (i : Nat) (s : List Char), p.segments[i]? = some (.literal s) → pieces[i]? = some s
  value : ∀ (i : Nat) name plus text, p.segments[i]? = some (.placeholder name plus) →
    values.lookup name = some (false, text) →
      ∃ piece, pieces[i]? = some piece ∧ Percent.decode piece = .ok text
  remainder : ∀ name plus greedy text, p.last = .placeholder name plus →
    values.lookup name = some (greedy, text) →
      Percent.decode (['/'].intercalate (pieces.drop p.front.length)) = .ok text
  length : (∀ name plus, p.last = .placeholder name plus → ∀ text,
    values.lookup name ≠ some (true, text)) → pieces.length = p.segments.length

/-- The value of a placeholder is read from its filled segment. -/
theorem decode_filled {name : String} {plus greedy : Bool} {text : String}
    (hv : values.lookup name = some (greedy, text)) :
    Percent.decode ((Segment.placeholder name plus).filled values) = .ok text := by
  have hfilled : (Segment.placeholder name plus).filled values =
      (PathTemplate.escaped (greedy, text)).toList := by
    show ((values.lookup name).map PathTemplate.escaped |>.getD "").toList = _
    rw [hv]
    rfl
  rw [hfilled, PathTemplate.decode_escaped]

/-- A segment stands in front, or it is the last one. -/
theorem getElem?_segments {i : Nat} {s : Segment} (h : p.segments[i]? = some s) :
    p.front[i]? = some s ∨ i = p.front.length ∧ s = p.last := by
  unfold segments at h
  by_cases hi : i < p.front.length
  · rw [List.getElem?_append_left hi] at h
    exact .inl h
  · rw [List.getElem?_append_right (by omega)] at h
    have hzero : i - p.front.length = 0 := by
      by_contra hne
      obtain ⟨k, hk⟩ := Nat.exists_eq_succ_of_ne_zero hne
      rw [hk] at h
      cases h
    rw [hzero] at h
    exact .inr ⟨by omega, (Option.some.inj h).symm⟩

/-- **A filled path keeps its segments.** -/
theorem keeps_pieces (p : SegmentedPath) (values : PathTemplate.Values) :
    p.Keeps values (p.pieces values) := by
  have hfront : ∀ (i : Nat) (s : Segment), p.front[i]? = some s →
      (p.pieces values)[i]? = some (s.filled values) := by
    intro i s h
    have hi : i < p.front.length := (List.getElem?_eq_some_iff.1 h).1
    unfold pieces
    rw [List.getElem?_append_left (by rw [List.length_map]; exact hi), List.getElem?_map, h]
    rfl
  have hdrop : (p.pieces values).drop p.front.length = (p.last.filled values).splitOn '/' := by
    have hlength : p.front.length = (p.front.map (Segment.filled values)).length :=
      (List.length_map _).symm
    unfold pieces
    rw [hlength, List.drop_left]
  have hwell : p.last.IsWellFormed := p.wellFormed _ (by simp)
  -- without slashes of its own, the last segment is one piece
  have hlast : (∀ name plus, p.last = .placeholder name plus → ∀ text,
      values.lookup name ≠ some (true, text)) →
        (p.last.filled values).splitOn '/' = [p.last.filled values] := fun h =>
    List.splitOn_eq_singleton (Segment.slash_notMem_filled hwell h)
  have hsingle : (p.last.filled values).splitOn '/' = [p.last.filled values] →
      (p.pieces values)[p.front.length]? = some (p.last.filled values) := by
    intro h
    rw [h] at hdrop
    have hzero : ((p.pieces values).drop p.front.length)[0]? = some (p.last.filled values) := by
      rw [hdrop]
      rfl
    rw [List.getElem?_drop, Nat.add_zero] at hzero
    exact hzero
  refine ⟨?_, ?_, ?_, ?_⟩
  · intro i s h
    rcases getElem?_segments h with h | ⟨rfl, hs⟩
    · exact hfront i _ h
    · have hpiece := hsingle (hlast fun name plus he => by rw [← hs] at he; cases he)
      rw [← hs] at hpiece
      exact hpiece
  · intro i name plus text h hv
    rcases getElem?_segments h with h | ⟨rfl, hs⟩
    · exact ⟨_, hfront i _ h, decode_filled hv⟩
    · refine ⟨_, hsingle (hlast fun n q he t hn => ?_), ?_⟩
      · rw [← hs] at he
        cases he
        rw [hv] at hn
        cases hn
      · rw [← hs]
        exact decode_filled hv
  · intro name plus greedy text hs hv
    rw [hdrop, List.intercalate_splitOn, hs]
    exact decode_filled hv
  · intro h
    unfold pieces segments
    rw [hlast h]
    simp

/-- **A path tells the values of its placeholders apart.** -/
theorem value_of_pieces {values' : PathTemplate.Values} {found : List (List Char)}
    (hgreedy : p.GreedyLast values) (hgreedy' : p.GreedyLast values')
    (h : p.Keeps values found) (h' : p.Keeps values' found) {name : String}
    (hname : p.HasParameter name) {v v' : Bool × String} (hv : values.lookup name = some v)
    (hv' : values'.lookup name = some v') : v.2 = v'.2 := by
  obtain ⟨greedy, text⟩ := v
  obtain ⟨greedy', text'⟩ := v'
  obtain ⟨plus, hmem⟩ := hname
  rcases List.mem_append.1 hmem with hfront | hlast
  · -- in front, both values are read from one segment
    cases greedy with
    | true => exact absurd hv (hgreedy name plus hfront text)
    | false =>
      cases greedy' with
      | true => exact absurd hv' (hgreedy' name plus hfront text')
      | false =>
        obtain ⟨i, hi⟩ := List.mem_iff_getElem?.1 hmem
        obtain ⟨piece, hpiece, hdecode⟩ := h.value i name plus text hi hv
        obtain ⟨piece', hpiece', hdecode'⟩ := h'.value i name plus text' hi hv'
        rw [hpiece] at hpiece'
        cases hpiece'
        rw [hdecode] at hdecode'
        exact Except.ok.inj hdecode'
  · have hs : p.last = .placeholder name plus := (List.mem_singleton.1 hlast).symm
    have hdecode := h.remainder name plus greedy text hs hv
    rw [h'.remainder name plus greedy' text' hs hv'] at hdecode
    exact (Except.ok.inj hdecode).symm

end SegmentedPath

/-- A value whose slashes stay comes from a binding to such a place. -/
theorem Binding.greedy_of_pathValues {bindings : List Binding} {request : Fields}
    {name text : String} (h : (pathValues bindings request).lookup name = some (true, text)) :
    ∃ b ∈ bindings, b.name = name ∧ b.location = .greedyPath := by
  obtain ⟨front, back, hvalues, -⟩ := List.lookup_eq_some_iff.1 h
  have hmem : (name, true, text) ∈ pathValues bindings request := by
    rw [hvalues]
    simp
  unfold pathValues at hmem
  rw [List.mem_reverse] at hmem
  obtain ⟨b, hb, hvalue⟩ := List.mem_filterMap.1 hmem
  refine ⟨b, hb, ?_⟩
  unfold pathValue? at hvalue
  split at hvalue
  · cases hvalue
  split at hvalue
  · cases hvalue
  · rename_i hlocation _
    cases hvalue
    exact ⟨rfl, hlocation⟩
  · cases hvalue

/-- A request is marshalled whose members for the path are texts or not set. -/
structure Dialect.Marshals (d : Dialect) (o : Operation) (bindings : List Binding)
    (request : Fields) (m : Marshalling) : Prop where
  texts : ∀ b ∈ bindings, b.area = .path →
    b.valueIn request = .null ∨ ∃ s, b.valueIn request = .text s
  marshalled : (d.marshalling o >>= Marshalling.addAll bindings (.map request)) = .ok m

namespace Dialect

variable {d : Dialect} {o : Operation} {bindings : List Binding} {request : Fields}
  {m : Marshalling}

theorem Marshals.operation (h : d.Marshals o bindings request m) : m.operation = o := by
  obtain ⟨started, hstart, hadd⟩ := bind_eq_ok.1 h.marshalled
  obtain ⟨ho, -, -⟩ := marshalling_start hstart
  obtain ⟨ho', -, -⟩ := Marshalling.addMembers_path h.texts (mapError_eq_ok.1 hadd)
  exact ho'.trans ho

/-- The parameters of the path are the escaped values of the members. -/
theorem Marshals.lookup (h : d.Marshals o bindings request m) (name : String) :
    m.path.lookup name =
      ((Binding.pathValues bindings request).lookup name).map PathTemplate.escaped := by
  obtain ⟨started, hstart, hadd⟩ := bind_eq_ok.1 h.marshalled
  obtain ⟨-, -, hnil⟩ := marshalling_start hstart
  obtain ⟨-, -, hlookup⟩ := Marshalling.addMembers_path h.texts (mapError_eq_ok.1 hadd)
  rw [hlookup name, hnil, List.lookup_nil, Option.or_none]

/-- The path of a request is its template with all parameters replaced. -/
theorem Marshals.resolvedPath_eq_ok {p : SegmentedPath} (h : d.Marshals o bindings request m)
    (huri : (Marshalling.splitUri o.uri).1 = p.text) {path : String} :
    m.resolvedPath = .ok path ↔
      (∀ name, p.HasParameter name →
        ((Binding.pathValues bindings request).lookup name).isSome) ∧
        path = String.ofList (p.filled (Binding.pathValues bindings request)) := by
  have htemplate : m.operation.template = PathTemplate.ofChars p.text := by
    rw [h.operation, Operation.template, huri]
  rw [Marshalling.resolvedPath_eq_ok h.lookup, htemplate, p.fill_ofChars]
  simp only [SegmentedPath.mem_ofChars]

/-- A path is not resolved exactly if one of its parameters has no value. -/
theorem Marshals.resolvedPath_error {p : SegmentedPath} (h : d.Marshals o bindings request m)
    (huri : (Marshalling.splitUri o.uri).1 = p.text) :
    (∃ f, m.resolvedPath = .error f) ↔
      ∃ name, p.HasParameter name ∧ (Binding.pathValues bindings request).lookup name = none := by
  have hok : (∃ path, m.resolvedPath = .ok path) ↔ ∀ name, p.HasParameter name →
      ((Binding.pathValues bindings request).lookup name).isSome := by
    constructor
    · rintro ⟨path, hpath⟩
      exact ((h.resolvedPath_eq_ok huri).1 hpath).1
    · intro hbound
      exact ⟨_, (h.resolvedPath_eq_ok huri).2 ⟨hbound, rfl⟩⟩
  constructor
  · rintro ⟨f, hf⟩
    by_contra hnone
    have hbound : ∀ name, p.HasParameter name →
        ((Binding.pathValues bindings request).lookup name).isSome := by
      intro name hname
      rw [Option.isSome_iff_ne_none]
      intro hvalue
      exact hnone ⟨name, hname, hvalue⟩
    obtain ⟨path, hpath⟩ := hok.2 hbound
    rw [hf] at hpath
    cases hpath
  · rintro ⟨name, hname, hvalue⟩
    cases hpath : m.resolvedPath with
    | error f => exact ⟨f, rfl⟩
    | ok path =>
      have hsome := hok.1 ⟨path, hpath⟩ name hname
      rw [hvalue] at hsome
      cases hsome

/-- **Path parameters keep their segment.** Texts that are not empty are marshalled into the path.
It is resolved exactly if every placeholder has a value; it then has no character that ends a path
or is not ASCII, and no placeholder of its own, and its pieces keep the segments of the template.
Requests that differ in the value of a placeholder have different paths. A body that has bytes is
refused by the client's own failure exactly if a placeholder has no value, unless a header that
goes in front has a line break. -/
theorem path_keeps_segments (d : Dialect) (o : Operation) (p : SegmentedPath)
    (bindings : List Binding) (hgate : o.protocol ≠ .apiGateway)
    (huri : (Marshalling.splitUri o.uri).1 = p.text)
    (hgreedy : ∀ b ∈ bindings, b.location = .greedyPath →
      ∀ plus, .placeholder b.name plus ∉ p.front) :
    (∀ request, (∀ b ∈ bindings, b.area = .path ∧
        (b.valueIn request = .null ∨ ∃ s, b.valueIn request = .text s ∧ s ≠ "")) →
      ∃ m, d.Marshals o bindings request m) ∧
    (∀ request m, d.Marshals o bindings request m →
      ((∃ path, m.resolvedPath = .ok path) ↔ ∀ name, p.HasParameter name →
        ((Binding.pathValues bindings request).lookup name).isSome) ∧
      ∀ path, m.resolvedPath = .ok path →
        (∀ c ∈ path.toList, c ≠ '?' ∧ c ≠ '#' ∧ c ≠ ' ' ∧ c.toNat < 128) ∧
        (∀ name, .parameter name ∉ PathTemplate.ofText path) ∧
        ∃ pieces, path.toList.splitOn '/' = [] :: pieces ∧
          p.Keeps (Binding.pathValues bindings request) pieces) ∧
    (∀ request request' m m' path, d.Marshals o bindings request m →
      d.Marshals o bindings request' m' → m.resolvedPath = .ok path → m'.resolvedPath = .ok path →
      ∀ name, p.HasParameter name →
        ((Binding.pathValues bindings request).lookup name).map (·.2) =
          ((Binding.pathValues bindings request').lookup name).map (·.2)) ∧
    ∀ request m, d.Marshals o bindings request m → ∀ endpoint parts bytes,
      m.finishBody.1 = .ok (.blob bytes) →
      ((∃ f, (m.finish endpoint parts).1 = .error f ∧ f.isClientError = true) ↔
        ¬ m.BreaksHeader ∧ ∃ name, p.HasParameter name ∧
          (Binding.pathValues bindings request).lookup name = none) := by
  have hlast : ∀ request, p.GreedyLast (Binding.pathValues bindings request) := by
    intro request name plus hmem text hvalue
    obtain ⟨b, hb, rfl, hlocation⟩ := Binding.greedy_of_pathValues hvalue
    exact hgreedy b hb hlocation plus hmem
  have hkeeps : ∀ {request m path}, d.Marshals o bindings request m → m.resolvedPath = .ok path →
      path.toList.splitOn '/' = [] :: p.pieces (Binding.pathValues bindings request) := by
    intro request m path hm hpath
    rw [((hm.resolvedPath_eq_ok huri).1 hpath).2, String.toList_ofList]
    exact SegmentedPath.splitOn_filled (hlast request)
  refine ⟨fun request hpath => ?_, fun request m hm => ⟨⟨?_, ?_⟩, fun path hpath => ?_⟩,
    fun request request' m m' path hm hm' hpath hpath' name hname => ?_,
    fun request m hm endpoint parts bytes hbody => ?_⟩
  · obtain ⟨m, hm⟩ := d.marshalling_exists hgate
    obtain ⟨path, hadd⟩ := Marshalling.addMembers_path_ok hpath m
    refine ⟨_, fun b hb _ => ?_, bind_eq_ok.2 ⟨m, hm, mapError_eq_ok.2 hadd⟩⟩
    exact (hpath b hb).2.imp_right fun ⟨s, hs, _⟩ => ⟨s, hs⟩
  · rintro ⟨path, hpath⟩
    exact ((hm.resolvedPath_eq_ok huri).1 hpath).1
  · intro hbound
    exact ⟨_, (hm.resolvedPath_eq_ok huri).2 ⟨hbound, rfl⟩⟩
  · have hfilled := ((hm.resolvedPath_eq_ok huri).1 hpath).2
    have hchars : ∀ c ∈ path.toList, isPathChar c = true := by
      rw [hfilled, String.toList_ofList]
      exact p.isPathChar_filled _
    refine ⟨fun c hc => ?_, fun name hmem => ?_, _, hkeeps hm hpath, p.keeps_pieces _⟩
    · exact PathTemplate.ne_of_isPathChar (hchars c hc)
    · have hbrace : ∀ c ∈ path.toList, c ≠ '{' := by
        rintro c hc rfl
        exact absurd (hchars '{' hc) (by decide)
      exact PathTemplate.parameter_notMem_ofChars hbrace name hmem
  · obtain ⟨v, hv⟩ := Option.isSome_iff_exists.1
      (((hm.resolvedPath_eq_ok huri).1 hpath).1 name hname)
    obtain ⟨v', hv'⟩ := Option.isSome_iff_exists.1
      (((hm'.resolvedPath_eq_ok huri).1 hpath').1 name hname)
    have hsplit := hkeeps hm hpath
    rw [hkeeps hm' hpath'] at hsplit
    have hsame := (List.cons.inj hsplit).2
    have hvalues := SegmentedPath.value_of_pieces (hlast request) (hlast request')
      (p.keeps_pieces _) (by rw [← hsame]; exact p.keeps_pieces _) hname hv hv'
    rw [hv, hv', Option.map_some, Option.map_some, hvalues]
  · rw [Marshalling.finish_of_body hbody, Marshalling.assemble_clientError,
      Marshalling.finishHeaders_ok, Marshalling.finishBody_breaksHeader,
      Marshalling.finishBody_resolvedPath, hm.resolvedPath_error huri]
    have hlength : Marshalling.HasLength (.blob bytes) := .inr ⟨_, rfl⟩
    exact and_congr_left fun _ => and_iff_right hlength

/-- A name with a slash stays in its segment, and a key with slashes behind the others. -/
theorem path_keeps_segments_key :
    ∃ m path pieces, m.resolvedPath = .ok path ∧ path.toList.splitOn '/' = [] :: pieces ∧
      (∃ piece, pieces[0]? = some piece ∧ Percent.decode piece = .ok "b/\x7bc\x7d") ∧
      pieces[1]? = some "keys".toList ∧
      Percent.decode (['/'].intercalate (pieces.drop 2)) = .ok "/d é" ∧
      Dialect.Marshals ⟨⟨"1.1", none, false, false, .root, []⟩, .json, []⟩
        ⟨.restJson, "/\x7bBucket\x7d/keys/\x7bKey+\x7d", "GET", none, false, false⟩
        [⟨.string, .path, "Bucket", none, false, none⟩,
          ⟨.string, .greedyPath, "Key", none, false, none⟩]
        [(.text "Bucket", .text "b/\x7bc\x7d"), (.text "Key", .text "/d é")] m := by
  have hwell : ∀ s ∈ [.placeholder "Bucket" false, .literal "keys".toList] ++
      [Segment.placeholder "Key" true], s.IsWellFormed := by
    intro s hs
    simp only [List.cons_append, List.nil_append, List.mem_cons, List.not_mem_nil, or_false] at hs
    rcases hs with rfl | rfl | rfl
    · exact ⟨by decide, by simp [PathTemplate.isNameChar]⟩
    · exact ⟨by decide, List.all_eq_true.1 rfl⟩
    · exact ⟨by decide, by simp [PathTemplate.isNameChar]⟩
  obtain ⟨hexists, hpaths, -, -⟩ := path_keeps_segments
    ⟨⟨"1.1", none, false, false, .root, []⟩, .json, []⟩
    ⟨.restJson, "/\x7bBucket\x7d/keys/\x7bKey+\x7d", "GET", none, false, false⟩
    ⟨[.placeholder "Bucket" false, .literal "keys".toList], .placeholder "Key" true, hwell⟩
    [⟨.string, .path, "Bucket", none, false, none⟩,
      ⟨.string, .greedyPath, "Key", none, false, none⟩]
    (by decide) rfl (by
      intro b hb hlocation plus hmem
      rcases List.mem_cons.1 hb with rfl | hb
      · cases hlocation
      · rw [List.mem_singleton.1 hb] at hmem
        simp at hmem)
  obtain ⟨m, hm⟩ := hexists [(.text "Bucket", .text "b/\x7bc\x7d"), (.text "Key", .text "/d é")] (by
    intro b hb
    rcases List.mem_cons.1 hb with rfl | hb
    · exact ⟨rfl, .inr ⟨"b/\x7bc\x7d", rfl, by decide⟩⟩
    · rw [List.mem_singleton.1 hb]
      exact ⟨rfl, .inr ⟨"/d é", rfl, by decide⟩⟩)
  obtain ⟨hresolved, hkept⟩ := hpaths _ m hm
  obtain ⟨path, hpath⟩ := hresolved.2 (by
    rintro name ⟨plus, hname⟩
    simp only [SegmentedPath.segments, List.cons_append, List.nil_append, List.mem_cons,
      List.not_mem_nil, or_false, Segment.placeholder.injEq, reduceCtorEq, false_or] at hname
    rcases hname with ⟨rfl, -⟩ | ⟨rfl, -⟩
    · rfl
    · rfl)
  obtain ⟨-, -, pieces, hsplit, hkeeps⟩ := hkept path hpath
  exact ⟨m, path, pieces, hpath, hsplit, hkeeps.value 0 "Bucket" false "b/\x7bc\x7d" rfl rfl,
    hkeeps.literal 1 _ rfl, hkeeps.remainder "Key" true true "/d é" rfl rfl, hm⟩

/-- A line break in the name of the operation is refused before the missing parameter of the path
is, and not by the client's own failure. -/
theorem path_not_resolved :
    ∃ m, Dialect.Marshals ⟨⟨"1.1", none, false, false, .root, []⟩, .json, []⟩
        ⟨.awsJson, "/\x7bKey\x7d", "POST", some "a\nb", false, true⟩ [] [] m ∧
      m.finishBody.1 = .ok (.blob [123, 125]) ∧
      (Binding.pathValues [] []).lookup "Key" = none ∧
      m.operation.template = [.literal '/', .parameter "Key"] ∧
      (∀ parts, (m.finish "https://localhost" parts).1 = .error .headerLineBreak) ∧
      Failure.headerLineBreak.isClientError = false := by
  have hkey : PathTemplate.placeholder? "Key\x7d".toList = some ("Key".toList, []) := rfl
  have htemplate : PathTemplate.ofChars ('/' :: '{' :: "Key\x7d".toList) =
      [.literal '/', .parameter "Key"] := by
    rw [PathTemplate.ofChars_literal (by decide), PathTemplate.ofChars_placeholder hkey,
      PathTemplate.ofChars]
    rfl
  refine ⟨.new ⟨.awsJson, "/\x7bKey\x7d", "POST", some "a\nb", false, true⟩
    (some "application/x-amz-json-1.1") .emptyDocument
    (.document .json ⟨none, [(none, .object [])], none⟩), ⟨fun b hb => ?_, rfl⟩, rfl, rfl,
    htemplate, fun parts => rfl, rfl⟩
  cases hb

end Dialect

end ServiceClient
