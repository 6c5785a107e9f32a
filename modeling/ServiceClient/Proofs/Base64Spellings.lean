import ServiceClient.Proofs.Base64
import ServiceClient.Proofs.PathSegments
import ServiceClient.Proofs.QueryParameters
import ServiceClient.Proofs.Utf8

/-!
# Spellings of base 64

Bytes in base 64 are read in any spelling: in the standard alphabet or the one for URLs, without
some or all of the padding, or padded and with white space anywhere in between. So the bytes of a
member are read from its text wherever the text stands in a request.

* `Base64.IsSpelling`: the texts that stand for bytes.
* `Base64.decodeFrom_filter`: characters of no alphabet are skipped.
* `Base64.decodeText_spelling`: each spelling is read as its bytes.
* `base64Decode_spelling`: given as text or as bytes, and as a member of a request.
-/

namespace ServiceClient

namespace Base64

/-- An ASCII character that is neither of an alphabet nor padding. -/
def isSkipped (c : Char) : Bool :=
  decide (c.toNat < 128) && (value? (standardChar c)).isNone && decide (c ≠ '=')

example : [' ', '\t', '\n', '\x0b', '\x0c', '\r'].all isSkipped = true := by decide

/-- A text that stands for bytes: their padded text, once `-` and `_` are replaced by `+` and `/`,
and once the padding that lacks is filled in, or else all that is skipped is left out. -/
inductive IsSpelling (s : Bytes) (u : List Char) : Prop
  | stripped (k : Nat) (h : (u ++ List.replicate k '=').map standardChar = encodeChars s)
  | spaced (h : (u.filter fun c => !isSkipped c).map standardChar = encodeChars s)

/-- The character of the alphabet for URLs. -/
def urlChar (c : Char) : Char := if c = '+' then '-' else if c = '/' then '_' else c

/-- The text in the alphabet for URLs has the same digits. -/
theorem map_standardChar_urlChar (s : Bytes) :
    ((encodeChars s).map urlChar).map standardChar = encodeChars s := by
  rw [List.map_map, List.map_congr_left (g := id), List.map_id]
  intro c hc
  obtain ⟨-, hminus, hline⟩ := mem_encodeChars s c hc
  show standardChar (urlChar c) = c
  unfold urlChar
  split
  · rename_i h
    rw [h]
    decide
  · split
    · rename_i h
      rw [h]
      decide
    · unfold standardChar
      rw [if_neg hminus, if_neg hline]

/-- The text in the alphabet for URLs is a spelling, with or without its padding. -/
theorem IsSpelling.url {s : Bytes} {u : List Char} {k : Nat}
    (h : u ++ List.replicate k '=' = (encodeChars s).map urlChar) : IsSpelling s u := by
  refine .stripped k ?_
  rw [h, map_standardChar_urlChar]

/-! ### What is skipped -/

/-- What is skipped is of no alphabet, and stays as it is. -/
theorem isSkipped_iff {c : Char} : isSkipped c = true ↔
    c.toNat < 128 ∧ value? c = none ∧ c ≠ '=' ∧ standardChar c = c := by
  unfold isSkipped
  rw [Bool.and_eq_true, Bool.and_eq_true, decide_eq_true_eq, decide_eq_true_eq,
    Option.isNone_iff_eq_none, and_assoc]
  refine and_congr_right fun _ => ?_
  unfold standardChar
  by_cases hminus : c = '-'
  · rw [hminus]
    decide
  · by_cases hline : c = '_'
    · rw [hline]
      decide
    · rw [if_neg hminus, if_neg hline]
      simp

theorem decodeFrom_skipped {c : Char} (h : isSkipped c = true) (g : Group) (done : Nat)
    (rest : List Char) : decodeFrom g done (c :: rest) = decodeFrom g done rest := by
  obtain ⟨-, hvalue, hne, -⟩ := isSkipped_iff.1 h
  rw [decodeFrom.eq_def]
  simp only [if_neg hne, hvalue]

/-- Texts that are read alike are read alike behind one more character. -/
theorem decodeFrom_cons_congr {t t' : List Char}
    (h : ∀ g done, decodeFrom g done t = decodeFrom g done t') (c : Char) (g : Group) (done : Nat) :
    decodeFrom g done (c :: t) = decodeFrom g done (c :: t') := by
  rw [decodeFrom.eq_def, decodeFrom.eq_def g done (c :: t')]
  simp only [h]

/-- **Characters of no alphabet are skipped**, wherever they stand. -/
theorem decodeFrom_filter (u t : List Char) : ∀ g done,
    decodeFrom g done (u.map standardChar ++ t) =
      decodeFrom g done ((u.filter fun c => !isSkipped c).map standardChar ++ t) := by
  induction u with
  | nil => exact fun _ _ => rfl
  | cons c u ih =>
    intro g done
    cases hc : isSkipped c with
    | true =>
      have hself : standardChar c = c := (isSkipped_iff.1 hc).2.2.2
      rw [List.filter_cons_of_neg (by rw [hc]; decide), List.map_cons, List.cons_append, hself,
        decodeFrom_skipped hc, ih]
    | false =>
      rw [List.filter_cons_of_pos (by rw [hc]; rfl), List.map_cons, List.map_cons,
        List.cons_append, List.cons_append]
      exact decodeFrom_cons_congr ih _ g done

/-! ### What is filled in -/

/-- The filling character is its own in each alphabet. -/
theorem map_standardChar_replicate (k : Nat) :
    (List.replicate k '=').map standardChar = List.replicate k '=' := by
  rw [List.map_replicate]
  rfl

/-- No more than two characters of padding end a text. -/
theorem padding_le_two {s : Bytes} {u : List Char} {k : Nat}
    (h : u ++ List.replicate k '=' = encodeChars s) : k ≤ 2 := by
  obtain ⟨digits, pads, hchars, hpads, hdigits⟩ := exists_digits s
  have hnone : digits.count '=' = 0 := by
    rw [List.count_eq_zero]
    intro hmem
    obtain ⟨n, hn, heq⟩ := hdigits '=' hmem
    exact (digit_spec n hn).2.1 heq.symm
  -- the padding is counted in both texts, and there is none in the digits
  have hcount := congrArg (List.count '=') (h.trans hchars)
  rw [List.count_append, List.count_append, List.count_replicate_self, List.count_replicate_self,
    hnone] at hcount
  omega

/-- **The padding that lacks is filled in.** -/
theorem pad_stripped {s : Bytes} {u : List Char} {k : Nat}
    (h : (u ++ List.replicate k '=').map standardChar = encodeChars s) :
    pad u = u ++ List.replicate k '=' := by
  have hle : k ≤ 2 := by
    refine padding_le_two (s := s) (u := u.map standardChar) ?_
    rw [← h, List.map_append, map_standardChar_replicate]
  have hlength : (u.length + k) % 4 = 0 := by
    have hwhole := length_encodeChars s
    rw [← h, List.length_map, List.length_append, List.length_replicate] at hwhole
    exact hwhole
  unfold pad
  by_cases hfull : u.length % 4 = 0
  · have hk : k = 0 := by omega
    rw [if_pos hfull, hk, List.replicate_zero, List.append_nil]
  · have hk : 4 - u.length % 4 = k := by omega
    rw [if_neg hfull, hk]

/-- A text is filled up with padding. -/
theorem exists_pad (u : List Char) : ∃ k, pad u = u ++ List.replicate k '=' := by
  unfold pad
  split
  · exact ⟨0, (List.append_nil u).symm⟩
  · exact ⟨_, rfl⟩

/-! ### Reading a spelling -/

/-- The characters of a spelling are ASCII, and so are those that stand for them. -/
theorem IsSpelling.ascii {s : Bytes} {u : List Char} (h : IsSpelling s u) :
    ∀ c ∈ u, (standardChar c).toNat < 128 := by
  intro c hc
  cases h with
  | stripped k h =>
    refine (mem_encodeChars s _ ?_).1
    rw [← h]
    exact List.mem_map.2 ⟨c, List.mem_append_left _ hc, rfl⟩
  | spaced h =>
    cases hskip : isSkipped c with
    | true =>
      obtain ⟨hascii, -, -, hself⟩ := isSkipped_iff.1 hskip
      rw [hself]
      exact hascii
    | false =>
      refine (mem_encodeChars s _ ?_).1
      rw [← h]
      exact List.mem_map.2 ⟨c, List.mem_filter.2 ⟨hc, by rw [hskip]; rfl⟩, rfl⟩

/-- **Each spelling is read as its bytes.** -/
theorem decodeText_spelling {s : Bytes} {u : List Char} (h : IsSpelling s u) :
    decodeText u = .ok s := by
  obtain ⟨k, hpad⟩ := exists_pad u
  have hascii : ((pad u).map standardChar).all (·.toNat < 128) = true := by
    rw [List.all_eq_true, hpad, List.map_append, map_standardChar_replicate]
    intro c hc
    rcases List.mem_append.1 hc with hc | hc
    · obtain ⟨d, hd, rfl⟩ := List.mem_map.1 hc
      exact decide_eq_true (h.ascii d hd)
    · rw [List.eq_of_mem_replicate hc]
      decide
  unfold decodeText decode
  rw [if_pos hascii]
  cases h with
  | stripped k' h => rw [pad_stripped h, h, decodeFrom_encodeChars]
  | spaced h =>
    -- the white space counts for the padding, so more may be filled in than is read
    rw [hpad, List.map_append, map_standardChar_replicate, decodeFrom_filter, h,
      decodeFrom_padded]

/-- Padded text is a spelling. -/
theorem IsSpelling.padded (s : Bytes) : IsSpelling s (encodeChars s) := by
  refine .stripped 0 ?_
  rw [List.replicate_zero, List.append_nil, List.map_congr_left (g := id), List.map_id]
  intro c hc
  obtain ⟨-, hminus, hline⟩ := mem_encodeChars s c hc
  unfold standardChar
  rw [if_neg hminus, if_neg hline]
  rfl

/-- Padded text has no line breaks. -/
theorem isValue_encode (s : Bytes) : Headers.isValue (encode s) = true := by
  have hdigit : ∀ n < 64, digit n ≠ '\n' ∧ digit n ≠ '\r' := by decide
  have hchars : ∀ c ∈ encodeChars s, c ≠ '\n' ∧ c ≠ '\r' := by
    intro c hc
    obtain ⟨digits, pads, heq, -, hdigits⟩ := exists_digits s
    rw [heq, List.mem_append, List.mem_replicate] at hc
    obtain hc | ⟨-, rfl⟩ := hc
    · obtain ⟨n, hn, rfl⟩ := hdigits c hc
      exact hdigit n hn
    · decide
  unfold Headers.isValue encode
  rw [Text.points_ofString, String.toList_ofList, List.any_map, Bool.not_eq_true',
    List.any_eq_false]
  intro c hc
  simp [hchars c hc]

theorem encode_ne_empty {s : Bytes} (h : s ≠ []) : encode s ≠ "" := by
  obtain ⟨a, t, rfl⟩ := List.exists_cons_of_ne_nil h
  unfold encode
  rw [Ne, String.ofList_eq_empty_iff]
  match t with
  | [] => exact List.cons_ne_nil _ _
  | [_] => exact List.cons_ne_nil _ _
  | _ :: _ :: _ => exact List.cons_ne_nil _ _

end Base64

/-! ### Members in base 64 -/

/-- A spelling is read as its bytes, given as text or as a byte string. -/
theorem base64Decode_of_spelling {s : Bytes} {u : List Char} (h : Base64.IsSpelling s u)
    (origin : Value.Origin) :
    base64Decode origin (.text (String.ofList u)) = .ok s ∧
      ∀ kind, kind ≠ .view → base64Decode origin (.bytes kind (Utf8.encodeChars u)) = .ok s := by
  have htext : base64Decode origin (.text (String.ofList u)) = .ok s := by
    show (Base64.decodeText (String.ofList u).toList).mapError Failure.base64 = .ok s
    rw [String.toList_ofList, Base64.decodeText_spelling h]
    rfl
  refine ⟨htext, fun kind hkind => ?_⟩
  have hread : toText .utf8 .refuse (.bytes kind (Utf8.encodeChars u)) =
      .ok (.text (String.ofList u)) := by
    have hdecode : Charset.utf8.decode .refuse (Utf8.encodeChars u) = .ok (String.ofList u) :=
      Utf8.decode_encodeChars u
    unfold toText
    cases kind with
    | view => exact absurd rfl hkind
    | fixed => simp only [hdecode]; rfl
    | array => simp only [hdecode]; rfl
  rw [← htext]
  unfold base64Decode
  rw [hread]
  rfl

/-- The base 64 text of bytes is read as these bytes. -/
theorem base64Decode_encode (origin : Value.Origin) (s : Bytes) :
    base64Decode origin (.text (Base64.encode s)) = .ok s :=
  (base64Decode_of_spelling (.padded s) origin).1

/-- Bytes outside of the body have their base 64 text. -/
theorem memberText_bytes {kind : BytesKind} (hkind : kind ≠ .view) (format : TimestampFormat)
    (s : Bytes) : memberText format (.bytes kind s) = .ok (Base64.encode s) := by
  cases kind with
  | view => exact absurd rfl hkind
  | fixed => rfl
  | array => rfl

namespace Marshalling

variable {m : Marshalling} {b : Binding} {kind : BytesKind} {s : Bytes}

/-- Bytes in a header. -/
theorem add_bytes_header (htype : b.type = .blob) (hbody : b.isBody = false) (hkind : kind ≠ .view)
    (h : b.location = .header) : m.add b (.bytes kind s) =
      (.ok (), { m with headers := m.headers.put b.name (Base64.encode s) }) := by
  have hc : b.contribution (.bytes kind s) = .one (.header b.name (Base64.encode s)) := by
    unfold Binding.contribution Binding.headerContribution
    rw [h, htype]
    dsimp only
    rw [memberText_bytes hkind]
    rfl
  have hset : m.headers.set b.name (Base64.encode s) =
      .ok (m.headers.put b.name (Base64.encode s)) :=
    Headers.set_eq_ok.2 ⟨Base64.isValue_encode s, rfl⟩
  unfold add contribute
  rw [contributionOf_set hbody (by simp), hc]
  simp only [Contribution.one, putAll, put, hset]

/-- Bytes in the query string. -/
theorem add_bytes_query (htype : b.type = .blob) (hbody : b.isBody = false) (hkind : kind ≠ .view)
    (h : b.location = .query) : m.add b (.bytes kind s) =
      (.ok (), { m with query := m.query ++ [(.text b.name, (Base64.encode s : Text))] }) := by
  have hsends : b.Sends (.bytes kind s) [(b.name, Base64.encode s)] :=
    .one (by rw [htype]; decide) (by rw [htype]; decide) (by simp) (memberText_bytes hkind _ s)
  exact add_query ((Binding.area_eq_of_location (.inr rfl)).2 ⟨hbody, h⟩) hsends m

/-- Bytes in the path, which must not be empty. -/
theorem add_bytes_path (hbody : b.isBody = false) (hkind : kind ≠ .view)
    (h : b.location = .path ∨ b.location = .greedyPath) (hs : s ≠ []) : ∃ escaped,
      m.add b (.bytes kind s) = (.ok (), { m with path := Association.put b.name escaped m.path }) ∧
        Percent.decodeBytes escaped.toList = Utf8.encode (Base64.encode s) := by
  have harea : b.area = .path := by
    unfold Binding.area
    rw [hbody]
    rcases h with h | h <;> rw [h] <;> rfl
  obtain ⟨greedy, hadd⟩ := add_path_escaped harea (by simp) (memberText_bytes hkind _ s)
    (Base64.encode_ne_empty hs) m
  exact ⟨_, hadd, PathTemplate.decodeBytes_escaped _⟩

/-- Bytes in a field of a JSON document. -/
theorem add_bytes_field (htype : b.type = .blob) (hbody : b.isBody = false)
    (h : b.location = .payload) {d : Document} {outer : Option Value} {fields : Fields}
    {rest : List (Option Value × Frame)} (hw : m.writer = .document .json d)
    (hd : d.frames = (outer, .object fields) :: rest) : m.add b (.bytes kind s) =
      (.ok (), { m with writer := .document .json ⟨d.root,
        (outer, .object (Fields.put (.text b.name) (.text (Base64.encode s)) fields)) :: rest,
        none⟩ }) := by
  have hfield : b.IsField := ⟨h, hbody, by rw [htype]; decide⟩
  obtain ⟨root, frames, pending⟩ := d
  obtain rfl : frames = (outer, .object fields) :: rest := hd
  have hname : Document.perform ⟨root, (outer, .object fields) :: rest, pending⟩
      Encoding.json.convert (.fieldName (.text b.name)) =
        .ok ⟨root, (outer, .object fields) :: rest, some (.text b.name)⟩ := rfl
  have hvalue : Document.perform ⟨root, (outer, .object fields) :: rest, some (.text b.name)⟩
      Encoding.json.convert (.value (.bytes kind s)) =
        .ok ⟨root, (outer, .object (Fields.put (.text b.name) (.text (Base64.encode s)) fields)) ::
          rest, none⟩ := rfl
  unfold add contribute
  rw [contributionOf_field hfield (by simp)]
  simp only [putAll, put, call, hw, BodyWriter.perform, hname, hvalue]

end Marshalling

/-- **Base 64 is read in every spelling.** Bytes are what each spelling of them is read as, given as
text or as a byte string; the text that they are written as is one. So they are read from the text
that a member of bytes has in a header, in the query string, in a field of a JSON document, and,
once its escapes are replaced and unless it is empty, in the path. -/
theorem base64Decode_spelling (s : Bytes) :
    (∀ u, Base64.IsSpelling s u → ∀ origin,
      base64Decode origin (.text (String.ofList u)) = .ok s ∧
        ∀ kind, kind ≠ .view → base64Decode origin (.bytes kind (Utf8.encodeChars u)) = .ok s) ∧
    ∃ text : String, (∀ kind, base64Encode (.bytes kind s) = .ok text) ∧
      (∀ origin, base64Decode origin (.text text) = .ok s) ∧
      ∀ (m : Marshalling) (b : Binding) (kind : BytesKind), b.type = .blob → b.isBody = false →
        kind ≠ .view →
        (b.location = .header → m.add b (.bytes kind s) =
          (.ok (), { m with headers := m.headers.put b.name text })) ∧
        (b.location = .query → m.add b (.bytes kind s) =
          (.ok (), { m with query := m.query ++ [(.text b.name, (text : Text))] })) ∧
        (b.location = .path ∨ b.location = .greedyPath → s ≠ [] → ∃ escaped,
          m.add b (.bytes kind s) =
            (.ok (), { m with path := Association.put b.name escaped m.path }) ∧
          Percent.decodeBytes escaped.toList = Utf8.encode text) ∧
        (b.location = .payload → ∀ d outer fields rest, m.writer = .document .json d →
          d.frames = (outer, .object fields) :: rest → m.add b (.bytes kind s) =
            (.ok (), { m with writer := .document .json ⟨d.root,
              (outer, .object (Fields.put (.text b.name) (.text text) fields)) :: rest,
              none⟩ })) := by
  refine ⟨fun u h origin => base64Decode_of_spelling h origin, Base64.encode s, fun kind => rfl,
    fun origin => base64Decode_encode origin s, fun m b kind htype hbody hkind => ?_⟩
  refine ⟨fun h => ?_, fun h => ?_, fun h hs => ?_, fun h d outer fields rest hw hd => ?_⟩
  · exact Marshalling.add_bytes_header htype hbody hkind h
  · exact Marshalling.add_bytes_query htype hbody hkind h
  · exact Marshalling.add_bytes_path hbody hkind h hs
  · exact Marshalling.add_bytes_field htype hbody h hw hd

/-- Two bytes in the alphabet for URLs without padding, and padded with a line break in it. -/
theorem base64Decode_spelling_url :
    base64Decode .memory (.text "-_8") = .ok [251, 255] ∧
    base64Decode .ion (.bytes .array (Utf8.encodeChars "+/\n8=".toList)) = .ok [251, 255] ∧
    (Marshalling.new ⟨.restJson, "/", "GET", none, false, false⟩ none .nothing .silent).add
        ⟨.blob, .header, "Data", none, false, none⟩ (.bytes .fixed [251, 255]) =
      (.ok (), { Marshalling.new ⟨.restJson, "/", "GET", none, false, false⟩ none .nothing
        .silent with headers := ([("Data", "+/8=")] : Headers) }) := by
  obtain ⟨hread, text, htext, -, hmember⟩ := base64Decode_spelling [251, 255]
  obtain rfl : text = "+/8=" := by
    have hencode : base64Encode (.bytes .fixed [251, 255]) = .ok "+/8=" := by rfl
    exact Except.ok.inj ((htext .fixed).symm.trans hencode)
  have hurl : Base64.IsSpelling [251, 255] "-_8".toList := .url (k := 1) (by decide)
  have hspaced : Base64.IsSpelling [251, 255] "+/\n8=".toList := .spaced (by decide)
  refine ⟨(hread _ hurl .memory).1, (hread _ hspaced .ion).2 .array (by decide), ?_⟩
  exact (hmember _ ⟨.blob, .header, "Data", none, false, none⟩ .fixed rfl rfl (by decide)).1 rfl

end ServiceClient
