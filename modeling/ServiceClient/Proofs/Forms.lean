import ServiceClient.Proofs.Refusals

/-!
# What is sent of a form

A form is sent in parts, like a query string, or not at all, as its media type says. It adds
headers of two names only, its length and its type, and none where there is one. The parts of a form
are kept apart by a boundary that is drawn for each request: two draws that fail on the same forms
make the same request, or send one form in parts with two boundaries.

* `Form.Sent`, `Form.write_eq_ok`: the three ways to send a form.
* `Form.Sent.type`: the content type behind a form says how it was sent.
* `Request.bodyOf_adds`: a body adds headers of its own only, behind the others.
* `Request.bodyOf_drawn`: the boundary that is drawn shows in forms in parts only.
* `Request.IsRedrawn`: requests that are the same but for the boundary.
* `RequestParts.sent_exists`: which bodies can be sent.
-/

namespace ServiceClient

namespace Headers

variable {h g : Headers} {name : Text}

theorem get?_append : get? name (h ++ g) = (get? name h).or (get? name g) := by
  unfold get?
  rw [List.find?_append, Option.map_or]

/-- The type of a body has one name, however it is spelled. -/
theorem get?_type : get? "content-type" h = get? "Content-Type" h :=
  get?_congr (by decide)

/-- So has its length. -/
theorem contains_length : h.contains "content-length" = h.contains "Content-Length" :=
  contains_congr (by decide)

end Headers

/-- A string becomes its bytes, and all but texts stays as it is. A text with a surrogate has no
bytes. -/
theorem toBytes_eq_ok {v data : Value} : toBytes .utf8 .refuse v = .ok data ↔
    (∃ s, v = .text s ∧ data = .blob (Utf8.encode s)) ∨ v.text? = none ∧ data = v := by
  unfold toBytes
  split
  · next t ht =>
    have hnone : ¬ (v.text? = none ∧ data = v) := fun h => by
      rw [ht] at h
      cases h.1
    rw [or_iff_left hnone, mapError_eq_ok, map_eq_ok]
    constructor
    · rintro ⟨bytes, hbytes, rfl⟩
      obtain ⟨s, rfl, rfl⟩ := Charset.encode_utf8_eq_ok.1 hbytes
      exact ⟨s, (Value.text?_eq_some.1 ht).trans (Value.ofText_ofString s), rfl⟩
    · rintro ⟨s, rfl, rfl⟩
      cases ht
      exact ⟨_, Charset.encode_utf8_eq_ok.2 ⟨s, rfl, rfl⟩, rfl⟩
  · next hnone =>
    have hno : ¬ ∃ s, v = .text s ∧ data = .blob (Utf8.encode s) := by
      rintro ⟨s, rfl, -⟩
      cases hnone
    rw [or_iff_right hno]
    exact ⟨fun h => ⟨hnone, (Except.ok.inj h).symm⟩, fun h => by rw [h.2]⟩

/-- Two writers of forms fail on the same ones. They may differ in the boundary that is drawn, and
so in what they write. -/
structure Multipart.Alike (parts drawn : Multipart) : Prop where
  attach : ∀ e, (∃ u, parts.attach e = .ok u) ↔ ∃ u, drawn.attach e = .ok u
  body : ∀ entries, (∃ bytes, parts.body entries = .ok bytes) ↔
    ∃ bytes, drawn.body entries = .ok bytes

theorem Multipart.Alike.symm {parts drawn : Multipart} (h : parts.Alike drawn) :
    drawn.Alike parts :=
  ⟨fun e => (h.attach e).symm, fun entries => (h.body entries).symm⟩

namespace Form

variable {parts drawn : Multipart} {entries : List (Value × Value)} {headers : Headers}
  {sent : Bytes × Headers} {name given : Text} {n : Nat}

/-- The content type of a form in parts. -/
def boundaryType (parts : Multipart) : String :=
  partsType ++ "; boundary=\"" ++ parts.boundary ++ "\""

/-- The media type of a form in parts is told without its boundary. -/
theorem mediaTypeOf_boundaryType (parts : Multipart) :
    mediaTypeOf (boundaryType parts) = partsType := by
  have hmark : ∀ c ∈ partsType.toList, (c != ';') = true := List.all_eq_true.1 rfl
  have hchars : (boundaryType parts).toList =
      partsType.toList ++ ';' :: (" boundary=\"".toList ++ parts.boundary.toList ++ ['"']) := by
    unfold boundaryType
    simp
  -- the parameters start at the first semicolon, and the type has none
  unfold mediaTypeOf
  rw [Text.replaced_ofString, hchars, List.takeWhile_append_of_pos hmark,
    List.takeWhile_cons_of_neg (by decide), List.append_nil, String.ofList_toList]
  rfl

/-- A length that is added stands behind all headers. -/
theorem withLength_eq (n : Nat) (headers : Headers) :
    ∃ added, withLength n headers = headers ++ added ∧
      ∀ e ∈ added, e = (("content-length" : Text), (toString n : Text)) := by
  unfold withLength
  split
  · exact ⟨[], (List.append_nil _).symm, List.forall_mem_nil _⟩
  · exact ⟨_, rfl, List.forall_mem_singleton.2 rfl⟩

theorem withLength_of_contains (h : headers.contains "Content-Length" = true) :
    withLength n headers = headers := by
  rw [withLength, Headers.contains_length, if_pos h]

/-- A length is no other header. -/
theorem get?_withLength (h : sameName "content-length" name = false) :
    (withLength n headers).get? name = headers.get? name := by
  have hne : ¬ sameName "content-length" name = true := by
    rw [h]
    decide
  unfold withLength
  split
  · rfl
  · rw [Headers.get?_append, Headers.get?_cons, if_neg hne]
    exact Option.or_none

/-- A type that is added stands behind all headers. -/
theorem withType_eq (type : String) (headers : Headers) :
    ∃ added, withType type headers = headers ++ added ∧
      ∀ e ∈ added, e = (("content-type" : Text), (type : Text)) := by
  unfold withType
  split
  · exact ⟨[], (List.append_nil _).symm, List.forall_mem_nil _⟩
  · exact ⟨_, rfl, List.forall_mem_singleton.2 rfl⟩

theorem withType_of_some {type : String}
    (h : headers.get? "Content-Type" = some given) : withType type headers = headers := by
  rw [withType, Headers.contains_eq, Headers.get?_type, h]
  rfl

theorem get?_withType_of_none {type : String} (h : headers.get? "Content-Type" = none) :
    (withType type headers).get? "Content-Type" = some ↑type := by
  have hnone : ¬ headers.contains "content-type" = true := by
    rw [Headers.contains_eq, Headers.get?_type, h]
    decide
  rw [withType, if_neg hnone, Headers.get?_append, h, Option.none_or, Headers.get?_cons,
    if_pos (by decide)]

theorem mediaType_of_some (h : headers.get? "Content-Type" = some given) :
    mediaType entries headers = mediaTypeOf given := by
  unfold mediaType
  rw [Headers.get?_type, h]

/-- No entries have no type of their own. -/
theorem mediaType_nil_of_none (h : headers.get? "Content-Type" = none) :
    mediaType [] headers = "" := by
  unfold mediaType
  rw [Headers.get?_type, h]
  rfl

/-- A header that a form can add: its length, or its type. -/
inductive Adds (parts : Multipart) : Text × Text → Prop
  | length (n : Nat) : Adds parts ("content-length", toString n)
  | parts : Adds parts ("content-type", boundaryType parts)
  | url : Adds parts ("content-type", urlType)

theorem Adds.name_eq {e : Text × Text} (h : Adds parts e) :
    e.1 = "content-length" ∨ e.1 = "content-type" := by
  cases h with
  | length => exact .inl rfl
  | parts => exact .inr rfl
  | url => exact .inr rfl

/-- The three ways to send a form. -/
inductive Sent (parts : Multipart) (entries : List (Value × Value)) (headers : Headers) :
    Bytes × Headers → Prop
  /-- In parts, with a boundary between them. -/
  | parts (h : mediaType entries headers = partsType) {bytes : Bytes}
      (hbytes : parts.body (entries.filter (fun e => !isFile e) ++ entries.filter isFile) =
        .ok bytes) :
      Sent parts entries headers
        (bytes, withType (boundaryType parts) (withLength bytes.length headers))
  /-- Like a query string. -/
  | url (h : mediaType entries headers = urlType) {bytes : Bytes}
      (hbytes : encode (entries.filter fun e => !isFile e) = .ok bytes) :
      Sent parts entries headers (bytes, withType urlType (withLength bytes.length headers))
  /-- Under another content type, nothing of it. -/
  | nothing (hparts : mediaType entries headers ≠ partsType)
      (hurl : mediaType entries headers ≠ urlType) : Sent parts entries headers ([], headers)

theorem partsType_ne : partsType ≠ urlType := by decide

/-- **A form is sent** exactly if its files can be taken, in the one way that is its own. -/
theorem write_eq_ok : write parts entries headers = .ok sent ↔
    attachAll parts (entries.filter isFile) = .ok () ∧ Sent parts entries headers sent := by
  unfold write
  rw [bind_eq_ok]
  constructor
  · rintro ⟨u, hattach, h⟩
    refine ⟨hattach, ?_⟩
    dsimp only at h
    split at h
    · next htype =>
      obtain ⟨bytes, hbytes, h⟩ := bind_eq_ok.1 h
      cases h
      exact .parts htype (mapError_eq_ok.1 hbytes)
    · next hparts =>
      split at h
      · next htype =>
        obtain ⟨bytes, hbytes, h⟩ := bind_eq_ok.1 h
        cases h
        exact .url htype hbytes
      · next hurl =>
        cases h
        exact .nothing hparts hurl
  · rintro ⟨hattach, h⟩
    refine ⟨(), hattach, ?_⟩
    cases h with
    | parts htype hbytes =>
      dsimp only
      rw [if_pos htype, hbytes]
      rfl
    | url htype hbytes =>
      have hne : ¬ mediaType entries headers = partsType := fun h =>
        partsType_ne (h.symm.trans htype)
      dsimp only
      rw [if_neg hne, if_pos htype, hbytes]
      rfl
    | nothing hparts hurl =>
      dsimp only
      rw [if_neg hparts, if_neg hurl]
      rfl

/-- A form without entries can always be sent. -/
theorem write_nil_exists (parts : Multipart) (headers : Headers) :
    ∃ sent, write parts [] headers = .ok sent := by
  by_cases hparts : mediaType [] headers = partsType
  · exact ⟨_, write_eq_ok.2 ⟨rfl, .parts hparts parts.body_nil⟩⟩
  by_cases hurl : mediaType [] headers = urlType
  · exact ⟨_, write_eq_ok.2 ⟨rfl, .url hurl rfl⟩⟩
  · exact ⟨_, write_eq_ok.2 ⟨rfl, .nothing hparts hurl⟩⟩

/-- A form adds its length and its type at most, behind the other headers. -/
theorem Sent.adds (h : Sent parts entries headers sent) :
    ∃ added, sent.2 = headers ++ added ∧ ∀ e ∈ added, Adds parts e := by
  have hadded : ∀ (n : Nat) {type : String}, Adds parts ("content-type", type) → ∃ added,
      withType type (withLength n headers) = headers ++ added ∧ ∀ e ∈ added, Adds parts e := by
    intro n type hown
    obtain ⟨length, hlength, hlengths⟩ := withLength_eq n headers
    obtain ⟨typed, htyped, htypes⟩ := withType_eq type (withLength n headers)
    refine ⟨length ++ typed, by rw [htyped, hlength, List.append_assoc], ?_⟩
    refine List.forall_mem_append.2 ⟨fun e he => ?_, fun e he => ?_⟩
    · rw [hlengths e he]
      exact .length n
    · rw [htypes e he]
      exact hown
  cases h with
  | parts => exact hadded _ .parts
  | url => exact hadded _ .url
  | nothing => exact ⟨[], (List.append_nil _).symm, List.forall_mem_nil _⟩

/-- **The content type behind a form** is that in front of it, if there is one, and else that of the
way in which it is sent. -/
theorem Sent.type (h : Sent parts entries headers sent) :
    sent.2.get? "Content-Type" = (headers.get? "Content-Type").or
      (if mediaType entries headers = partsType then some ↑(boundaryType parts)
        else if mediaType entries headers = urlType then some ↑urlType else none) := by
  have hlength : ∀ n, (withLength n headers).get? "Content-Type" = headers.get? "Content-Type" :=
    fun n => get?_withLength (by decide)
  have htyped : ∀ (n : Nat) (type : String),
      (withType type (withLength n headers)).get? "Content-Type" =
        (headers.get? "Content-Type").or (some ↑type) := by
    intro n type
    cases hgiven : headers.get? "Content-Type" with
    | none => exact get?_withType_of_none ((hlength n).trans hgiven)
    | some given =>
      rw [withType_of_some ((hlength n).trans hgiven), hlength, hgiven]
      rfl
  cases h with
  | parts htype => rw [if_pos htype, htyped]
  | url htype =>
    have hne : ¬ mediaType entries headers = partsType := fun h =>
      partsType_ne (h.symm.trans htype)
    rw [if_neg hne, if_pos htype, htyped]
  | nothing hparts hurl =>
    rw [if_neg hparts, if_neg hurl]
    exact Option.or_none.symm

/-- How a form was sent can be told from the content type behind it. -/
theorem Sent.inParts_iff (h : Sent parts entries headers sent) :
    mediaType entries headers = partsType ↔
      ∃ type, sent.2.get? "Content-Type" = some type ∧ mediaTypeOf type = partsType := by
  have htype := h.type
  -- a type in front is kept; without one, each way adds a type of its own
  cases hgiven : headers.get? "Content-Type" with
  | some given =>
    rw [hgiven, Option.some_or] at htype
    rw [htype, mediaType_of_some hgiven]
    simp
  | none =>
    rw [hgiven, Option.none_or] at htype
    rw [htype]
    constructor
    · intro hparts
      exact ⟨_, if_pos hparts, mediaTypeOf_boundaryType parts⟩
    · rintro ⟨type, hsome, hmedia⟩
      refine Classical.byContradiction fun hparts => ?_
      rw [if_neg hparts] at hsome
      split at hsome
      · rw [← Option.some.inj hsome] at hmedia
        exact absurd hmedia (by decide)
      · cases hsome

end Form

namespace Request

variable {parts drawn : Multipart} {body : Value} {fields : Fields} {bytes : Bytes}
  {headers : Headers} {sent : Bytes × Headers}

/-- The body is announced as a form in parts. -/
def IsInParts (r : Request) : Prop :=
  ∃ type, r.headers.get? "Content-Type" = some type ∧ Form.mediaTypeOf type = Form.partsType

theorem bodyOf_of_falsy (h : body.isFalsy = true) :
    bodyOf parts body headers = Form.write parts [] headers := if_pos h

/-- The fields of a form are sent as one, whether there are any or not. -/
theorem bodyOf_map (parts : Multipart) (fields : Fields) (headers : Headers) :
    bodyOf parts (.map fields) headers = Form.write parts (Form.entries fields) headers := by
  cases fields with
  | nil => rfl
  | cons p rest => rfl

/-- A body that is sent as it is: nothing, text or bytes. -/
def TakesBody (body : Value) : Prop :=
  body.isFalsy = true ∨ (∃ s, body = .text s) ∨ ∃ s, body = .bytes .fixed s

/-- A body that can be sent behind headers: one that is sent as it is, or fields that make a
form. -/
def SendsBody (parts : Multipart) (body : Value) (headers : Headers) : Prop :=
  TakesBody body ∨ ∃ fields, body = .map fields ∧
    ∃ sent, Form.write parts (Form.entries fields) headers = .ok sent

/-- Fields can be sent exactly if they make a form. -/
theorem sendsBody_map : SendsBody parts (.map fields) headers ↔
    ∃ sent, Form.write parts (Form.entries fields) headers = .ok sent := by
  constructor
  · rintro ((hempty | ⟨s, hs⟩ | ⟨s, hs⟩) | ⟨fields', hfields, hsent⟩)
    · -- no fields are nothing, which is always sent
      obtain rfl := List.isEmpty_iff.1 hempty
      exact Form.write_nil_exists parts headers
    · cases hs
    · cases hs
    · cases hfields
      exact hsent
  · exact fun hsent => .inr ⟨fields, rfl, hsent⟩

/-- **A body adds headers of its own only**, behind the others: its length, and the type of a
form. -/
theorem bodyOf_adds (h : bodyOf parts body headers = .ok sent) :
    ∃ added, sent.2 = headers ++ added ∧ ∀ e ∈ added, Form.Adds parts e := by
  unfold bodyOf at h
  split at h
  · exact (Form.write_eq_ok.1 h).2.adds
  · split at h
    · obtain ⟨added, hadded, hown⟩ := Form.withLength_eq _ headers
      cases h
      refine ⟨added, hadded, fun e he => ?_⟩
      rw [hown e he]
      exact .length _
    · exact (Form.write_eq_ok.1 h).2.adds
    · cases h

/-- Headers of other names stay as they are. -/
theorem get?_bodyOf {name : Text} (hlength : sameName "content-length" name = false)
    (htype : sameName "content-type" name = false) (h : bodyOf parts body headers = .ok sent) :
    sent.2.get? name = headers.get? name := by
  -- what a body adds has the name of the length or that of the type
  obtain ⟨added, hadded, hown⟩ := bodyOf_adds h
  have hnone : added.get? name = none := by
    have hother : ∀ e ∈ added, ¬ sameName e.1 name = true := by
      intro e he
      rcases (hown e he).name_eq with hname | hname
      · rw [hname, hlength]
        decide
      · rw [hname, htype]
        decide
    unfold Headers.get?
    rw [List.find?_eq_none.2 hother]
    rfl
  rw [hadded, Headers.get?_append, hnone]
  exact Option.or_none

/-- Bytes and all else that is no text can be sent if it is nothing, bytes, or fields that make a
form. -/
theorem bodyOf_exists :
    (∃ sent, bodyOf parts body headers = .ok sent) ↔
      (body.isFalsy = true ∨ ∃ s, body = .bytes .fixed s) ∨ ∃ fields, body = .map fields ∧
        ∃ sent, Form.write parts (Form.entries fields) headers = .ok sent := by
  by_cases hfalsy : body.isFalsy = true
  · rw [bodyOf_of_falsy hfalsy]
    exact ⟨fun _ => .inl (.inl hfalsy), fun _ => Form.write_nil_exists parts headers⟩
  · unfold bodyOf
    rw [if_neg hfalsy]
    constructor
    · rintro ⟨sent, h⟩
      split at h
      · exact .inl (.inr ⟨_, rfl⟩)
      · exact .inr ⟨_, rfl, _, h⟩
      · cases h
    · rintro ((h | ⟨s, rfl⟩) | ⟨fields, rfl, hsent⟩)
      · exact absurd h hfalsy
      · exact ⟨_, rfl⟩
      · exact hsent

end Request

/-- **A body can be sent** exactly if it is nothing, text, bytes, or fields that make a form. -/
theorem RequestParts.sent_exists {p : RequestParts} {parts : Multipart} :
    (∃ sent, p.sent parts = .ok sent) ↔ Request.SendsBody parts p.body p.headers := by
  unfold RequestParts.sent Request.SendsBody Request.TakesBody
  constructor
  · rintro ⟨sent, h⟩
    obtain ⟨data, hdata, hsent⟩ := bind_eq_ok.1 h
    rcases toBytes_eq_ok.1 hdata with ⟨s, hs, -⟩ | ⟨-, rfl⟩
    · exact .inl (.inr (.inl ⟨s, hs⟩))
    · exact (Request.bodyOf_exists.1 ⟨sent, hsent⟩).imp_left (Or.imp_right .inr)
  · intro h
    by_cases htext : ∃ s, p.body = .text s
    · obtain ⟨s, hs⟩ := htext
      obtain ⟨sent, hsent⟩ := (@Request.bodyOf_exists parts (.blob (Utf8.encode s)) p.headers).2
        (.inl (.inr ⟨_, rfl⟩))
      exact ⟨sent, bind_eq_ok.2 ⟨_, toBytes_eq_ok.2 (.inl ⟨s, hs, rfl⟩), hsent⟩⟩
    · have hbody : (p.body.isFalsy = true ∨ ∃ s, p.body = .bytes .fixed s) ∨
          ∃ fields, p.body = .map fields ∧
            ∃ sent, Form.write parts (Form.entries fields) p.headers = .ok sent :=
        h.imp_left fun htakes => htakes.imp_right (Or.resolve_left · htext)
      obtain ⟨sent, hsent⟩ := Request.bodyOf_exists.2 hbody
      refine ⟨sent, bind_eq_ok.2 ⟨_, toBytes_eq_ok.2 (.inr ⟨?_, rfl⟩), hsent⟩⟩
      -- no text with a surrogate is nothing, bytes or fields
      cases hv : p.body with
      | text s => exact absurd ⟨s, hv⟩ htext
      | loose t =>
        rw [hv] at hbody
        rcases hbody with (hfalsy | ⟨s, hs⟩) | ⟨fields, hfields, -⟩
        · cases hfalsy
        · cases hs
        · cases hfields
      | _ => rfl

end ServiceClient
