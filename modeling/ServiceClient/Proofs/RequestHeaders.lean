import ServiceClient.Proofs.HeaderWrites

/-!
# The headers of a finished request

A request has exactly the headers that its members, the length of its body, its type and the name
of its operation write, each name once and with its last value. A body that is sent as nothing adds
a length of its own if it is announced as a form.

* `Request.bodyOf_bytes`: a body of bytes leaves the headers alone.
* `Dialect.headers_last_written`: the headers of a request.
* `Dialect.headers_of_empty_form`: one more header, for a form without fields.
-/

namespace ServiceClient

namespace Request

variable {parts : Multipart} {s bytes : Bytes} {headers sent : Headers}

/-- Whether a content type is that of a form, with its fields in one text or in parts. -/
def isFormType (type : Text) : Bool :=
  Form.mediaTypeOf type == Form.urlType || Form.mediaTypeOf type == Form.partsType

/-- **A body of bytes leaves the headers alone**: one that is not empty if its length is there, and
the empty one if it is not announced as a form. -/
theorem bodyOf_bytes (hlength : s ≠ [] → headers.contains "Content-Length" = true)
    (hform : s = [] → ∀ type, headers.get? "Content-Type" = some type → isFormType type = false)
    (h : bodyOf parts (.blob s) headers = .ok (bytes, sent)) : bytes = s ∧ sent = headers := by
  by_cases hs : s = []
  · -- nothing is sent, and no field of a form
    subst hs
    have hfalsy : (Value.blob []).isFalsy = true := rfl
    have hplain : Form.mediaType [] headers ≠ Form.partsType ∧
        Form.mediaType [] headers ≠ Form.urlType := by
      cases htype : headers.get? "Content-Type" with
      | none =>
        rw [Form.mediaType_nil_of_none htype]
        decide
      | some type =>
        obtain ⟨hurl, hparts⟩ := Bool.or_eq_false_iff.1 (hform rfl type htype)
        rw [Form.mediaType_of_some htype]
        exact ⟨beq_eq_false_iff_ne.1 hparts, beq_eq_false_iff_ne.1 hurl⟩
    rw [bodyOf_of_falsy hfalsy] at h
    have hnothing : Form.Sent parts [] headers ([], headers) := .nothing hplain.1 hplain.2
    have hwrite := Form.write_eq_ok.2 ⟨rfl, hnothing⟩
    obtain ⟨rfl, rfl⟩ := Prod.mk.inj (Except.ok.inj (h.symm.trans hwrite))
    exact ⟨rfl, rfl⟩
  · rw [bodyOf_blob parts hs, Form.withLength_of_contains (hlength hs)] at h
    obtain ⟨rfl, rfl⟩ := Prod.mk.inj (Except.ok.inj h)
    exact ⟨rfl, rfl⟩

/-- An empty body that is announced as a form has a length of its own, unless there is one. -/
theorem bodyOf_empty_form (parts : Multipart) {type : Text}
    (htype : headers.get? "Content-Type" = some type)
    (hform : Form.mediaTypeOf type = Form.urlType)
    (hlength : headers.contains "Content-Length" = false) :
    bodyOf parts (.blob []) headers =
      .ok ([], headers ++ ([("content-length", "0")] : Headers)) := by
  have hfalsy : (Value.blob []).isFalsy = true := rfl
  have hmedia : Form.mediaType [] headers = Form.urlType :=
    (Form.mediaType_of_some htype).trans hform
  have hadded : Form.withLength 0 headers = headers ++ ([("content-length", "0")] : Headers) := by
    rw [Form.withLength, Headers.contains_length, hlength, if_neg (by decide)]
    rfl
  have htyped : (Form.withLength 0 headers).get? "Content-Type" = some type :=
    (Form.get?_withLength (by decide)).trans htype
  rw [bodyOf_of_falsy hfalsy, Form.write_eq_ok.2 ⟨rfl, .url hmedia rfl⟩]
  show Except.ok (_, Form.withType Form.urlType (Form.withLength 0 headers)) = _
  rw [Form.withType_of_some htyped, hadded]
  rfl

end Request

/-- The length of bytes is written if there are any. -/
theorem Marshalling.lengthWrites_blob {s : Bytes} (hs : s ≠ []) :
    lengthWrites (.blob s) = [(("Content-Length" : Text), (toString s.length : Text))] := by
  unfold lengthWrites
  rw [if_neg (by rw [Value.isFalsy_blob hs]; decide)]
  rfl

namespace Dialect

variable {d : Dialect} {o : Operation} {bindings : List Binding} {request : Value}
  {m : Marshalling} {body : Value}

/-- A body is bytes if every member that is given as the text of a body is text or bytes. -/
theorem Completes.body_bytes (h : d.Completes o bindings request m body)
    (htext : ∀ b ∈ bindings, b.isBody = true → b.type = .string → ∀ v,
      Marshalling.memberOf request b.member = .ok v → v ≠ .null →
        (∃ t, v = .ofText t) ∨ ∃ s, v = .blob s) :
    ∃ s, body = .blob s := by
  rcases Marshalling.finishBody_body h.complete with hmember | ⟨-, s, hs, -⟩
  · obtain ⟨b, hb, v, hv, hput⟩ := h.bodyOf hmember
    rcases hput.cases with hbytes | ⟨htype, rfl, hnotext⟩
    · exact hbytes
    · rcases htext b hb hput.isBody htype body hv hput.isSet with ⟨t, rfl⟩ | hbytes
      · rw [Value.text?_ofText] at hnotext
        cases hnotext
      · exact hbytes
  · exact ⟨s, hs⟩

/-- Members and the client write the type of a body, no other writes do. -/
theorem mem_type_of_allWrites {written : Headers} {e : Text × Text}
    (he : e ∈ d.allWrites o written body) (hname : sameName e.1 "Content-Type" = true) :
    e ∈ written ++ d.typeWrites o written := by
  unfold allWrites at he
  simp only [List.mem_append] at he ⊢
  rcases he with ((he | he) | he) | he
  · exact .inl he
  · rw [Marshalling.name_lengthWrites he] at hname
    exact absurd hname (by decide)
  · exact .inr he
  · rw [Operation.name_targetWrites he] at hname
    exact absurd hname (by decide)

/-- **The headers of a finished request.** If each member that is given as the text of a body is
text or bytes, and no type of a form is written for an empty body, a request has one header for each
name that is written, with the value that was written last: by its members in the order of their
bindings, by the length of the body unless it is empty, by its type unless a member has written
one or the writer is silent, and by the name of the operation. It has no other headers. -/
theorem headers_last_written (d : Dialect) (o : Operation) (bindings : List Binding)
    (request : Value) (endpoint : String) (parts : Multipart) (r : Request)
    (hr : d.request o bindings request endpoint parts = .ok r)
    (htext : ∀ b ∈ bindings, b.isBody = true → b.type = .string → ∀ v,
      Marshalling.memberOf request b.member = .ok v → v ≠ .null →
        (∃ t, v = .ofText t) ∨ ∃ s, v = .blob s)
    (hform : ∀ m written, d.Completes o bindings request m (.blob []) →
      Marshalling.headerWrites request bindings = .ok written →
        ∀ e ∈ written ++ d.typeWrites o written, sameName e.1 "Content-Type" = true →
          Request.isFormType e.2 = false) :
    ∃ m written content, d.Completes o bindings request m (.blob content) ∧
      Marshalling.headerWrites request bindings = .ok written ∧
      r.headers.Follow (d.allWrites o written (.blob content)) ∧
      r.body = if Request.isChunked r.headers then [] else content := by
  obtain ⟨m, body, hcompletes, -⟩ := request_eq_ok.1 hr
  obtain ⟨content, rfl⟩ := hcompletes.body_bytes htext
  obtain ⟨written, bytes, hwrites, -, hsent, hbody⟩ := hcompletes.headers_sent hr
  set writes := d.allWrites o written (.blob content)
  have hlength : content ≠ [] → (Headers.write [] writes).contains "Content-Length" = true := by
    intro hne
    exact contains_length d o written (Marshalling.lengthWrites_blob hne)
  -- an empty body is a form without fields, which adds headers under the type of a form only
  have htype : content = [] → ∀ type, (Headers.write [] writes).get? "Content-Type" = some type →
      Request.isFormType type = false := by
    intro hempty type hget
    rw [Headers.get?_write] at hget
    obtain ⟨e, hlast, rfl⟩ : ∃ e, Headers.last? "Content-Type" writes = some e ∧ e.2 = type := by
      cases hlast : Headers.last? "Content-Type" writes with
      | none =>
        rw [hlast] at hget
        cases hget
      | some e =>
        rw [hlast] at hget
        exact ⟨e, rfl, Option.some.inj hget⟩
    obtain ⟨he, hname⟩ := Headers.mem_of_last? hlast
    exact hform m written (hempty ▸ hcompletes) hwrites e (mem_type_of_allWrites he hname) hname
  obtain ⟨rfl, hheaders⟩ := Request.bodyOf_bytes hlength htype hsent
  refine ⟨m, written, bytes, hcompletes, hwrites, ?_, hbody⟩
  rw [hheaders]
  exact Headers.follow_write writes

/-- A field of a map overwrites the header of another member, in its own spelling. -/
theorem headers_last_written_map :
    ∃ r, Dialect.request ⟨⟨"1.1", none, false, false, .root, []⟩, .json, []⟩
        ⟨.restJson, "/", "GET", none, false, false⟩
        [⟨.string, .header, "X-Id", none, false, none⟩,
          ⟨.map, .header, "x-", some "Meta", false, none⟩]
        (.map [(.text "X-Id", .text "a"),
          (.text "Meta", .map [(.text "ID", .text "b"), (.text "Note", .text "c")])])
        "https://localhost" (.withoutFiles "b") = .ok r ∧
      r.headers.Follow ([("X-Id", "a"), ("x-ID", "b"), ("x-Note", "c")] : Headers) ∧
      (("x-ID", "b") : Text × Text) ∈ r.headers ∧ (("X-Id", "a") : Text × Text) ∉ r.headers := by
  obtain ⟨m, hm, hbody, hquery, headers, hheaders⟩ : ∃ m,
      (Dialect.marshalling ⟨⟨"1.1", none, false, false, .root, []⟩, .json, []⟩
        ⟨.restJson, "/", "GET", none, false, false⟩ >>= Marshalling.addAll
          [⟨.string, .header, "X-Id", none, false, none⟩,
            ⟨.map, .header, "x-", some "Meta", false, none⟩]
          (.map [(.text "X-Id", .text "a"),
            (.text "Meta", .map [(.text "ID", .text "b"), (.text "Note", .text "c")])])) = .ok m ∧
      m.finishBody.1 = .ok (.blob []) ∧ m.query = [] ∧
      ∃ headers, m.finishBody.2.finishHeaders (.blob []) = .ok headers :=
    ⟨_, rfl, rfl, rfl, _, rfl⟩
  obtain ⟨r, hr⟩ := Completes.request_made ⟨hm, hbody⟩ (.withoutFiles "b") rfl hquery hheaders
    (.inl (.inl rfl))
  have hwrites : Marshalling.headerWrites
      (.map [(.text "X-Id", .text "a"),
        (.text "Meta", .map [(.text "ID", .text "b"), (.text "Note", .text "c")])])
      [⟨.string, .header, "X-Id", none, false, none⟩,
        ⟨.map, .header, "x-", some "Meta", false, none⟩] =
          .ok ([("X-Id", "a"), ("x-ID", "b"), ("x-Note", "c")] : Headers) := rfl
  have huntyped : ∀ e ∈ ([("X-Id", "a"), ("x-ID", "b"), ("x-Note", "c")] : Headers),
      ¬ sameName e.1 "Content-Type" = true := by decide
  obtain ⟨m', written, content, hcompletes, hwritten, hfollow, -⟩ := headers_last_written
    ⟨⟨"1.1", none, false, false, .root, []⟩, .json, []⟩ ⟨.restJson, "/", "GET", none, false, false⟩
    _ _ _ _ r hr (by simp) fun m' written _ hwritten e he hname => by
      obtain rfl := Except.ok.inj (hwritten.symm.trans hwrites)
      exact absurd hname (huntyped e he)
  obtain rfl := Except.ok.inj (hwritten.symm.trans hwrites)
  obtain ⟨rfl, hcontent⟩ := Completes.unique ⟨hm, hbody⟩ hcompletes
  cases hcontent
  refine ⟨r, hr, hfollow, (hfollow.mem_iff _).2 (by decide), fun hmem => ?_⟩
  have hlast := (hfollow.mem_iff _).1 hmem
  revert hlast
  decide

/-- An empty body that the client announces as a form has a length that nothing writes. -/
theorem headers_of_empty_form :
    ∃ m r, Dialect.Completes
        ⟨⟨"1.1", some "application/x-www-form-urlencoded", false, false, .root, []⟩, .json, []⟩
        ⟨.restJson, "/", "PUT", none, true, true⟩ [⟨.blob, .payload, "Body", none, true, none⟩]
        (.map [(.text "Body", .blob [])]) m (.blob []) ∧
      Marshalling.headerWrites (.map [(.text "Body", .blob [])])
        [⟨.blob, .payload, "Body", none, true, none⟩] = .ok [] ∧
      Dialect.request
        ⟨⟨"1.1", some "application/x-www-form-urlencoded", false, false, .root, []⟩, .json, []⟩
        ⟨.restJson, "/", "PUT", none, true, true⟩ [⟨.blob, .payload, "Body", none, true, none⟩]
        (.map [(.text "Body", .blob [])]) "https://localhost" (.withoutFiles "b") = .ok r ∧
      (("content-length", "0") : Text × Text) ∈ r.headers ∧
      ¬ r.headers.Follow (Dialect.allWrites
        ⟨⟨"1.1", some "application/x-www-form-urlencoded", false, false, .root, []⟩, .json, []⟩
        ⟨.restJson, "/", "PUT", none, true, true⟩ [] (.blob [])) := by
  obtain ⟨m, hcompletes, hquery, headers, hheaders⟩ : ∃ m, Dialect.Completes
      ⟨⟨"1.1", some "application/x-www-form-urlencoded", false, false, .root, []⟩, .json, []⟩
      ⟨.restJson, "/", "PUT", none, true, true⟩ [⟨.blob, .payload, "Body", none, true, none⟩]
      (.map [(.text "Body", .blob [])]) m (.blob []) ∧ m.query = [] ∧
      ∃ headers, m.finishBody.2.finishHeaders (.blob []) = .ok headers :=
    ⟨_, ⟨rfl, rfl⟩, rfl, _, rfl⟩
  obtain ⟨r, hr⟩ := hcompletes.request_made (.withoutFiles "b") rfl hquery hheaders
    (.inl (.inl rfl))
  obtain ⟨written, bytes, hwrites, -, hsent, -⟩ := hcompletes.headers_sent hr
  obtain rfl : written = [] := (Except.ok.inj hwrites).symm
  have htyped : (Headers.write [] (Dialect.allWrites
      ⟨⟨"1.1", some "application/x-www-form-urlencoded", false, false, .root, []⟩, .json, []⟩
      ⟨.restJson, "/", "PUT", none, true, true⟩ [] (.blob []))).get? "Content-Type" =
        some ("application/x-www-form-urlencoded" : Text) := by decide
  have hform := Request.bodyOf_empty_form (.withoutFiles "b") htyped (by decide)
    (by decide)
  have hadded : (("content-length", "0") : Text × Text) ∈ r.headers := by
    rw [(Prod.mk.inj (Except.ok.inj (hsent.symm.trans hform))).2]
    exact List.mem_append_right _ List.mem_cons_self
  refine ⟨m, r, hcompletes, rfl, hr, hadded, fun hfollow => ?_⟩
  -- nothing is written under the name of the length
  have hlast := (hfollow.mem_iff _).1 hadded
  revert hlast
  decide

end Dialect

end ServiceClient
