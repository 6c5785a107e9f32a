import ServiceClient.Proofs.RequestHeaders

/-!
# The length that a request announces

The length of a body is written behind the headers of members, so that the length of bytes is
announced as it is. No length is written for a body that is sent as nothing: what a member has
announced stays there, and a form in parts without fields, which is not empty, announces its own
length where none has. A body in chunks is not read, and the fields of a form are counted and not
their text.

* `Request.LengthIsRight`: the lengths that a request announces are that of its body.
* `Form.Sent.untyped`: what a form adds behind a length that is there.
* `Dialect.length_right_of_form`: when the length of a form without fields is right.
* `Dialect.length_right_iff`: when the length that is announced is right.
* `Dialect.length_of_nothing`: a length that a member announces for no body.
-/

namespace ServiceClient

/-- Different numbers have different texts. -/
theorem lengthText_inj {n k : Nat} : (toString n : Text) = toString k ↔ n = k := by
  rw [Text.ofString_inj]
  constructor
  · intro h
    have hdigits : (toString n).toList = (toString k).toList := by rw [h]
    rw [toList_toString, toList_toString] at hdigits
    exact toDigits_injective hdigits
  · intro h
    rw [h]

/-- The lengths that a request announces, however their name is spelled, are that of its body. -/
def Request.LengthIsRight (r : Request) : Prop :=
  ∀ e ∈ r.headers, sameName e.1 "Content-Length" = true → e.2 = toString r.body.length

/-- Behind a length that is there, a form has a type of its own at most. -/
theorem Form.Sent.untyped {parts : Multipart} {entries : List (Value × Value)} {headers : Headers}
    {sent : Bytes × Headers} (h : Form.Sent parts entries headers sent)
    (hlength : headers.contains "Content-Length" = true) :
    ∃ added, sent.2 = headers ++ added ∧ ∀ e ∈ added, e.1 = "content-type" := by
  have htyped : ∀ (n : Nat) (type : String), ∃ added,
      Form.withType type (Form.withLength n headers) = headers ++ added ∧
        ∀ e ∈ added, e.1 = "content-type" := by
    intro n type
    obtain ⟨added, hadded, hown⟩ := Form.withType_eq type headers
    rw [Form.withLength_of_contains hlength]
    exact ⟨added, hadded, fun e he => congrArg Prod.fst (hown e he)⟩
  cases h with
  | parts => exact htyped _ _
  | url => exact htyped _ _
  | nothing => exact ⟨[], (List.append_nil _).symm, List.forall_mem_nil _⟩

namespace Dialect

variable {d : Dialect} {o : Operation} {bindings : List Binding} {request : Value}
  {m : Marshalling} {body : Value} {parts : Multipart} {r : Request} {written : Headers}

/-- The last length is that of the body, and else that of a member. -/
theorem last?_length (d : Dialect) (o : Operation) (written : Headers) (body : Value) :
    Headers.last? "Content-Length" (d.allWrites o written body) =
      (Headers.last? "Content-Length" (Marshalling.lengthWrites body)).or
        (Headers.last? "Content-Length" written) := by
  have htype : Headers.last? "Content-Length" (d.typeWrites o written) = none := by
    refine Headers.last?_of_forall fun e he => ?_
    rw [name_typeWrites he]
    decide
  have htarget : Headers.last? "Content-Length" o.targetWrites = none := by
    refine Headers.last?_of_forall fun e he => ?_
    rw [Operation.name_targetWrites he]
    decide
  unfold allWrites
  rw [Headers.last?_append, Headers.last?_append, Headers.last?_append, htype, htarget,
    Option.none_or, Option.none_or]

/-- A request with the headers that are written, and others that are no length, is right about its
length exactly if the last length that is written is. -/
theorem length_right_of_headers {added : Headers}
    (hheaders : r.headers = Headers.write [] (d.allWrites o written body) ++ added)
    (hadded : ∀ e ∈ added, sameName e.1 "Content-Length" = false) :
    r.LengthIsRight ↔ ∀ e, (Headers.last? "Content-Length" (Marshalling.lengthWrites body)).or
      (Headers.last? "Content-Length" written) = some e → e.2 = toString r.body.length := by
  have hfollow := Headers.follow_write (d.allWrites o written body)
  rw [← last?_length d o written body,
    ← hfollow.forall_iff "Content-Length" fun e => e.2 = toString r.body.length]
  unfold Request.LengthIsRight
  rw [hheaders, List.forall_mem_append]
  refine ⟨fun h => h.1, fun h => ⟨h, fun e he hname => ?_⟩⟩
  rw [hadded e he] at hname
  cases hname

/-- Bytes are announced as they are, unless they are not read. -/
theorem length_right_bytes {content : Bytes} (hne : content ≠ [])
    (hheaders : r.headers = Headers.write [] (d.allWrites o written (.blob content)))
    (hbody : r.body = if Request.isChunked r.headers then [] else content) :
    r.LengthIsRight ↔ Request.isChunked r.headers = false := by
  have hlast : Headers.last? "Content-Length" (Marshalling.lengthWrites (.blob content)) =
      some (("Content-Length" : Text), (toString content.length : Text)) := by
    rw [Marshalling.lengthWrites_blob hne]
    exact Headers.last?_singleton _ _
  rw [← List.append_nil (Headers.write _ _)] at hheaders
  rw [length_right_of_headers hheaders (List.forall_mem_nil _), hlast, Option.some_or]
  cases hchunked : Request.isChunked r.headers with
  | false =>
    rw [hchunked, if_neg (by decide)] at hbody
    refine ⟨fun _ => rfl, fun _ e he => ?_⟩
    rw [← Option.some.inj he, hbody]
  | true =>
    rw [hchunked, if_pos rfl] at hbody
    refine ⟨fun hright => ?_, fun h => (by cases h)⟩
    have hsame := lengthText_inj.1 (hright _ rfl)
    rw [hbody, List.length_nil] at hsame
    exact absurd (List.length_eq_zero_iff.1 hsame) hne

/-- A form without fields announces the last length that is written, or else its own. -/
theorem length_right_of_form {n : Nat} {type : String} (hfalsy : body.isFalsy = true)
    (hheaders : r.headers = Form.withType type
      (Form.withLength n (Headers.write [] (d.allWrites o written body)))) :
    r.LengthIsRight ↔
      (∀ e, Headers.last? "Content-Length" written = some e → e.2 = toString r.body.length) ∧
        (Headers.last? "Content-Length" written = none → n = r.body.length) := by
  have hwrites : Marshalling.lengthWrites body = [] := if_pos hfalsy
  have hwritten : (Headers.last? "Content-Length" written).isSome =
      (Headers.write [] (d.allWrites o written body)).contains "Content-Length" := by
    rw [Headers.contains_write, ← Headers.last?_isSome, last?_length, hwrites]
    exact (Bool.or_false _).symm
  obtain ⟨typed, htyped, htype⟩ := Form.withType_eq type
    (Form.withLength n (Headers.write [] (d.allWrites o written body)))
  rw [htyped] at hheaders
  have hnamed : ∀ e ∈ typed, sameName e.1 "Content-Length" = false := by
    intro e he
    rw [htype e he]
    exact (show sameName "content-type" "Content-Length" = false by decide)
  cases hthere : (Headers.write [] (d.allWrites o written body)).contains "Content-Length" with
  | true =>
    rw [Form.withLength_of_contains hthere] at hheaders
    rw [length_right_of_headers hheaders hnamed, hwrites]
    refine ⟨fun hright => ⟨hright, fun hnone => ?_⟩, fun hright => hright.1⟩
    rw [hthere, hnone] at hwritten
    cases hwritten
  | false =>
    -- the only length is that of the form
    rw [hthere, Option.isSome_eq_false_iff, Option.isNone_iff_eq_none] at hwritten
    rw [Form.withLength, Headers.contains_length, hthere, if_neg (by decide)] at hheaders
    have hfree : ∀ e ∈ Headers.write [] (d.allWrites o written body),
        sameName e.1 "Content-Length" = false := by
      intro e he
      exact Bool.eq_false_iff.2 (List.any_eq_false.1 hthere e he)
    have hright : r.LengthIsRight ↔ (toString n : Text) = toString r.body.length := by
      unfold Request.LengthIsRight
      rw [hheaders, List.forall_mem_append, List.forall_mem_append, List.forall_mem_singleton]
      constructor
      · have hname : sameName "content-length" "Content-Length" = true := by decide
        exact fun hall => hall.1.2 hname
      · intro hsame
        refine ⟨⟨fun e he hname => ?_, fun _ => hsame⟩, fun e he hname => ?_⟩
        · rw [hfree e he] at hname
          cases hname
        · rw [hnamed e he] at hname
          cases hname
    rw [hright, lengthText_inj, hwritten]
    exact ⟨fun hsame => ⟨fun e he => (by cases he), fun _ => hsame⟩, fun hboth => hboth.2 rfl⟩

/-- Nothing is announced as it is, unless a member announces something, or the body of a form in
parts is not read. -/
theorem length_right_falsy {bytes : Bytes} (hfalsy : body.isFalsy = true)
    (hsent : Request.bodyOf parts body (Headers.write [] (d.allWrites o written body)) =
      .ok (bytes, r.headers))
    (hbody : r.body = if Request.isChunked r.headers then [] else bytes) :
    (¬ r.IsInParts → r.body = []) ∧ (r.LengthIsRight ↔
      (∀ e, Headers.last? "Content-Length" written = some e → e.2 = toString r.body.length) ∧
        (r.IsInParts → Headers.last? "Content-Length" written = none →
          Request.isChunked r.headers = true → parts.emptyBody = [])) := by
  rw [Request.bodyOf_of_falsy hfalsy] at hsent
  have hsent := (Form.write_eq_ok.1 hsent).2
  have hinParts : Form.mediaType [] (Headers.write [] (d.allWrites o written body)) =
      Form.partsType ↔ r.IsInParts := hsent.inParts_iff
  generalize hheaders : r.headers = headers at hsent hbody ⊢
  -- the three ways to send a form without fields
  cases hsent with
  | parts htype hbytes =>
    obtain rfl : parts.emptyBody = bytes := Except.ok.inj (parts.body_nil.symm.trans hbytes)
    rw [length_right_of_form hfalsy hheaders]
    refine ⟨fun hno => absurd (hinParts.1 htype) hno, and_congr_right fun _ => ?_⟩
    rw [hbody]
    cases Request.isChunked _ with
    | true =>
      rw [if_pos rfl, List.length_nil, List.length_eq_zero_iff]
      exact ⟨fun h _ hnone _ => h hnone, fun h hnone => h (hinParts.1 htype) hnone rfl⟩
    | false => exact ⟨fun _ _ _ hchunked => (by cases hchunked), fun _ _ => rfl⟩
  | url htype hbytes =>
    obtain rfl : [] = bytes := Except.ok.inj hbytes
    have hnothing : r.body = [] := by rw [hbody, ite_self]
    have hno : ¬ r.IsInParts := fun h =>
      Form.partsType_ne ((hinParts.2 h).symm.trans htype)
    rw [length_right_of_form hfalsy hheaders, hnothing]
    exact ⟨fun _ => rfl, and_congr_right fun _ => ⟨fun _ h => absurd h hno, fun _ _ => rfl⟩⟩
  | nothing hparts hurl =>
    have hnothing : r.body = [] := by rw [hbody, ite_self]
    have hno : ¬ r.IsInParts := fun h => hparts (hinParts.2 h)
    have hwrites : Marshalling.lengthWrites body = [] := if_pos hfalsy
    rw [← List.append_nil (Headers.write _ _)] at hheaders
    rw [length_right_of_headers hheaders (List.forall_mem_nil _), hwrites, hnothing]
    exact ⟨fun _ => rfl, fun h => ⟨h, fun h => absurd h hno⟩, fun h => h.1⟩

/-- Fields are announced by their number. -/
theorem length_right_map {fields : Fields} {bytes : Bytes} (hne : fields ≠ [])
    (hsent : Request.bodyOf parts (.map fields)
      (Headers.write [] (d.allWrites o written (.map fields))) = .ok (bytes, r.headers)) :
    r.LengthIsRight ↔ r.body.length = fields.length := by
  have hwrites : Marshalling.lengthWrites (.map fields) =
      [(("Content-Length" : Text), (toString fields.length : Text))] :=
    if_neg fun h => hne (List.isEmpty_iff.1 h)
  have hlast : Headers.last? "Content-Length" (Marshalling.lengthWrites (.map fields)) =
      some (("Content-Length" : Text), (toString fields.length : Text)) := by
    rw [hwrites]
    exact Headers.last?_singleton _ _
  have hlength := contains_length d o written hwrites
  rw [Request.bodyOf_map] at hsent
  obtain ⟨added, hheaders, hadded⟩ := (Form.write_eq_ok.1 hsent).2.untyped hlength
  have hnamed : ∀ e ∈ added, sameName e.1 "Content-Length" = false := by
    intro e he
    rw [hadded e he]
    decide
  rw [length_right_of_headers hheaders hnamed, hlast, Option.some_or]
  constructor
  · intro hright
    exact (lengthText_inj.1 (hright _ rfl)).symm
  · intro hsame e he
    rw [← Option.some.inj he, hsame]

/-- A body is no text: members give their text as bytes. -/
theorem Completes.toBytes_body (h : d.Completes o bindings request m body) :
    toBytes .utf8 .refuse body = .ok body := by
  refine toBytes_eq_ok.2 (.inr ⟨?_, rfl⟩)
  rcases Marshalling.finishBody_body h.complete with hmember | ⟨-, t, rfl, -⟩
  · obtain ⟨b, -, v, -, hput⟩ := h.bodyOf hmember
    rcases hput.cases with ⟨t, rfl⟩ | ⟨-, -, hnotext⟩
    · rfl
    · exact hnotext
  · rfl

/-- **When the length that a request announces is right.** The body of a request is bytes, nothing
or fields. Bytes are announced as they are, unless the headers announce chunks, which are not read.
For a body that is sent as nothing the last length that a member has written stays, and is right if
it is that of the body: zero, unless the body is a form in parts without fields. Such a form
announces itself where no member does, which is wrong only if it is not read. Fields are announced
by their number, which is right if their text happens to be as long. -/
theorem length_right_iff (d : Dialect) (o : Operation) (bindings : List Binding) (request : Value)
    (endpoint : String) (parts : Multipart) (r : Request)
    (hr : d.request o bindings request endpoint parts = .ok r) :
    ∃ m body written, d.Completes o bindings request m body ∧
      Marshalling.headerWrites request bindings = .ok written ∧
      ((∃ content, body = .blob content ∧ content ≠ [] ∧
          r.body = (if Request.isChunked r.headers then [] else content) ∧
          (r.LengthIsRight ↔ Request.isChunked r.headers = false)) ∨
        (body.isFalsy = true ∧ (¬ r.IsInParts → r.body = []) ∧ (r.LengthIsRight ↔
          (∀ e, Headers.last? "Content-Length" written = some e → e.2 = toString r.body.length) ∧
            (r.IsInParts → Headers.last? "Content-Length" written = none →
              Request.isChunked r.headers = true → parts.emptyBody = []))) ∨
        ∃ fields, body = .map fields ∧ fields ≠ [] ∧
          (r.LengthIsRight ↔ r.body.length = fields.length)) := by
  obtain ⟨m, body, hcompletes, -⟩ := request_eq_ok.1 hr
  obtain ⟨written, bytes, hwrites, -, hsent, hbody⟩ := hcompletes.headers_sent hr
  rw [hcompletes.toBytes_body] at hsent
  have hsent : Request.bodyOf parts body (Headers.write [] (d.allWrites o written body)) =
    .ok (bytes, r.headers) := hsent
  refine ⟨m, body, written, hcompletes, hwrites, ?_⟩
  by_cases hfalsy : body.isFalsy = true
  · exact .inr (.inl ⟨hfalsy, length_right_falsy hfalsy hsent hbody⟩)
  · rcases Request.bodyOf_exists.1 ⟨_, hsent⟩ with (hnothing | ⟨content, rfl⟩) | ⟨fields, rfl, -⟩
    · exact absurd hnothing hfalsy
    · -- a length is written, so that the request adds none of its own
      have hne : content ≠ [] := by
        rintro rfl
        exact hfalsy rfl
      have hlength := contains_length d o written (Marshalling.lengthWrites_blob hne)
      obtain ⟨rfl, hheaders⟩ :=
        Request.bodyOf_bytes (fun _ => hlength) (fun h => absurd h hne) hsent
      exact .inl ⟨bytes, rfl, hne, hbody, length_right_bytes hne hheaders hbody⟩
    · have hne : fields ≠ [] := by
        rintro rfl
        exact hfalsy rfl
      exact .inr (.inr ⟨fields, rfl, hne, length_right_map hne hsent⟩)

/-- A member cannot announce another length for a body that is there. -/
theorem length_right_iff_payload :
    ∃ r, Dialect.request ⟨⟨"1.1", none, false, false, .root, []⟩, .json, []⟩
        ⟨.restJson, "/", "PUT", none, true, true⟩
        [⟨.string, .header, "content-length", some "H", false, none⟩,
          ⟨.blob, .payload, "Body", none, true, none⟩]
        (.map [(.text "H", .text "99"), (.text "Body", .blob [1, 2, 3])]) "https://localhost"
          (.withoutFiles "b") = .ok r ∧
      r.LengthIsRight ∧ r.body = [1, 2, 3] ∧
        (("Content-Length", "3") : Text × Text) ∈ r.headers := by
  obtain ⟨m, hcompletes, hquery, headers, hheaders⟩ : ∃ m, Dialect.Completes
      ⟨⟨"1.1", none, false, false, .root, []⟩, .json, []⟩ ⟨.restJson, "/", "PUT", none, true, true⟩
      [⟨.string, .header, "content-length", some "H", false, none⟩,
        ⟨.blob, .payload, "Body", none, true, none⟩]
      (.map [(.text "H", .text "99"), (.text "Body", .blob [1, 2, 3])]) m (.blob [1, 2, 3]) ∧
      m.query = [] ∧ ∃ headers, m.finishBody.2.finishHeaders (.blob [1, 2, 3]) = .ok headers :=
    ⟨_, ⟨rfl, rfl⟩, rfl, _, rfl⟩
  obtain ⟨r, hr⟩ := hcompletes.request_made (.withoutFiles "b") rfl hquery hheaders
    (.inl (.inr (.inr ⟨_, rfl⟩)))
  obtain ⟨written, bytes, hwrites, -, hsent, hbody⟩ := hcompletes.headers_sent hr
  obtain rfl := Except.ok.inj hwrites
  obtain ⟨rfl, hsame⟩ : [1, 2, 3] = bytes ∧ ([("Content-Length", "3"),
      ("Content-Type", "application/x-amz-json-1.1")] : Headers) = r.headers :=
    Prod.mk.inj (Except.ok.inj hsent)
  have hwhole : Request.isChunked r.headers = false := by
    rw [← hsame]
    decide
  obtain ⟨m', body, written, hcompletes', -, hright⟩ := length_right_iff _ _ _ _ _ _ r hr
  obtain ⟨-, rfl⟩ := hcompletes.unique hcompletes'
  rw [hwhole, if_neg (by decide)] at hbody
  rcases hright with ⟨-, -, -, -, hright⟩ | ⟨hfalsy, -⟩ | ⟨fields, hfields, -⟩
  · exact ⟨r, hr, hright.2 hwhole, hbody, by rw [← hsame]; exact List.mem_cons_self⟩
  · cases hfalsy
  · cases hfields

/-- A length that a member announces stays with no body behind it. -/
theorem length_of_nothing :
    ∃ r, Dialect.request ⟨⟨"1.1", none, false, false, .root, []⟩, .json, []⟩
        ⟨.restJson, "/", "GET", none, false, false⟩
        [⟨.string, .header, "Content-Length", some "H", false, none⟩]
        (.map [(.text "H", .text "99")]) "https://localhost" (.withoutFiles "b") = .ok r ∧
      r.body = [] ∧ (("Content-Length", "99") : Text × Text) ∈ r.headers ∧
        ¬ r.LengthIsRight := by
  obtain ⟨m, hcompletes, hquery, headers, hheaders⟩ : ∃ m, Dialect.Completes
      ⟨⟨"1.1", none, false, false, .root, []⟩, .json, []⟩
      ⟨.restJson, "/", "GET", none, false, false⟩
      [⟨.string, .header, "Content-Length", some "H", false, none⟩]
      (.map [(.text "H", .text "99")]) m (.blob []) ∧ m.query = [] ∧
      ∃ headers, m.finishBody.2.finishHeaders (.blob []) = .ok headers :=
    ⟨_, ⟨rfl, rfl⟩, rfl, _, rfl⟩
  obtain ⟨r, hr⟩ := hcompletes.request_made (.withoutFiles "b") rfl hquery hheaders
    (.inl (.inl rfl))
  obtain ⟨written, bytes, hwrites, -, hsent, hbody⟩ := hcompletes.headers_sent hr
  obtain rfl := Except.ok.inj hwrites
  obtain ⟨rfl, hsame⟩ : [] = bytes ∧ ([("Content-Length", "99")] : Headers) = r.headers :=
    Prod.mk.inj (Except.ok.inj hsent)
  have hnothing : r.body = [] := by rw [hbody, ite_self]
  have hmember : (("Content-Length", "99") : Text × Text) ∈ r.headers := by
    rw [← hsame]
    exact List.mem_cons_self
  refine ⟨r, hr, hnothing, hmember, fun h => ?_⟩
  have hzero := h _ hmember (by decide)
  rw [hnothing] at hzero
  revert hzero
  decide

end Dialect

end ServiceClient
