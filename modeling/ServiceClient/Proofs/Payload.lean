import Mathlib.Tactic.Set
import ServiceClient.Proofs.Areas
import ServiceClient.Proofs.NormalForm
import ServiceClient.Proofs.Requests
import ServiceClient.Service.Reply

/-!
# Members that become fields of the body

An operation whose members all go into the document of the body, in any encoding.

* `Binding.document`: the document that the members stand for.
* `marshalling_fields`: adding the members writes these fields.
* `finish_fields`: the request has the document of the fields as its body, and is made exactly if
  its headers have no line breaks and the operation has an address.
-/

namespace ServiceClient

namespace Binding

/-- A member that becomes a field of the body, with its value as it is. -/
def IsField (b : Binding) : Prop :=
  b.location = .payload ∧ b.isBody = false ∧ b.type ≠ .jsonValue

/-- The values of members under the names of their fields. -/
def fieldsOf (bindings : List Binding) (request : Fields) : List (Text × Value) :=
  bindings.map fun b => (b.name, b.valueIn request)

/-- Members with different names have fields with different names. -/
theorem nodup_fieldsOf {bindings : List Binding} (hd : (bindings.map (·.name)).Nodup)
    (request : Fields) : ((fieldsOf bindings request).map (·.1)).Nodup := by
  have hnames : (fieldsOf bindings request).map (·.1) =
      (bindings.map (·.name)).map Text.ofString := by
    rw [fieldsOf, List.map_map, List.map_map]
    rfl
  rw [hnames]
  exact hd.map fun _ _ => Text.ofString_injective

/-- The map of these fields is plain if their values are, and no two have one name. -/
theorem plain_fieldsOf {scalar : Value → Prop} {bindings : List Binding} {request : Fields}
    (hd : (bindings.map (·.name)).Nodup) (hs : ∀ s, scalar (.text s))
    (hv : ∀ b ∈ bindings, (b.valueIn request).Plain scalar) :
    Value.Plain scalar (.map (Fields.named (fieldsOf bindings request))) := by
  refine .map (nodup_fieldsOf hd request) (fun p hp => ?_) fun p hp => ?_
  · obtain ⟨b, -, rfl⟩ := List.mem_map.1 hp
    rw [Value.ofText_ofString]
    exact hs b.name
  · obtain ⟨b, hb, rfl⟩ := List.mem_map.1 hp
    exact hv b hb

/-- The field of a member that is set: its value in normal form, under its name. -/
def fieldIn (convert : Value → Value) (request : Fields) (b : Binding) : Option (Value × Value) :=
  match b.valueIn request with
  | .null => none
  | v => some (.text b.name, v.normalForm convert)

/-- The document of the members that are set, in the order of their bindings. -/
def document (convert : Value → Value) (bindings : List Binding) (request : Fields) : Value :=
  .map (bindings.filterMap (fieldIn convert request))

/-- The document is the normal form of the fields. -/
theorem document_eq (convert : Value → Value) (bindings : List Binding) (request : Fields) :
    document convert bindings request =
      .map (Value.normalFields convert (Fields.named (fieldsOf bindings request))) := by
  rw [document]
  congr 1
  induction bindings with
  | nil => rfl
  | cons b rest ih =>
    have hfields : Fields.named (fieldsOf (b :: rest) request) =
        (.text b.name, b.valueIn request) :: Fields.named (fieldsOf rest request) := by
      rw [fieldsOf, List.map_cons, Fields.named_cons, Value.ofText_ofString]
      rfl
    rw [hfields]
    by_cases hv : b.valueIn request = .null
    · have hnone : fieldIn convert request b = none := by rw [fieldIn, hv]
      rw [List.filterMap_cons_none hnone, hv, Value.normalFields_null, ih]
    · have hsome : fieldIn convert request b =
          some (.text b.name, (b.valueIn request).normalForm convert) := by
        unfold fieldIn
        split
        · rename_i hn; exact absurd hn hv
        · rfl
      rw [List.filterMap_cons_some hsome, Value.normalFields_cons hv, ih]

end Binding

/-- A member that is set is read from the document as what its encoding decodes. -/
theorem Reply.blob_of_document (encoding : Encoding) {request : Fields} {bindings : List Binding}
    (hd : (bindings.map (·.name)).Nodup) {b : Binding} (hb : b ∈ bindings)
    (hset : b.valueIn request ≠ .null) (response : Response) :
    Reply.blob ⟨Binding.document encoding.convert bindings request, response, encoding⟩ b.name =
      encoding.decodeBlob encoding.origin ((b.valueIn request).normalForm encoding.convert) := by
  have hnames := Binding.nodup_fieldsOf hd request
  have hmem : (Text.ofString b.name, b.valueIn request) ∈ Binding.fieldsOf bindings request :=
    List.mem_map.2 ⟨b, hb, rfl⟩
  have hlookup : (Value.normalPairs encoding.convert (Binding.fieldsOf bindings request)).lookup
      (Text.ofString b.name) = some ((b.valueIn request).normalForm encoding.convert) :=
    Value.lookup_normalPairs hnames hmem hset
  rw [Binding.document_eq, Value.normalFields_named, Reply.blob]
  show encoding.decodeBlob _ ((Fields.get? (.text b.name) (Fields.named _)).getD .null) = _
  rw [← Value.ofText_ofString, Fields.get?_named, hlookup]
  rfl

namespace Document

variable {convert : Value → Value}

/-- A series of calls that succeeds does so in two parts. -/
theorem run_append_eq_ok {a b : List Call} {d e : Document} :
    run convert (a ++ b) d = .ok e ↔ ∃ f, run convert a d = .ok f ∧ run convert b f = .ok e := by
  rw [run_append, bind_eq_ok]

end Document

namespace Marshalling

variable {encoding : Encoding} {m : Marshalling}

/-- A member that is set contributes its name and its value. -/
theorem contributionOf_field {b : Binding} (hb : b.IsField) {v : Value} (hv : v ≠ .null) :
    m.contributionOf b v =
      ⟨[.call (.fieldName (.text b.name)), .call (.value v)], none⟩ := by
  obtain ⟨type, location, name, key, isBody, format⟩ := b
  obtain ⟨hloc, hbody, htype⟩ := hb
  cases hloc
  cases hbody
  cases type with
  | jsonValue => exact absurd rfl htype
  | _ => cases v <;> first | exact absurd rfl hv | rfl

/-- A member that is set is written as a field. -/
theorem add_field {b : Binding} (hb : b.IsField) {v : Value} (hv : v ≠ .null)
    (ht : v.hasTextKeys) {d e : Document} (hw : m.writer = .document encoding d)
    (hrun : d.run encoding.convert (.fieldName (.text b.name) :: (Tree.ofValue v).calls) = .ok e) :
    m.add b v = (.ok (), { m with writer := .document encoding e }) := by
  obtain ⟨f, hname, hvalue⟩ := bind_eq_ok.1 hrun
  have hwrite : f.perform encoding.convert (.value v) = .ok e := by
    rw [Document.perform, Document.write_eq_run v f ht, hvalue]
  rw [add, contributionOf_field hb hv, contribute]
  simp only [putAll, put, call, hw, BodyWriter.perform, hname, hwrite]

/-- **Adding members writes their fields**, one by one. -/
theorem addMembers_fields {request : Fields} {bindings : List Binding}
    (hb : ∀ b ∈ bindings, b.IsField) (ht : ∀ b ∈ bindings, (b.valueIn request).hasTextKeys)
    {m : Marshalling} {d e : Document} (hw : m.writer = .document encoding d)
    (hrun : d.run encoding.convert (Tree.fieldCalls
      (Tree.ofFields (Fields.named (Binding.fieldsOf bindings request)))) = .ok e) :
    addMembers bindings (.map request) m = .ok { m with writer := .document encoding e } := by
  -- the document of the writer is the one that the fields so far have led to
  induction bindings generalizing m d with
  | nil =>
    have he : d = e := Except.ok.inj hrun
    rw [addMembers, ← he, ← hw]
  | cons b rest ih =>
    rw [List.forall_mem_cons] at hb ht
    rw [Binding.fieldsOf, List.map_cons, Fields.named_cons] at hrun
    by_cases hv : b.valueIn request = .null
    · rw [hv, Tree.ofFields_null] at hrun
      exact addMembers_cons.2 ⟨m, by rw [hv, add_unset hb.1.2.1], ih hb.2 ht.2 hw hrun⟩
    · rw [Tree.ofFields_text hv, Tree.fieldCalls, ← List.cons_append,
        Value.ofText_ofString, Document.run_append_eq_ok] at hrun
      obtain ⟨f, hfield, hrest⟩ := hrun
      exact addMembers_cons.2 ⟨_, add_field hb.1 hv ht.1 hw hfield, ih hb.2 ht.2 rfl hrest⟩

/-- A marshalling of an operation with the fields of its body written, and no other part. -/
def ofFields (o : Operation) (type : String) (empty : EmptyBody) (encoding : Encoding)
    (fields : Fields) : Marshalling :=
  .new o (some type) empty (.document encoding ⟨none, [(none, .object fields)], none⟩)

end Marshalling

/-- A marshalling starts with an open document. -/
theorem Dialect.marshalling_eq (d : Dialect) {o : Operation} (hgate : o.protocol ≠ .apiGateway)
    (hbody : o.hasBodyMember = false) (hpayload : o.hasPayload = true ∨ o.protocol = .awsJson) :
    ∃ empty, d.marshalling o = .ok (.ofFields o d.contentType empty d.encoding []) := by
  have hempty : o.emptyBody = .ok (if o.hasPayload then .emptyDocument else .nothing) := by
    rw [Operation.emptyBody, if_neg hgate]
  have hwriter : d.writer o = .new d.encoding := by
    rw [Dialect.writer, if_pos]
    rcases hpayload with h | h <;> simp [h]
  refine ⟨if o.hasPayload then .emptyDocument else .nothing,
    Dialect.marshalling_eq_ok.2 ⟨_, hempty, ?_⟩⟩
  rw [hwriter, Marshalling.ofFields]
  generalize (if o.hasPayload then EmptyBody.emptyDocument else .nothing) = empty
  have hstart : (Marshalling.new o (some d.contentType) empty (.new d.encoding)).start =
      (Marshalling.new o (some d.contentType) empty (.new d.encoding)).call .startObject := by
    rw [Marshalling.start, Marshalling.new, hbody]; rfl
  rw [hstart]; rfl

/-- **A marshalling of fields** succeeds, with the normal forms of the members that are set. -/
theorem Dialect.marshalling_fields (d : Dialect) {o : Operation} (hgate : o.protocol ≠ .apiGateway)
    (hbody : o.hasBodyMember = false) (hpayload : o.hasPayload = true ∨ o.protocol = .awsJson)
    {request : Fields} {bindings : List Binding} (hb : ∀ b ∈ bindings, b.IsField)
    (hd : (bindings.map (·.name)).Nodup) {scalar : Value → Prop} (hs : ∀ s, scalar (.text s))
    (hv : ∀ b ∈ bindings, (b.valueIn request).Plain scalar) :
    ∃ empty, (d.marshalling o >>= Marshalling.addAll bindings (.map request)) =
      .ok (.ofFields o d.contentType empty d.encoding (Value.normalFields d.encoding.convert
        (Fields.named (Binding.fieldsOf bindings request)))) := by
  obtain ⟨empty, hm⟩ := d.marshalling_eq hgate hbody hpayload
  have hplain := Binding.plain_fieldsOf hd hs hv
  have hvalue : Fields.ofPairs (Fields.named (Tree.fieldValues d.encoding.convert
      (Tree.ofFields (Fields.named (Binding.fieldsOf bindings request))))) =
        Value.normalFields d.encoding.convert
          (Fields.named (Binding.fieldsOf bindings request)) := by
    have : (Tree.ofValue _).value d.encoding.convert = _ := Tree.value_ofValue hplain
    rw [Tree.ofValue, Tree.value, Value.normalForm] at this
    rw [Fields.ofPairs_named]
    exact Value.map.inj this
  have hrun : Document.run d.encoding.convert _ ⟨none, [(none, .object [])], none⟩ = .ok _ :=
    Document.run_fieldCalls (Tree.ofFields (Fields.named (Binding.fieldsOf bindings request)))
      rfl rfl
  have hadd := Marshalling.addMembers_fields hb (fun b hm => (hv b hm).hasTextKeys)
    (m := .ofFields o d.contentType empty d.encoding []) rfl hrun
  refine ⟨empty, ?_⟩
  rw [hm]
  show (Marshalling.addMembers bindings (.map request) _).mapError Failure.marshalling = _
  rw [hadd, ← hvalue]
  rfl

namespace PathTemplate

/-- A path without placeholders consists of its characters. -/
theorem ofChars_of_literal : ∀ (s : List Char), (∀ name, .parameter name ∉ ofChars s) →
    ofChars s = s.map .literal := by
  intro s
  induction s using ofChars.induct with
  | case1 => intro _; rw [ofChars]; rfl
  | case2 rest name after hp ih =>
    intro h
    rw [ofChars, if_pos rfl] at h
    split at h
    · exact absurd List.mem_cons_self (h _)
    · rename_i hn
      rw [hp] at hn; cases hn
  | case3 rest hp ih =>
    intro h
    have he : ofChars ('{' :: rest) = .literal '{' :: ofChars rest := by
      rw [ofChars, if_pos rfl]
      split
      · rename_i hn; rw [hp] at hn; cases hn
      · rfl
    rw [he] at h ⊢
    rw [List.map_cons, ih fun name hm => h name (List.mem_cons_of_mem _ hm)]
  | case4 c rest hc ih =>
    intro h
    rw [ofChars, if_neg hc] at h ⊢
    rw [List.map_cons, ih fun name hm => h name (List.mem_cons_of_mem _ hm)]

theorem expand_literal (s : List Char) (parameters : List (String × String)) :
    expand (s.map .literal) parameters = .ok (String.ofList s) := by
  have hchars : expandChars parameters (s.map .literal) = .ok s := by
    induction s with
    | nil => rfl
    | cons c s ih => rw [List.map_cons, expandChars, ih]; rfl
  rw [expand, hchars]; rfl

end PathTemplate

namespace Marshalling

end Marshalling

namespace Operation

/-- A header that is left out if it is empty. -/
def headerUnlessEmpty (name value : String) : Headers :=
  if value.isEmpty then [] else [(name, value)]

/-- The headers of a body of some length, of its type and of the operation. -/
def payloadHeaders (o : Operation) (type : String) (length : Nat) : Headers :=
  ("Content-Length", toString length) ::
    (headerUnlessEmpty "Content-Type" type ++ headerUnlessEmpty "X-Amz-Target" o.target)

end Operation

/-- Bytes are sent unless there are none. -/
theorem Value.isFalsy_blob {bytes : Bytes} (hne : bytes ≠ []) :
    (Value.blob bytes).isFalsy = false := by
  cases bytes with
  | nil => exact absurd rfl hne
  | cons => rfl

namespace Marshalling

/-- A payload has the headers of a payload. -/
theorem finishHeaders_eq_ok {m : Marshalling} {type : String} {bytes : Bytes} {h : Headers}
    (hm : m.headers = []) (hc : m.contentType = some type) (hs : m.writer.isSilent = false)
    (hne : bytes ≠ []) :
    m.finishHeaders (.blob bytes) = .ok h ↔ Headers.isValue type = true ∧
      Headers.isValue m.operation.target = true ∧
        h = m.operation.payloadHeaders type bytes.length := by
  have hfalsy := Value.isFalsy_blob hne
  have hlength : m.lengthHeader (.blob bytes) =
      .ok [("Content-Length", toString bytes.length)] := by
    unfold lengthHeader
    rw [if_neg (by rw [hfalsy]; decide), hm]
    exact Headers.set_eq_ok.2 ⟨Headers.isValue_toString _, rfl⟩
  -- the type and the target go last, each unless it is empty
  have htype : ∀ g, m.typeHeader [("Content-Length", toString bytes.length)] = .ok g ↔
      Headers.isValue type = true ∧
        g = (Text.ofString "Content-Length", Text.ofString (toString bytes.length)) ::
          Operation.headerUnlessEmpty "Content-Type" type := by
    intro g
    have hnot : Headers.contains "Content-Type" [("Content-Length", toString bytes.length)] =
        false := by
      show (sameName "Content-Length" "Content-Type" || false) = false
      decide
    unfold typeHeader Operation.headerUnlessEmpty
    simp only [hc, hs, hnot, Bool.false_or, Bool.or_false]
    by_cases he : type.isEmpty
    · have hempty : type = "" := String.isEmpty_iff.1 he
      rw [if_pos he, if_pos he, hempty]
      exact ⟨fun h => ⟨rfl, (Except.ok.inj h).symm⟩, fun h => by rw [h.2]⟩
    · rw [if_neg he, if_neg he, Headers.set_eq_ok]
      exact Iff.rfl
  have htarget : ∀ g : Headers, g = (Text.ofString "Content-Length",
        Text.ofString (toString bytes.length)) :: Operation.headerUnlessEmpty "Content-Type" type →
      (m.targetHeader g = .ok h ↔ Headers.isValue m.operation.target = true ∧
        h = m.operation.payloadHeaders type bytes.length) := by
    rintro g rfl
    unfold targetHeader Operation.payloadHeaders Operation.headerUnlessEmpty
    by_cases he : m.operation.target.isEmpty
    · have hempty : m.operation.target = "" := String.isEmpty_iff.1 he
      rw [if_pos he, if_pos he, hempty, List.append_nil]
      exact ⟨fun h => ⟨rfl, (Except.ok.inj h).symm⟩, fun h => by rw [h.2]⟩
    · rw [if_neg he, if_neg he, Headers.set_eq_ok]
      by_cases ht : type.isEmpty
      · rw [if_pos ht]
        exact Iff.rfl
      · rw [if_neg ht]
        exact Iff.rfl
  rw [finishHeaders_eq, hlength]
  show (m.typeHeader _ >>= m.targetHeader) = .ok h ↔ _
  rw [bind_eq_ok]
  constructor
  · rintro ⟨g, hg, hh⟩
    obtain ⟨hv, hg⟩ := (htype g).1 hg
    obtain ⟨hw, hh⟩ := (htarget g hg).1 hh
    exact ⟨hv, hw, hh⟩
  · rintro ⟨hv, hw, hh⟩
    exact ⟨_, (htype _).2 ⟨hv, rfl⟩, (htarget _ rfl).2 ⟨hw, hh⟩⟩

end Marshalling

/-- A body of bytes is sent as it is. Its length is announced unless it is already. -/
theorem Request.bodyOf_blob (parts : Multipart) {bytes : Bytes} (hne : bytes ≠ [])
    (headers : Headers) :
    bodyOf parts (.blob bytes) headers = .ok (bytes, Form.withLength bytes.length headers) := by
  rw [bodyOf, if_neg (by rw [Value.isFalsy_blob hne]; decide)]

namespace Operation

/-- The body of a payload is sent as it is, with its headers. -/
theorem sent_payload (o : Operation) (type : String) {bytes : Bytes} (hne : bytes ≠ [])
    (parts : Multipart) {p : RequestParts} (hbody : p.body = .blob bytes)
    (hheaders : p.headers = o.payloadHeaders type bytes.length) :
    p.sent parts = .ok (bytes, o.payloadHeaders type bytes.length) := by
  have hlength : Headers.contains "content-length" (o.payloadHeaders type bytes.length) = true := by
    rw [Headers.contains, payloadHeaders, List.any_cons, Bool.or_eq_true]
    exact .inl (show sameName "Content-Length" "content-length" = true by decide)
  rw [RequestParts.sent, hbody, hheaders]
  show Request.bodyOf parts (.blob bytes) _ = _
  rw [Request.bodyOf_blob parts hne, Form.withLength, if_pos hlength]

/-- A payload has headers of three kinds. -/
theorem mem_payloadHeaders {o : Operation} {type : String} {length : Nat} {e : Text × Text}
    (he : e ∈ o.payloadHeaders type length) :
    e = (.ofString "Content-Length", .ofString (toString length)) ∨
      e = (.ofString "Content-Type", .ofString type) ∨
      e = (.ofString "X-Amz-Target", .ofString o.target) := by
  have hmem : ∀ name value : String, e ∈ headerUnlessEmpty name value →
      e = (.ofString name, .ofString value) := by
    intro name value he
    unfold headerUnlessEmpty at he
    split at he
    · cases he
    · exact List.mem_singleton.1 he
  rcases List.mem_cons.1 he with he | he
  · exact .inl he
  rcases List.mem_append.1 he with he | he
  · exact .inr (.inl (hmem _ _ he))
  · exact .inr (.inr (hmem _ _ he))

/-- The length of a payload is announced, so that it is not sent in chunks. -/
theorem isChunked_payload (o : Operation) (type : String) (length : Nat) :
    Request.isChunked (o.payloadHeaders type length) = false := by
  have hnone : (o.payloadHeaders type length).filter (fun e =>
      (upperChars e.1.replaced.toList).map (fun c => if c = '-' then '_' else c) ==
        "TRANSFER_ENCODING".toList) = [] := by
    rw [List.filter_eq_nil_iff]
    intro e he
    rcases mem_payloadHeaders he with rfl | rfl | rfl <;> dsimp only <;>
      rw [Text.replaced_ofString] <;> decide
  rw [Request.isChunked]
  simp only [hnone]
  decide

theorem isValue_payloadHeaders {o : Operation} {type : String} (ht : Headers.isValue type = true)
    (ho : Headers.isValue o.target = true) (length : Nat) :
    ∀ e ∈ o.payloadHeaders type length, Headers.isValue e.2 = true := by
  intro e he
  rcases mem_payloadHeaders he with rfl | rfl | rfl
  · exact Headers.isValue_toString length
  · exact ht
  · exact ho

end Operation

namespace Marshalling

/-- The body of fields is their document, which is closed at the end. -/
theorem finishBody_fields {o : Operation} (hbody : o.hasBodyMember = false) (encoding : Encoding)
    (fields : Fields) (type : String) (empty : EmptyBody) :
    (ofFields o type empty encoding fields).finishBody =
      ((encoding.encode (.map fields)).map Value.blob,
        .new o (some type) empty (.document encoding ⟨some (.map fields), [], none⟩)) := by
  rw [finishBody, ofFields, new, hbody, new]
  show ((BodyWriter.document encoding ⟨some (.map fields), [], none⟩).bytes.map Value.blob, _) = _
  rw [BodyWriter.bytes]
  rfl

/-- **The request of fields** has their document as its body. It is made exactly if the values of
its headers have no line breaks and the operation has an address at the endpoint. -/
theorem finish_fields {o : Operation} (hbody : o.hasBodyMember = false)
    (huri : ∀ name, .parameter name ∉ PathTemplate.ofChars (splitUri o.uri).1)
    {encoding : Encoding} {fields : Fields} {bytes : Bytes}
    (henc : encoding.encode (.map fields) = .ok bytes) (hne : bytes ≠ [])
    (type : String) (empty : EmptyBody) (endpoint : String) (parts : Multipart) :
    ((∃ r, ((ofFields o type empty encoding fields).finish endpoint parts).1 = .ok r) ↔
      Headers.isValue type = true ∧ Headers.isValue o.target = true ∧
        o.HasAddress (String.ofList (splitUri o.uri).1) endpoint) ∧
    ∀ r, ((ofFields o type empty encoding fields).finish endpoint parts).1 = .ok r →
      r.body = bytes := by
  -- the marshalling once the document of the body is closed
  set closed : Marshalling :=
    .new o (some type) empty (.document encoding ⟨some (.map fields), [], none⟩) with hclosed
  have hfinish : (ofFields o type empty encoding fields).finishBody =
      (.ok (.blob bytes), closed) := by
    rw [finishBody_fields hbody, henc, hclosed]
    rfl
  have hpath : closed.resolvedPath = .ok (String.ofList (splitUri o.uri).1) := by
    rw [resolvedPath, hclosed, new, PathTemplate.ofChars_of_literal _ huri,
      PathTemplate.expand_literal]
  have hquery : closed.queryString = .ok (String.ofList (splitUri o.uri).2) := by
    rw [queryString_of_nil rfl, hclosed, new]
  have hheaders : ∀ h, closed.finishHeaders (.blob bytes) = .ok h ↔ Headers.isValue type = true ∧
      Headers.isValue o.target = true ∧ h = o.payloadHeaders type bytes.length :=
    fun h => finishHeaders_eq_ok rfl rfl rfl hne
  have hok : ∀ r, ((ofFields o type empty encoding fields).finish endpoint parts).1 = .ok r ↔
      ∃ headers, closed.finishHeaders (.blob bytes) = .ok headers ∧
        ∃ path, closed.resolvedPath = .ok path ∧ ∃ target, Url.parse endpoint = .ok target ∧
          ∃ query, closed.queryString = .ok query ∧ ∃ port, target.port? = .ok port ∧
            Request.make (o.parts path query target port headers (.blob bytes)) parts =
              .ok r := by
    intro r
    rw [finish_eq_ok, hfinish]
    constructor
    · rintro ⟨body, hb, h⟩
      rw [← Except.ok.inj hb] at h
      exact assemble_eq_ok.1 h
    · intro h
      exact ⟨_, rfl, assemble_eq_ok.2 h⟩
  refine ⟨⟨?_, ?_⟩, fun r hr => ?_⟩
  · rintro ⟨r, hr⟩
    obtain ⟨headers, hh, path, hp, target, ht, query, hq, port, hport, hmake⟩ := (hok r).1 hr
    obtain ⟨hv, hw, -⟩ := (hheaders headers).1 hh
    obtain ⟨-, plain, hplain, base, hbase, -⟩ := Request.make_eq_ok.1 hmake
    rw [hpath] at hp
    cases hp
    exact ⟨hv, hw, target, ht, port, hport,
      Operation.hasAddress_parts.1 ⟨⟨plain, hplain⟩, base, hbase⟩⟩
  · rintro ⟨hv, hw, target, ht, port, hport, haddress⟩
    obtain ⟨⟨plain, hplain⟩, base, hbase⟩ := Operation.hasAddress_parts.2 haddress
    refine ⟨_, (hok _).2 ⟨_, (hheaders _).2 ⟨hv, hw, rfl⟩, _, hpath, target, ht, _, hquery, port,
      hport, Request.make_eq_ok.2 ⟨Operation.isValue_payloadHeaders hv hw _, plain, hplain, base,
        hbase, _, o.sent_payload type hne parts rfl rfl, rfl⟩⟩⟩
  · obtain ⟨headers, hh, path, -, target, -, query, -, port, -, hmake⟩ := (hok r).1 hr
    obtain ⟨-, -, rfl⟩ := (hheaders headers).1 hh
    obtain ⟨-, plain, -, base, -, sent, hsent, rfl⟩ := Request.make_eq_ok.1 hmake
    have hs : Except.ok (bytes, o.payloadHeaders type bytes.length) = Except.ok sent :=
      (o.sent_payload type hne parts rfl rfl).symm.trans hsent
    rw [RequestParts.request_body, ← Except.ok.inj hs, o.isChunked_payload, if_neg (by decide)]

/-- There is no request of fields whose document has no bytes. -/
theorem finish_fields_of_error {o : Operation} (hbody : o.hasBodyMember = false)
    {encoding : Encoding} {fields : Fields} {e : Failure}
    (henc : encoding.encode (.map fields) = .error e) (type : String) (empty : EmptyBody)
    (endpoint : String) (parts : Multipart) (r : Request) :
    ((ofFields o type empty encoding fields).finish endpoint parts).1 ≠ .ok r := by
  have hfinish : (ofFields o type empty encoding fields).finishBody.1 = .error e := by
    rw [finishBody_fields hbody, henc]
    rfl
  intro hr
  obtain ⟨body, hok, -⟩ := finish_eq_ok.1 hr
  rw [hfinish] at hok
  cases hok

end Marshalling

end ServiceClient
