import ServiceClient.Kms
import ServiceClient.Proofs.ErrorReading
import ServiceClient.Proofs.Exchange
import ServiceClient.Proofs.Payload
import ServiceClient.Proofs.RequestFailures

/-!
# What becomes of a call of the key management service

Every call has a documented outcome, but for a successful response whose plain text cannot be
decoded: the reader of the result lets the failure of the decoder through.

* `Kms.IsCallOf`: what the calls of all methods have in common.
* `Kms.request_clientError`: a request that is not sent fails by the client's own failure.
* `Kms.readMembers_eq_error`: the member that the reader of a result fails at.
* `Kms.base64Decode_eq_error`: what is refused as base 64.
* `Kms.Method.RefusesReply`: a response whose plain text cannot be decoded.
* `Kms.outcome_documented`: the outcome of a call.
-/

namespace ServiceClient.Kms

namespace Method

/-- Whether the result of the method has bytes. -/
def hasBytes : Method → Bool
  | decrypt | generateRandom => true
  | cancelKeyDeletion => false

end Method

/-- A call of a method: a document of fields is sent to the root, and only the plain text of a
result is decoded. -/
structure IsCallOf (m : Method) (call : OperationCall) : Prop where
  protocol : call.operation.protocol = .awsJson
  uri : call.operation.uri = "/"
  noBodyMember : call.operation.hasBodyMember = false
  target : Headers.isValue call.operation.target = true
  isField : ∀ b ∈ call.bindings, b.IsField
  nodup : (call.bindings.map (·.name)).Nodup
  shape : call.shape = .standard
  reader : ∃ members, call.reader = some (resultReader members) ∧
    (∀ p ∈ members, p.2 = asIs ∨ p = ("Plaintext", Reply.blob)) ∧
      (("Plaintext", Reply.blob) ∈ members ↔ m.hasBytes = true)

theorem isCallOf_decrypt (request : Value) : IsCallOf .decrypt (decrypt request) where
  protocol := rfl
  uri := rfl
  noBodyMember := rfl
  target := show Headers.isValue (operation "Decrypt").target = true by decide
  isField := by simp [decrypt, payload, Binding.IsField]
  nodup := by simp [decrypt, payload]
  shape := rfl
  reader := ⟨_, rfl, by simp, by simp [Method.hasBytes]⟩

theorem isCallOf_cancelKeyDeletion (keyId : Value) :
    IsCallOf .cancelKeyDeletion (cancelKeyDeletion keyId) where
  protocol := rfl
  uri := rfl
  noBodyMember := rfl
  target := show Headers.isValue (operation "CancelKeyDeletion").target = true by decide
  isField := by simp [cancelKeyDeletion, payload, Binding.IsField]
  nodup := by simp [cancelKeyDeletion, payload]
  shape := rfl
  reader := ⟨_, rfl, by simp, by simp [Method.hasBytes]⟩

theorem isCallOf_generateRandom (numberOfBytes customKeyStoreId : Value) :
    IsCallOf .generateRandom (generateRandom numberOfBytes customKeyStoreId) where
  protocol := rfl
  uri := rfl
  noBodyMember := rfl
  target := show Headers.isValue (operation "GenerateRandom").target = true by decide
  isField := by simp [generateRandom, payload, Binding.IsField]
  nodup := by simp [generateRandom, payload]
  shape := rfl
  reader := ⟨_, rfl, by simp, by simp [Method.hasBytes]⟩

/-- Every call with fitting arguments is one of its method. -/
theorem isCallOf_of_call {m : Method} {arguments : List Value} {call : OperationCall}
    (h : Kms.call m arguments = .ok call) : IsCallOf m call := by
  unfold Kms.call at h
  split at h
  · rw [← Except.ok.inj h]
    exact isCallOf_decrypt _
  · cases h
  · cases h
  · rw [← Except.ok.inj h]
    exact isCallOf_cancelKeyDeletion _
  · cases h
  · cases h
  · rw [← Except.ok.inj h]
    exact isCallOf_generateRandom _ _
  · rw [← Except.ok.inj h]
    exact isCallOf_generateRandom _ _
  · rw [← Except.ok.inj h]
    exact isCallOf_generateRandom _ _
  · cases h

/-! ### The request -/

/-- A client of the service speaks JSON, whatever the switches are. -/
theorem dialect_of_make {endpoint region : Option String} {w : Switches} {e : Environment}
    {c : Client} (h : (Client.make (options endpoint region w) e).run.result = .ok c) :
    c.dialect.encoding = .json ∧ c.dialect.contentType = "application/x-amz-json-1.1" := by
  obtain ⟨text, -, rfl⟩ := Client.make_eq_ok.1 h
  exact ⟨rfl, rfl⟩

section Request

variable {m : Method} {call : OperationCall} (hcall : IsCallOf m call)

include hcall

theorem IsCallOf.template :
    PathTemplate.ofChars (Marshalling.splitUri call.operation.uri).1 = [.literal '/'] := by
  rw [hcall.uri]
  show PathTemplate.ofChars ['/'] = _
  rw [PathTemplate.ofChars_literal (by decide), PathTemplate.ofChars]

/-- The path of a call is the root. -/
theorem IsCallOf.resolvedPath {m' : Marshalling} (ho : m'.operation = call.operation) :
    m'.resolvedPath = .ok "/" := by
  unfold Marshalling.resolvedPath
  rw [ho, hcall.template]
  rfl

/-- **A request that is not sent** fails by the client's own failure. -/
theorem IsCallOf.request_clientError {d : Dialect} (htype : Headers.isValue d.contentType = true)
    {e : DnsEndpoint} (hpath : call.operation.PathReadsAt "/" e.text) {parts : Multipart}
    {f : Failure}
    (h : d.request call.operation call.bindings call.request e.text parts = .error f) :
    f.isClientError = true := by
  have hgate : call.operation.protocol ≠ .apiGateway := by
    rw [hcall.protocol]
    decide
  have hquery : ∀ b ∈ call.bindings, b.area ≠ .query := by
    intro b hb hquery
    obtain ⟨hlocation, hbody, -⟩ := hcall.isField b hb
    rw [Binding.area, hbody, hlocation] at hquery
    cases hquery
  refine Dialect.request_clientError hgate (fun b hb => (hcall.isField b hb).2.1) hquery htype
    hcall.target (fun m' path ho hresolved => ?_) h
  rw [hcall.resolvedPath ho] at hresolved
  cases hresolved
  exact hpath

end Request

/-! ### The result -/

/-- A reader of members fails at one of them that is set. -/
theorem readMembers_eq_error {reply : Reply} {members : List (String × MemberReader)}
    {f : Failure} (h : readMembers reply members = .error f) :
    ∃ p ∈ members, reply.member p.1 ≠ .null ∧ p.2 reply p.1 = .error f := by
  induction members with
  | nil => cases h
  | cons p rest ih =>
    obtain ⟨name, read⟩ := p
    have hrest : readMembers reply rest = .error f → ∃ p ∈ (name, read) :: rest,
        reply.member p.1 ≠ .null ∧ p.2 reply p.1 = .error f := by
      intro h
      obtain ⟨p, hp, hread⟩ := ih h
      exact ⟨p, List.mem_cons_of_mem _ hp, hread⟩
    unfold readMembers at h
    split at h
    · exact hrest h
    · rename_i hset
      rcases bind_eq_error.1 h with h | ⟨v, -, h⟩
      · exact ⟨_, List.mem_cons_self, fun hnull => hset hnull, h⟩
      · rcases bind_eq_error.1 h with h | ⟨fields, -, h⟩
        · exact hrest h
        · cases h

/-- A member that is set and refused makes the reader fail, at it or another one. -/
theorem readMembers_refuses {reply : Reply} {members : List (String × MemberReader)}
    {p : String × MemberReader} (hp : p ∈ members) (hset : reply.member p.1 ≠ .null) {f : Failure}
    (hread : p.2 reply p.1 = .error f) : ∃ g, readMembers reply members = .error g := by
  induction members with
  | nil => cases hp
  | cons q rest ih =>
    obtain ⟨name, read⟩ := q
    unfold readMembers
    rcases List.mem_cons.1 hp with rfl | hp
    · split
      · rename_i hnull
        exact absurd hnull hset
      · exact ⟨f, bind_eq_error.2 (.inl hread)⟩
    · obtain ⟨g, hg⟩ := ih hp
      split
      · exact ⟨g, hg⟩
      · cases hv : read reply name with
        | error k => exact ⟨k, rfl⟩
        | ok v => exact ⟨g, bind_eq_error.2 (.inr ⟨v, rfl, bind_eq_error.2 (.inl hg)⟩)⟩

/-- The decoder of base 64 has no failure of the client's own. -/
theorem isForeign_base64Decode (origin : Value.Origin) (v : Value) :
    IsForeign (base64Decode origin v) := by
  unfold base64Decode
  refine .bind ?_ fun v => ?_
  · unfold toText
    split
    · exact .ok _
    · exact .mapError fun _ => rfl
    · exact .ok _
  · dsimp only
    split
    · exact .mapError fun _ => rfl
    · exact .error rfl
    · split
      · exact .error rfl
      · split
        · split
          · exact .mapError fun _ => rfl
          · exact .error rfl
        · split
          · exact .error rfl
          · exact .error rfl
          · exact .error rfl

/-- A text in base 64, of either alphabet and with or without its padding. -/
def IsBase64 (v : Value) : Prop :=
  ∃ s decoded, v = .text s ∧ Base64.decodeText s.toList = .ok decoded

/-- A value that is no bytes is decoded exactly if it is a text in base 64. -/
theorem base64Decode_eq_ok {v : Value} (hv : Json.NoBytes v) :
    (∃ decoded, base64Decode .memory v = .ok decoded) ↔ IsBase64 v := by
  have htext : toText .utf8 .refuse v = .ok v := by
    unfold toText
    split
    · rfl
    · exact absurd rfl (hv _ _)
    · rfl
  constructor
  · rintro ⟨decoded, h⟩
    -- bytes would be decoded as well, but JSON has none
    unfold base64Decode at h
    rw [htext] at h
    obtain ⟨w, hw, h⟩ := bind_eq_ok.1 h
    obtain rfl := Except.ok.inj hw
    dsimp only at h
    split at h
    · exact ⟨_, decoded, rfl, mapError_eq_ok.1 h⟩
    · cases h
    · split at h
      · cases h
      · split at h
        · split at h
          · exact absurd rfl (hv _ _)
          · cases h
        · split at h
          · cases h
          · cases h
          · cases h
  · rintro ⟨s, decoded, rfl, h⟩
    exact ⟨decoded, mapError_eq_ok.2 h⟩

/-- A value that is no bytes is refused exactly if it is no text in base 64. -/
theorem base64Decode_eq_error {v : Value} (hv : Json.NoBytes v) :
    (∃ f, base64Decode .memory v = .error f) ↔ ¬ IsBase64 v := by
  rw [← base64Decode_eq_ok hv]
  cases base64Decode .memory v with
  | error f => exact ⟨fun _ ⟨_, h⟩ => (by cases h), fun _ => ⟨f, rfl⟩⟩
  | ok decoded => exact ⟨fun ⟨_, h⟩ => (by cases h), fun h => absurd ⟨decoded, rfl⟩ h⟩

/-- No field of a document in JSON is bytes. -/
theorem noBytes_of_parse {body : Bytes} {fields : Fields}
    (h : Encoding.json.parse body = .ok (.map fields)) {name : String} {v : Value}
    (hget : Fields.get? (.text name) fields = some v) : Json.NoBytes v := by
  obtain ⟨pairs, rfl, hpairs⟩ := Json.textFields_of_held (Encoding.held_of_parse_json h)
  rw [← Value.ofText_ofString, Fields.get?_named] at hget
  obtain ⟨before, after, rfl, -⟩ := List.lookup_eq_some_iff.1 hget
  exact hpairs (name, v) (by simp)

/-- The plain text of a reply is decoded as base 64. -/
theorem blob_eq {reply : Reply} (hjson : reply.encoding = .json) {name : String}
    (hset : reply.member name ≠ .null) :
    reply.blob name = (base64Decode .memory (reply.member name)).map .blob := by
  unfold Reply.blob
  rw [hjson]
  unfold Encoding.decodeBlob Encoding.origin
  split
  · rename_i hnull
    exact absurd hnull hset
  · rfl
  · rename_i h _
    exact absurd rfl h

/-- **The reader of a call fails** exactly at a plain text that cannot be decoded, and not by the
client's own failure. -/
theorem IsCallOf.reader_fails {m : Method} {call : OperationCall} (hcall : IsCallOf m call) :
    ∃ read, call.reader = some read ∧ ∀ reply : Reply, reply.encoding = .json →
      (∀ f, read reply = .error f → f.isClientError = false) ∧
      ((∃ f, read reply = .error f) ↔ m.hasBytes = true ∧ reply.member "Plaintext" ≠ .null ∧
        ∃ f, base64Decode .memory (reply.member "Plaintext") = .error f) := by
  obtain ⟨members, hreader, hmembers, hbytes⟩ := hcall.reader
  refine ⟨_, hreader, fun reply hjson => ?_⟩
  -- a member that is taken as it is does not fail
  have hplain : ∀ f, readMembers reply members = .error f → m.hasBytes = true ∧
      reply.member "Plaintext" ≠ .null ∧
        base64Decode .memory (reply.member "Plaintext") = .error f := by
    intro f h
    obtain ⟨p, hp, hset, hread⟩ := readMembers_eq_error h
    rcases hmembers p hp with hasIs | rfl
    · rw [hasIs] at hread
      cases hread
    · have hblob : reply.blob "Plaintext" = .error f := hread
      rw [blob_eq hjson hset] at hblob
      exact ⟨hbytes.1 hp, hset, map_eq_error.1 hblob⟩
  refine ⟨fun f h => ?_, ⟨?_, ?_⟩⟩
  · obtain ⟨-, -, hdecode⟩ := hplain f (map_eq_error.1 h)
    exact isForeign_base64Decode _ _ f hdecode
  · rintro ⟨f, h⟩
    obtain ⟨hm, hset, hdecode⟩ := hplain f (map_eq_error.1 h)
    exact ⟨hm, hset, f, hdecode⟩
  · rintro ⟨hm, hset, f, hdecode⟩
    have hread : reply.blob "Plaintext" = .error f := by
      rw [blob_eq hjson hset]
      exact map_eq_error.2 hdecode
    obtain ⟨g, hg⟩ := readMembers_refuses (hbytes.2 hm) hset hread
    exact ⟨g, map_eq_error.2 hg⟩

/-- A successful response to a method with bytes that is intact and whose body is a document with
a plain text that is set and is no text in base 64. -/
structure Method.RefusesReply (m : Method) (r : Response) : Prop where
  hasBytes : m.hasBytes = true
  success : Client.isSuccess r.status = true
  intact : checkChecksum r.headers r.body = .ok ()
  refused : ∃ fields v, Encoding.json.parse r.body = .ok (.map fields) ∧
    Fields.get? (.text "Plaintext") fields = some v ∧ v ≠ .null ∧ ¬ IsBase64 v

/-- A member of a reply is set if it is a field of the document of the body. -/
theorem member_of_body {d : Dialect} (hjson : d.encoding = .json) {r : Response} {name : String}
    {v : Value} (hv : v ≠ .null) :
    (∃ content, d.readContent .standard r.body = .ok content ∧
      Reply.member ⟨content, r, d.encoding⟩ name = v) ↔
        ∃ fields, Encoding.json.parse r.body = .ok (.map fields) ∧
          Fields.get? (.text name) fields = some v := by
  have hcontent : ∀ content, Reply.member ⟨content, r, d.encoding⟩ name = v ↔
      ∃ fields, content = .map fields ∧ Fields.get? (.text name) fields = some v := by
    intro content
    unfold Reply.member Reply.member?
    dsimp only
    constructor
    · intro h
      split at h
      · rename_i fields
        cases hget : Fields.get? (.text name) fields with
        | none =>
          rw [hget] at h
          exact absurd h.symm hv
        | some w =>
          rw [hget] at h
          exact ⟨fields, rfl, by rw [hget, ← h]; rfl⟩
      · exact absurd h.symm hv
    · rintro ⟨fields, rfl, hget⟩
      dsimp only
      rw [hget]
      rfl
  -- an empty body is not parsed, and is no document either
  have hparse : ∀ fields, d.readContent .standard r.body = .ok (.map fields) ↔
      Encoding.json.parse r.body = .ok (.map fields) := by
    intro fields
    unfold Dialect.readContent
    rw [hjson]
    cases hbody : r.body with
    | nil =>
      refine ⟨fun h => (by cases h), fun h => absurd h (Encoding.parse_json_nil _)⟩
    | cons b rest => exact mapError_eq_ok
  constructor
  · rintro ⟨content, hread, hmember⟩
    obtain ⟨fields, rfl, hget⟩ := (hcontent content).1 hmember
    exact ⟨fields, (hparse fields).1 hread, hget⟩
  · rintro ⟨fields, hbody, hget⟩
    exact ⟨_, (hparse fields).2 hbody, (hcontent _).2 ⟨fields, rfl, hget⟩⟩

/-- **The outcome of a response is documented** exactly if its plain text is not refused. -/
theorem IsCallOf.receive_documented {m : Method} {call : OperationCall} (hcall : IsCallOf m call)
    {c : Client} (hjson : c.dialect.encoding = .json) (r : Response) :
    CallError.IsDocumented (c.receive call r).result ↔ ¬ m.RefusesReply r := by
  obtain ⟨read, hreader, hread⟩ := hcall.reader_fails
  unfold CallError.IsDocumented
  rw [Client.result_receive, hreader, hcall.shape]
  -- without success, the response becomes an error of the service whatever it holds
  by_cases hsuccess : Client.isSuccess r.status = true
  · rw [if_pos hsuccess]
    constructor
    · rintro hdocumented ⟨hbytes, -, hintact, fields, v, hbody, hget, hv, hbase⟩
      obtain ⟨content, hcontent, hmember⟩ := (member_of_body hjson hv).2 ⟨fields, hbody, hget⟩
      obtain ⟨hforeign, hfails⟩ := hread ⟨content, r, c.dialect.encoding⟩ hjson
      rw [hmember] at hfails
      have hdecode := (base64Decode_eq_error (noBytes_of_parse hbody hget)).2 hbase
      obtain ⟨g, hg⟩ := hfails.2 ⟨hbytes, hv, hdecode⟩
      have hresult := (Dialect.readResult_foreign (hforeign g hg)).2
        ⟨hintact, content, hcontent, hg⟩
      have hclient := hdocumented g (mapError_eq_error.2 ⟨g, hresult, rfl⟩)
      rw [hforeign g hg] at hclient
      cases hclient
    · intro hkept f h
      obtain ⟨g, hresult, hf⟩ := mapError_eq_error.1 h
      cases hf
      rw [← Bool.not_eq_false]
      intro hforeign
      obtain ⟨hintact, content, hcontent, hg⟩ :=
        (Dialect.readResult_foreign hforeign).1 hresult
      obtain ⟨-, hfails⟩ := hread ⟨content, r, c.dialect.encoding⟩ hjson
      obtain ⟨hbytes, hset, hdecode⟩ := hfails.1 ⟨f, hg⟩
      obtain ⟨fields, hbody, hget⟩ := (member_of_body hjson hset).1 ⟨content, hcontent, rfl⟩
      have hbase := (base64Decode_eq_error (noBytes_of_parse hbody hget)).1 hdecode
      exact hkept ⟨hbytes, hsuccess, hintact, fields, _, hbody, hget, hset, hbase⟩
  · rw [if_neg hsuccess]
    obtain ⟨error, herror⟩ :=
      Dialect.exists_readError hjson c.codeField (some c.serviceName) r
    rw [herror]
    refine ⟨fun _ h => hsuccess h.success, fun _ f h => ?_⟩
    cases h

/-! ### Requests of the documented types -/

/-- A value of the documented type of a member, or a member that is not set. -/
inductive HasType : MemberType → Value → Prop
  | unset (type : MemberType) : HasType type .null
  | text (t : Text) : HasType .string (.ofText t)
  | bytes (kind : BytesKind) (s : Bytes) : HasType .blob (.bytes kind s)
  | texts (items : List Text) : HasType .list (.list (items.map .ofText))
  | map (pairs : List (Text × Text)) (hd : (pairs.map (·.1)).Nodup) :
    HasType .map (.map (Fields.named (pairs.map fun p => (p.1, .ofText p.2))))
  | int (n : Int) (h : n.natAbs < 10 ^ maxIntegerDigits) : HasType .plain (.int n)

/-- The scalars of these types. -/
def IsTypedScalar (v : Value) : Prop :=
  (∃ t, v = .ofText t) ∨ (∃ kind s, v = .bytes kind s) ∨
    ∃ n : Int, v = .int n ∧ n.natAbs < 10 ^ maxIntegerDigits

/-- A value of a documented type is built from these scalars. -/
theorem HasType.plain {type : MemberType} {v : Value} (h : HasType type v) :
    v.Plain IsTypedScalar := by
  have htext : ∀ t, (Value.ofText t).Plain IsTypedScalar :=
    fun t => .scalar (Json.isScalar_ofText t) (.inl ⟨t, rfl⟩)
  cases h with
  | unset => exact .null
  | text t => exact htext t
  | bytes kind s => exact .scalar rfl (.inr (.inl ⟨kind, s, rfl⟩))
  | texts items => exact .list (List.forall_mem_map.2 fun t _ => htext t)
  | map pairs hd =>
    refine .map ?_ (fun p _ => .inl ⟨p.1, rfl⟩) (List.forall_mem_map.2 fun p _ => htext p.2)
    rw [List.map_map]
    exact hd
  | int n h => exact .scalar rfl (.inr (.inr ⟨n, rfl, h⟩))

/-- The normal form of such a value is printed. -/
theorem held_normalForm {v : Value} (h : v.Plain IsTypedScalar) :
    (v.normalForm Encoding.json.convert).Held Json.IsPrinted := by
  have htext : ∀ t, Encoding.json.convert (.ofText t) = .ofText t ∧ Json.IsPrinted (.ofText t) := by
    intro t
    rcases Value.ofText_cases t with ⟨s, -, h⟩ | ⟨l, -, h⟩ <;> rw [h] <;> exact ⟨rfl, trivial⟩
  refine h.held (fun w hw hscalar => ?_) fun name _ => (htext name).2
  rcases hscalar with ⟨t, rfl⟩ | ⟨kind, s, rfl⟩ | ⟨n, rfl, hn⟩
  · rw [(htext t).1]
    exact ⟨hw, (htext t).2⟩
  · exact ⟨rfl, trivial⟩
  · exact ⟨rfl, hn⟩

/-- All members of a call have their documented types. -/
def IsTyped (call : OperationCall) : Prop :=
  ∃ request, call.request = .map request ∧
    ∀ b ∈ call.bindings, HasType b.type (b.valueIn request)

/-- **A request of documented types is made.** -/
theorem IsCallOf.request_exists {m : Method} {call : OperationCall} (hcall : IsCallOf m call)
    {d : Dialect} (hjson : d.encoding = .json) (htype : Headers.isValue d.contentType = true)
    {e : DnsEndpoint} (hpath : call.operation.PathReadsAt "/" e.text) (htyped : IsTyped call)
    (parts : Multipart) :
    ∃ q, d.request call.operation call.bindings call.request e.text parts = .ok q := by
  obtain ⟨request, hrequest, hvalues⟩ := htyped
  have hplain : ∀ b ∈ call.bindings, (b.valueIn request).Plain IsTypedScalar :=
    fun b hb => (hvalues b hb).plain
  have hname : ∀ s : String, IsTypedScalar (.text s) :=
    fun s => .inl ⟨s, (Value.ofText_ofString s).symm⟩
  have hgate : call.operation.protocol ≠ .apiGateway := by
    rw [hcall.protocol]
    decide
  have huri : ∀ name, .parameter name ∉
      PathTemplate.ofChars (Marshalling.splitUri call.operation.uri).1 := by
    simp [hcall.template]
  obtain ⟨empty, hm⟩ := d.marshalling_fields hgate hcall.noBodyMember (.inr hcall.protocol)
    hcall.isField hcall.nodup hname hplain
  have hheld := held_normalForm (Binding.plain_fieldsOf hcall.nodup hname hplain)
  rw [Value.normalForm] at hheld
  obtain ⟨bytes, hencode, hne⟩ := Encoding.exists_encode_json hheld
  rw [hjson] at hm
  obtain ⟨hiff, -⟩ :=
    Marshalling.finish_fields hcall.noBodyMember huri hencode hne d.contentType empty e.text parts
  have haddress : call.operation.HasAddress
      (String.ofList (Marshalling.splitUri call.operation.uri).1) e.text := by
    rw [hcall.uri]
    exact Operation.hasAddress_of_reads hpath
  obtain ⟨q, hq⟩ := hiff.2 ⟨htype, hcall.target, haddress⟩
  obtain ⟨started, hstart, hadd⟩ := bind_eq_ok.1 hm
  rw [hrequest]
  exact ⟨q, bind_eq_ok.2 ⟨started, hstart, bind_eq_ok.2 ⟨_, hadd, hq⟩⟩⟩

/-- **The outcome of a call.** For every client of the service at an endpoint with the name of a
host, every call and every response, the outcome is a result, an error of the service or the
client's own failure, exactly if the call is not sent or its response is not refused by the reader
of its result. A call whose members have their documented types is sent. -/
theorem outcome_documented {endpoint region : Option String} {w : Switches}
    {environment : Environment} {c : Client}
    (hmade : (Client.make (options endpoint region w) environment).run.result = .ok c)
    {e : DnsEndpoint} (hendpoint : c.endpoint = e.text) {m : Method} {arguments : List Value}
    {call : OperationCall} (hcall : Kms.call m arguments = .ok call)
    (hpath : call.operation.PathReadsAt "/" e.text) (send : Request → Response)
    (parts : Multipart) :
    (CallError.IsDocumented (c.invoke call (fun q => .ok (send q)) parts).result.outcome ↔
      ∀ q, (c.invoke call (fun q => .ok (send q)) parts).result.sent = some q →
        ¬ m.RefusesReply (send q)) ∧
    (IsTyped call → ∃ q, (c.invoke call (fun q => .ok (send q)) parts).result.sent = some q) := by
  have hc := isCallOf_of_call hcall
  obtain ⟨hjson, htype⟩ := dialect_of_make hmade
  have hvalue : Headers.isValue c.dialect.contentType = true := by
    rw [htype]
    decide
  rw [Client.result_invoke, hendpoint]
  refine ⟨?_, fun htyped => ?_⟩
  · cases hrequest : c.dialect.request call.operation call.bindings call.request e.text parts with
    | error f =>
      refine ⟨fun _ q hq => (by cases hq), fun _ g hg => ?_⟩
      cases hg
      exact hc.request_clientError hvalue hpath hrequest
    | ok q =>
      dsimp only
      rw [hc.receive_documented hjson]
      constructor
      · intro h q' hq'
        cases hq'
        exact h
      · exact fun h => h q rfl
  · obtain ⟨q, hq⟩ := hc.request_exists hjson hvalue hpath htyped parts
    rw [hq]
    exact ⟨q, rfl⟩

/-- A document of one text is read as it is written. -/
theorem parse_field {name s : String} {body : Bytes}
    (h : Encoding.json.encode (.map [(.text name, .text s)]) = .ok body) :
    Encoding.json.parse body = .ok (.map [(.text name, .text s)]) := by
  have hheld : (Value.map (Fields.named [(name, .text s)])).Held Json.IsExact := by
    refine .map (List.nodup_singleton _) (fun p hp => ?_) fun p hp => ?_
    · rw [List.mem_singleton.1 hp]
      exact Json.isExact_ofText (Text.isJoined_ofString name)
    · rw [List.mem_singleton.1 hp]
      exact .scalar rfl (Json.isExact_text s)
  have hmap : Value.map (Fields.named [(name, .text s)]) = .map [(.text name, .text s)] := by
    rw [Fields.named_cons, Value.ofText_ofString]
    rfl
  rw [hmap] at hheld
  obtain ⟨bytes, hencode, hparse⟩ := Encoding.parse_encode_json hheld
  obtain rfl : body = bytes := Except.ok.inj (h.symm.trans hencode)
  exact hparse

/-- A successful response with a document. -/
def documentResponse (document : String) : Response := ⟨200, [], Utf8.encode document⟩

/-- Three random bytes are asked for and read. -/
theorem outcome_documented_random :
    ∃ c call q, (Client.make (options (some "https://localhost") none ⟨false, false⟩)
        ⟨"", [], []⟩).run.result = .ok c ∧
      Kms.call .generateRandom [.int 3] = .ok call ∧
      (c.invoke call (fun _ => .ok (documentResponse "\x7b\"Plaintext\":\"AQID\"\x7d"))
        (.withoutFiles "b")).result.sent = some q ∧
      CallError.IsDocumented (c.invoke call
        (fun _ => .ok (documentResponse "\x7b\"Plaintext\":\"AQID\"\x7d"))
        (.withoutFiles "b")).result.outcome := by
  obtain ⟨c, hmade, hendpoint⟩ : ∃ c, (Client.make (options (some "https://localhost") none
      ⟨false, false⟩) ⟨"", [], []⟩).run.result = .ok c ∧ c.endpoint = "https://localhost" :=
    ⟨_, rfl, rfl⟩
  obtain ⟨call, hcall⟩ : ∃ call, Kms.call .generateRandom [.int 3] = .ok call := ⟨_, rfl⟩
  have htyped : IsTyped call := by
    cases hcall
    refine ⟨_, rfl, fun b hb => ?_⟩
    rcases List.mem_cons.1 hb with rfl | hb
    · exact .int 3 (Nat.lt_of_lt_of_le (by decide) (Nat.pow_le_pow_right (by decide)
        (show 1 ≤ maxIntegerDigits by decide)))
    · rw [List.mem_singleton.1 hb]
      exact .unset _
  obtain ⟨hdocumented, hsent⟩ := outcome_documented hmade
    (e := .localhost) hendpoint hcall
    (Operation.pathReadsAt_root rfl)
    (fun _ => documentResponse "\x7b\"Plaintext\":\"AQID\"\x7d") (.withoutFiles "b")
  obtain ⟨q, hq⟩ := hsent htyped
  refine ⟨c, call, q, hmade, hcall, hq, hdocumented.2 fun _ _ h => ?_⟩
  -- the plain text is read, and is base 64
  obtain ⟨fields, v, hbody, hget, -, hbase⟩ := h.refused
  have hparse : Encoding.json.parse (Utf8.encode "\x7b\"Plaintext\":\"AQID\"\x7d") =
      .ok (.map [(.text "Plaintext", .text "AQID")]) := parse_field rfl
  cases hparse.symm.trans hbody
  cases hget
  exact hbase ⟨"AQID", _, rfl, rfl⟩

/-- Text that is no base 64 is refused by a failure that is not the client's own. -/
theorem outcome_not_documented :
    ∃ c call, (Client.make (options (some "https://localhost") none ⟨false, false⟩)
        ⟨"", [], []⟩).run.result = .ok c ∧
      Kms.call .generateRandom [] = .ok call ∧ IsTyped call ∧
      ¬ CallError.IsDocumented (c.invoke call
        (fun _ => .ok (documentResponse "\x7b\"Plaintext\":\"a\"\x7d"))
        (.withoutFiles "b")).result.outcome := by
  obtain ⟨c, hmade, hendpoint⟩ : ∃ c, (Client.make (options (some "https://localhost") none
      ⟨false, false⟩) ⟨"", [], []⟩).run.result = .ok c ∧ c.endpoint = "https://localhost" :=
    ⟨_, rfl, rfl⟩
  have htyped : IsTyped (generateRandom .null .null) := by
    refine ⟨_, rfl, fun b hb => ?_⟩
    rcases List.mem_cons.1 hb with rfl | hb
    · exact .unset _
    · rw [List.mem_singleton.1 hb]
      exact .unset _
  refine ⟨c, generateRandom .null .null, hmade, rfl, htyped, ?_⟩
  obtain ⟨hjson, htype⟩ := dialect_of_make hmade
  have hvalue : Headers.isValue c.dialect.contentType = true := by
    rw [htype]
    decide
  have hc := isCallOf_generateRandom .null .null
  obtain ⟨q, hq⟩ := hc.request_exists hjson hvalue
    (e := .localhost) (Operation.pathReadsAt_root rfl) htyped (.withoutFiles "b")
  have hparse : Encoding.json.parse (Utf8.encode "\x7b\"Plaintext\":\"a\"\x7d") =
      .ok (.map [(.text "Plaintext", .text "a")]) := parse_field rfl
  have hbase : ¬ IsBase64 (.text "a") := by
    rintro ⟨s, decoded, hs, hdecode⟩
    cases hs
    cases hdecode
  have hrefuses : Method.RefusesReply .generateRandom
      (documentResponse "\x7b\"Plaintext\":\"a\"\x7d") :=
    ⟨rfl, rfl, rfl, _, _, hparse, rfl, Value.noConfusion, hbase⟩
  rw [Client.result_invoke, hendpoint]
  have hq' : c.dialect.request (generateRandom .null .null).operation
      (generateRandom .null .null).bindings (generateRandom .null .null).request
        "https://localhost" (.withoutFiles "b") = .ok q := hq
  rw [hq']
  exact fun h => (hc.receive_documented hjson _).1 h hrefuses

end ServiceClient.Kms
