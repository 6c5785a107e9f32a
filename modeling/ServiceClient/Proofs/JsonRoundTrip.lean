import ServiceClient.Proofs.Base64
import ServiceClient.Proofs.JsonReading
import ServiceClient.Proofs.Payload

/-!
# What a client writes in JSON is what a service reads

* `json_body_reads_back`: the body of a request is read back as the normal forms of the members
  that are set, and their byte strings as they were.
-/

namespace ServiceClient

/-- A member that holds a byte string is read back as the byte string. -/
theorem Reply.blob_of_field {request : Fields} {bindings : List Binding}
    (hd : (bindings.map (·.name)).Nodup) {b : Binding} (hb : b ∈ bindings) {kind : BytesKind}
    {s : Bytes} (hs : b.valueIn request = .bytes kind s) (response : Response) :
    Reply.blob ⟨Binding.document Encoding.json.convert bindings request, response, .json⟩ b.name =
      .ok (.blob s) := by
  have hset : b.valueIn request ≠ .null := by
    rw [hs]
    intro h
    cases h
  rw [Reply.blob_of_document .json hd hb hset, hs]
  exact Encoding.decodeBlob_json_encode _ s

namespace Dialect

/-- **What a client writes in JSON is what a service reads.** Adding members that become fields
succeeds. The request is made for an endpoint exactly if content type and target have no line
breaks and the operation has an address there. Its body is then read as the document that has,
in the order of the bindings, the normal form of every member that is set, and each byte string
among the members is read back as it was. -/
theorem json_body_reads_back (d : Dialect) (o : Operation) (bindings : List Binding)
    (request : Fields) (hjson : d.encoding = .json) (hgate : o.protocol ≠ .apiGateway)
    (hbody : o.hasBodyMember = false) (hpayload : o.hasPayload = true ∨ o.protocol = .awsJson)
    (huri : ∀ name, .parameter name ∉ PathTemplate.ofChars (Marshalling.splitUri o.uri).1)
    (hb : ∀ b ∈ bindings, b.IsField) (hd : (bindings.map (·.name)).Nodup)
    (hv : ∀ b ∈ bindings, (b.valueIn request).Plain Json.Scalar) :
    ∃ m, (d.marshalling o >>= Marshalling.addAll bindings (.map request)) = .ok m ∧
      ∀ endpoint parts,
        ((∃ r, (m.finish endpoint parts).1 = .ok r) ↔
          Headers.isValue d.contentType = true ∧ Headers.isValue o.target = true ∧
            o.HasAddress (String.ofList (Marshalling.splitUri o.uri).1) endpoint) ∧
        ∀ r, (m.finish endpoint parts).1 = .ok r →
          d.encoding.parse r.body =
            .ok (Binding.document Encoding.json.convert bindings request) ∧
          ∀ b ∈ bindings, ∀ kind s, b.valueIn request = .bytes kind s → ∀ response,
            Reply.blob ⟨Binding.document Encoding.json.convert bindings request, response,
              d.encoding⟩ b.name = .ok (.blob s) := by
  have hname : ∀ s, Json.Scalar (.text s) := fun s => .inl (Json.isExact_text s)
  obtain ⟨empty, hm⟩ := d.marshalling_fields hgate hbody hpayload hb hd hname hv
  have hholds := Json.held_normalForm (Binding.plain_fieldsOf hd hname hv)
  rw [Value.normalForm] at hholds
  obtain ⟨bytes, henc, hparse⟩ := Encoding.parse_encode_json hholds
  -- a document has at least its braces
  have hne : bytes ≠ [] := by
    rintro rfl
    exact Encoding.parse_json_nil _ hparse
  rw [hjson] at hm ⊢
  refine ⟨_, hm, fun endpoint parts => ?_⟩
  obtain ⟨hiff, hsent⟩ :=
    Marshalling.finish_fields hbody huri henc hne d.contentType empty endpoint parts
  refine ⟨hiff, fun r hr => ⟨?_, fun b hmem kind s hs response => ?_⟩⟩
  · rw [hsent r hr, Binding.document_eq]
    exact hparse
  · exact Reply.blob_of_field hd hmem hs response

/-- A request with bytes and a nested map reaches the service. -/
theorem json_body_reads_back_nested :
    ∃ m, (Dialect.marshalling ⟨⟨"1.1", none, false, false, .root, []⟩, .json, []⟩
        ⟨.awsJson, "/", "POST", some "Trent.Encrypt", false, true⟩ >>=
      Marshalling.addAll [⟨.blob, .payload, "Data", none, false, none⟩,
          ⟨.map, .payload, "Tags", none, false, none⟩]
        (.map [(.text "Tags", .map [(.text "a", .null), (.text "b", .tuple [.null, .int 1])]),
          (.text "Data", .bytes .array [1, 2, 3])])) = .ok m ∧
      ∃ r, (m.finish "https://localhost" (.withoutFiles "b")).1 = .ok r ∧
        Encoding.json.parse r.body = .ok (.map [(.text "Data", .text "AQID"),
          (.text "Tags", .map [(.text "b", .list [.null, .int 1])])]) := by
  obtain ⟨m, hm, h⟩ := json_body_reads_back
    ⟨⟨"1.1", none, false, false, .root, []⟩, .json, []⟩
    ⟨.awsJson, "/", "POST", some "Trent.Encrypt", false, true⟩
    [⟨.blob, .payload, "Data", none, false, none⟩, ⟨.map, .payload, "Tags", none, false, none⟩]
    [(.text "Tags", .map [(.text "a", .null), (.text "b", .tuple [.null, .int 1])]),
      (.text "Data", .bytes .array [1, 2, 3])]
    rfl (by decide) rfl (.inl rfl)
    (by simp [Marshalling.splitUri, splitFirst, PathTemplate.ofChars])
    (by simp [Binding.IsField]) (by decide) (by
      have hitems : Value.Plain Json.Scalar (.tuple [.null, .int 1]) := by
        refine .tuple fun v hv => ?_
        rcases List.mem_cons.1 hv with rfl | hv
        · exact .null
        · rw [List.mem_singleton.1 hv]
          have hsmall : (1 : Int).natAbs < 10 ^ maxIntegerDigits := Nat.lt_of_lt_of_le (by decide)
            (Nat.pow_le_pow_right (by decide) (show 1 ≤ maxIntegerDigits by decide))
          exact .scalar rfl (.inl ⟨hsmall, fun _ => Value.noConfusion⟩)
      have htags : Value.Plain Json.Scalar
          (.map (Fields.named [("a", .null), ("b", .tuple [.null, .int 1])])) := by
        have hnames : ∀ p ∈ [(("a" : Text), Value.null), ("b", .tuple [.null, .int 1])],
            Json.Scalar (.ofText p.1) := fun p hp => by
          simp only [List.mem_cons, List.not_mem_nil, or_false] at hp
          rcases hp with rfl | rfl <;> exact .inl (Json.isExact_text _)
        refine .map (by decide) hnames fun p hp => ?_
        rcases List.mem_cons.1 hp with rfl | hp
        · exact .null
        · rw [List.mem_singleton.1 hp]
          exact hitems
      intro b hb
      rcases List.mem_cons.1 hb with rfl | hb
      · exact .scalar rfl (.inr ⟨_, _, rfl⟩)
      · rw [List.mem_singleton.1 hb]
        exact htags)
  have haddress : Operation.HasAddress ⟨.awsJson, "/", "POST", some "Trent.Encrypt", false, true⟩
      "/" "https://localhost" := by
    have hjoin : Marshalling.joinPath "" "/" = "/" := Marshalling.joinPath_of_slash rfl ""
    have hparse : Url.parse "/" = .ok ⟨"", "", "/", "", ""⟩ := rfl
    have hplain : Url.normalize "/" = .ok "/" := rfl
    refine ⟨⟨"https", "localhost", "", "", ""⟩, rfl, none, rfl,
      ⟨"/", ?_, ⟨"", "", "/", "", ""⟩, ?_, hplain⟩,
      ⟨"https", "localhost", "", "", ""⟩, "https://localhost", rfl, rfl, rfl, rfl⟩
    · rw [Operation.parts, hjoin]
      decide
    · rw [Operation.parts, hjoin]
      exact hparse
  obtain ⟨hiff, hread⟩ := h "https://localhost" (.withoutFiles "b")
  obtain ⟨r, hr⟩ := hiff.2 ⟨by decide, by decide, haddress⟩
  exact ⟨m, hm, r, hr, (hread r hr).1⟩

/-- Without any member, the request is not made for a content type or a target with a line break,
nor for a path that is no URL. -/
theorem json_body_not_sent :
    (∀ parts r, Dialect.request ⟨⟨"1.1\n", none, false, false, .root, []⟩, .json, []⟩
      ⟨.restJson, "/", "POST", none, false, true⟩ [] (.map []) "https://localhost" parts ≠ .ok r) ∧
    (∀ parts r, Dialect.request ⟨⟨"1.1", none, false, false, .root, []⟩, .json, []⟩
      ⟨.awsJson, "/", "POST", some "a\nb", false, true⟩ [] (.map []) "https://localhost" parts ≠
        .ok r) ∧
    (∀ name, .parameter name ∉ PathTemplate.ofChars (Marshalling.splitUri "//[").1) ∧
    ∀ parts r, Dialect.request ⟨⟨"1.1", none, false, false, .root, []⟩, .json, []⟩
      ⟨.restJson, "//[", "POST", none, false, true⟩ [] (.map []) "https://localhost" parts ≠
        .ok r := by
  have huri : ∀ name, .parameter name ∉ PathTemplate.ofChars (Marshalling.splitUri "//[").1 := by
    simp [Marshalling.splitUri, splitFirst, PathTemplate.ofChars]
  refine ⟨fun parts r h => ?_, fun parts r h => ?_, huri, fun parts r h => ?_⟩
  · cases h
  · cases h
  · obtain ⟨m, hm, h⟩ := bind_eq_ok.1 h
    obtain ⟨m', hm', h⟩ := bind_eq_ok.1 h
    cases hm
    cases hm'
    have henc : Encoding.json.encode (.map []) = .ok [123, 125] := rfl
    have hiff := (Marshalling.finish_fields (o := ⟨.restJson, "//[", "POST", none, false, true⟩)
      rfl huri henc (by decide) "application/x-amz-json-1.1" .emptyDocument "https://localhost"
      parts).1
    obtain ⟨-, -, target, ht, port, -, ⟨plain, -, u, hu, -⟩, -⟩ := hiff.1 ⟨r, h⟩
    cases ht
    have hjoin : Marshalling.joinPath "" "//[" = "//[" := Marshalling.joinPath_of_slash rfl ""
    have hbad : Url.parse "//[" = .error (.url .bracketMismatch) := rfl
    have hu' : Url.parse (Marshalling.joinPath "" "//[") = .ok u := hu
    rw [hjoin, hbad] at hu'
    cases hu'

end Dialect

end ServiceClient
