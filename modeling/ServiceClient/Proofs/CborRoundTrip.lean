import ServiceClient.Proofs.CborReading
import ServiceClient.Proofs.Payload

/-!
# What a client writes in CBOR is what a service reads

* `Encoding.parse_encode_cbor`: a normal form in CBOR is read back from its body.
* `cbor_body_reads_back`: the body of a request is read back as the normal forms of the members
  that are set, and their byte strings as they were.
-/

namespace ServiceClient

namespace Encoding

/-- **A document of CBOR is read back from its body**, which it has exactly if its lengths fit. -/
theorem parse_encode_cbor {v : Value} (h : v.Held Value.IsBasicRead) :
    ((∃ body, cbor.encode v = .ok body) ↔ Cbor.fits v = true) ∧
      ∀ body, cbor.encode v = .ok body → body ≠ [] ∧ cbor.parse body = .ok v := by
  have hencode : ∀ body, cbor.encode v = .ok body ↔ Cbor.write v = some body := by
    intro body
    show codecResult (Cbor.write v) = .ok body ↔ _
    cases Cbor.write v with
    | none =>
      constructor
      · intro h
        cases h
      · intro h
        cases h
    | some bytes =>
      constructor
      · intro h
        rw [Except.ok.inj h]
      · intro h
        rw [Option.some.inj h]
        rfl
  refine ⟨?_, fun body hbody => ?_⟩
  · simp only [hencode]
    exact Cbor.exists_write h
  · have hw := (hencode body).1 hbody
    refine ⟨(Cbor.readsAs_write h hw).nonempty, ?_⟩
    show codecResult (Cbor.read body) = _
    rw [Cbor.read_write h hw]
    rfl

end Encoding

namespace Dialect

/-- **What a client writes in CBOR is what a service reads.** Adding members that become fields
succeeds. The request is made for an endpoint exactly if every length in the document fits in 64
bits, content type and target have no line breaks, and the operation has an address there. Its
body is then read as the document that has, in the order of the bindings, the normal form of
every member that is set, and each byte string among the members is read back as it was. -/
theorem cbor_body_reads_back (d : Dialect) (o : Operation) (bindings : List Binding)
    (request : Fields) (hcbor : d.encoding = .cbor) (hgate : o.protocol ≠ .apiGateway)
    (hbody : o.hasBodyMember = false) (hpayload : o.hasPayload = true ∨ o.protocol = .awsJson)
    (huri : ∀ name, .parameter name ∉ PathTemplate.ofChars (Marshalling.splitUri o.uri).1)
    (hb : ∀ b ∈ bindings, b.IsField) (hd : (bindings.map (·.name)).Nodup)
    (hv : ∀ b ∈ bindings, (b.valueIn request).Plain Value.IsBasic) :
    ∃ m, (d.marshalling o >>= Marshalling.addAll bindings (.map request)) = .ok m ∧
      ∀ endpoint parts,
        ((∃ r, (m.finish endpoint parts).1 = .ok r) ↔
          Cbor.fits (Binding.document Encoding.cbor.convert bindings request) = true ∧
            Headers.isValue d.contentType = true ∧ Headers.isValue o.target = true ∧
              o.HasAddress (String.ofList (Marshalling.splitUri o.uri).1) endpoint) ∧
        ∀ r, (m.finish endpoint parts).1 = .ok r →
          d.encoding.parse r.body =
            .ok (Binding.document Encoding.cbor.convert bindings request) ∧
          ∀ b ∈ bindings, ∀ kind s, b.valueIn request = .bytes kind s → ∀ response,
            Reply.blob ⟨Binding.document Encoding.cbor.convert bindings request, response,
              d.encoding⟩ b.name = .ok (.blob s) := by
  obtain ⟨empty, hm⟩ := d.marshalling_fields hgate hbody hpayload hb hd (fun _ => trivial) hv
  have hholds := @Value.Plain.heldBasic Encoding.cbor.convert _
    (Binding.plain_fieldsOf hd (fun _ => trivial) hv) (fun _ => rfl) (fun _ => rfl) (fun _ => rfl)
    fun _ _ => rfl
  rw [Value.normalForm, ← Binding.document_eq] at hholds
  obtain ⟨hencodes, hparse⟩ := Encoding.parse_encode_cbor hholds
  rw [Binding.document_eq] at hencodes hparse ⊢
  rw [hcbor] at hm ⊢
  refine ⟨_, hm, fun endpoint parts => ?_⟩
  have hblob : ∀ b ∈ bindings, ∀ kind s, b.valueIn request = .bytes kind s → ∀ response,
      Reply.blob ⟨.map (Value.normalFields Encoding.cbor.convert
        (Fields.named (Binding.fieldsOf bindings request))), response, .cbor⟩ b.name =
          .ok (.blob s) := by
    intro b hmem kind s hs response
    have hset : b.valueIn request ≠ .null := by
      rw [hs]
      intro h
      cases h
    have hread := Reply.blob_of_document .cbor hd hmem hset response
    rw [Binding.document_eq, hs] at hread
    exact hread
  cases henc : Encoding.cbor.encode (.map (Value.normalFields Encoding.cbor.convert
      (Fields.named (Binding.fieldsOf bindings request)))) with
  | error e =>
    have hnone := Marshalling.finish_fields_of_error hbody henc d.contentType empty endpoint parts
    refine ⟨⟨fun hsent => ?_, fun hfits => ?_⟩, fun r hr => absurd hr (hnone r)⟩
    · obtain ⟨r, hr⟩ := hsent
      exact absurd hr (hnone r)
    · obtain ⟨body, hok⟩ := hencodes.2 hfits.1
      rw [henc] at hok
      cases hok
  | ok bytes =>
    obtain ⟨hne, hread⟩ := hparse bytes henc
    obtain ⟨hiff, hsent⟩ :=
      Marshalling.finish_fields hbody huri henc hne d.contentType empty endpoint parts
    refine ⟨hiff.trans ⟨fun h => ⟨hencodes.1 ⟨bytes, henc⟩, h⟩, fun h => h.2⟩, fun r hr => ?_⟩
    rw [hsent r hr]
    exact ⟨hread, hblob⟩

/-- A request with numbers of each size, bytes and a nested map reaches the service. -/
theorem cbor_body_reads_back_nested :
    ∃ m, (Dialect.marshalling ⟨⟨"1.1", none, true, false, .root, []⟩, .cbor, []⟩
        ⟨.awsJson, "/", "POST", some "Trent.Encrypt", false, true⟩ >>=
      Marshalling.addAll [⟨.blob, .payload, "Data", none, false, none⟩,
          ⟨.list, .payload, "Sizes", none, false, none⟩,
          ⟨.map, .payload, "Tags", none, false, none⟩]
        (.map [(.text "Tags", .map [(.text "a", .null), (.text "b", .tuple [.null])]),
          (.text "Sizes", .list [.int (-24), .int 65536, .int (2 ^ 64), .int (-2 ^ 64 - 1)]),
          (.text "Data", .bytes .view [1, 2, 3])])) = .ok m ∧
      ∃ r, (m.finish "https://localhost" (.withoutFiles "b")).1 = .ok r ∧
        Encoding.cbor.parse r.body = .ok (.map [(.text "Data", .blob [1, 2, 3]),
          (.text "Sizes", .list [.int (-24), .int 65536, .int (2 ^ 64), .int (-2 ^ 64 - 1)]),
          (.text "Tags", .map [(.text "b", .list [.null])])]) := by
  obtain ⟨m, hm, h⟩ := cbor_body_reads_back
    ⟨⟨"1.1", none, true, false, .root, []⟩, .cbor, []⟩
    ⟨.awsJson, "/", "POST", some "Trent.Encrypt", false, true⟩
    [⟨.blob, .payload, "Data", none, false, none⟩, ⟨.list, .payload, "Sizes", none, false, none⟩,
      ⟨.map, .payload, "Tags", none, false, none⟩]
    [(.text "Tags", .map [(.text "a", .null), (.text "b", .tuple [.null])]),
      (.text "Sizes", .list [.int (-24), .int 65536, .int (2 ^ 64), .int (-2 ^ 64 - 1)]),
      (.text "Data", .bytes .view [1, 2, 3])]
    rfl (by decide) rfl (.inl rfl)
    (by simp [Marshalling.splitUri, splitFirst, PathTemplate.ofChars])
    (by simp [Binding.IsField]) (by decide) (by
      have hnull : Value.Plain Value.IsBasic (.tuple [.null]) := by
        refine .tuple fun v hv => ?_
        rw [List.mem_singleton.1 hv]
        exact .null
      have htags : Value.Plain Value.IsBasic
          (.map (Fields.named [("a", .null), ("b", .tuple [.null])])) := by
        refine .map (by decide) (by simp [Value.IsBasic]) fun p hp => ?_
        rcases List.mem_cons.1 hp with rfl | hp
        · exact .null
        · rw [List.mem_singleton.1 hp]
          exact hnull
      have hsizes : Value.Plain Value.IsBasic
          (.list [.int (-24), .int 65536, .int (2 ^ 64), .int (-2 ^ 64 - 1)]) := by
        refine .list fun v hv => ?_
        simp only [List.mem_cons, List.not_mem_nil, or_false] at hv
        rcases hv with rfl | rfl | rfl | rfl <;> exact .scalar rfl trivial
      intro b hb
      simp only [List.mem_cons, List.not_mem_nil, or_false] at hb
      rcases hb with rfl | rfl | rfl
      · exact .scalar rfl trivial
      · exact hsizes
      · exact htags)
  have haddress : Operation.HasAddress ⟨.awsJson, "/", "POST", some "Trent.Encrypt", false, true⟩
      "/" "https://localhost" := by
    have hjoin : Marshalling.joinPath "" "/" = "/" := Marshalling.joinPath_of_slash rfl ""
    have hparse : Url.parse "/" = .ok ⟨"", "", "/", "", ""⟩ := rfl
    have hplain : Url.normalize "/" = .ok "/" := rfl
    refine ⟨⟨"https", "localhost", "", "", ""⟩, rfl, none, rfl,
      ⟨"/", ?_, ⟨"", "", "/", "", ""⟩, ?_, hplain⟩,
      ⟨"https", "localhost", "", "", ""⟩, "https://localhost", rfl, rfl, rfl, rfl⟩
    · rw [Operation.parts, hjoin]
      decide
    · rw [Operation.parts, hjoin]
      exact hparse
  have hfits : Cbor.fits (.map [(.text "Data", .blob [1, 2, 3]),
      (.text "Sizes", .list [.int (-24), .int 65536, .int (2 ^ 64), .int (-2 ^ 64 - 1)]),
      (.text "Tags", .map [(.text "b", .list [.null])])]) = true := by decide
  obtain ⟨hiff, hread⟩ := h "https://localhost" (.withoutFiles "b")
  obtain ⟨r, hr⟩ := hiff.2 ⟨hfits, by decide, by decide, haddress⟩
  exact ⟨m, hm, r, hr, (hread r hr).1⟩

end Dialect

end ServiceClient
