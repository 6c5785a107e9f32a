import ServiceClient.Proofs.Payload
import ServiceClient.Proofs.RequestFailures
import ServiceClient.Proofs.WrittenBodies

/-!
# Bodies and their content type

A client announces the encoding of its bodies by their content type. The writer of a body gives a
document of that encoding, or nothing. A member that is the whole body goes past the writer, as
text or bytes, and is announced all the same.

* `Encoding.mediaType_ne`: the type of an encoding is that of no form.
* `Request.bodyOf_typed`, `Request.bodyOf_untyped`: the type of a body that is sent.
* `Marshalling.call_admits`: members call the writer with what the caller gives.
* `Marshalling.addMembers_writer`: what calls keep of a writer, members keep.
* `Dialect.Completes.read_or_member`: a body has been written and is read, or is that of a member.
* `Dialect.body_announced`: which bodies are documents of the encoding that is announced.
-/

namespace ServiceClient

/-! ### Content types -/

/-- What starts and ends without a blank stays in front of a text that is trimmed. -/
theorem trimChars_append {p : List Char} (hne : p ≠ []) (hfront : p.dropWhile isBlank = p)
    (hback : p.reverse.dropWhile isBlank = p.reverse) (s : List Char) :
    p <+: trimChars (p ++ s) := by
  have hempty : p.isEmpty = false := Bool.eq_false_iff.2 fun h => hne (List.isEmpty_iff.1 h)
  unfold trimChars
  rw [List.dropWhile_append, hfront, hempty, if_neg (by decide), List.reverse_append,
    List.dropWhile_append, hback]
  split
  · rw [List.reverse_reverse]
  · rw [List.reverse_append, List.reverse_reverse]
    exact List.prefix_append p _

namespace Encoding

/-- The content type of an encoding is not empty, and is that of no form. -/
theorem mediaType_ne (e : Encoding) (version : String) :
    e.mediaType ++ version ≠ "" ∧
      Form.mediaTypeOf (e.mediaType ++ version : String) ≠ Form.urlType ∧
        Form.mediaTypeOf (e.mediaType ++ version : String) ≠ Form.partsType := by
  have hne : e.mediaType.toList ≠ [] := by cases e <;> decide
  have hmark : e.mediaType.toList.all (· != ';') = true := by cases e <;> rfl
  have hfront : e.mediaType.toList.dropWhile isBlank = e.mediaType.toList := by cases e <;> rfl
  have hback : e.mediaType.toList.reverse.dropWhile isBlank = e.mediaType.toList.reverse := by
    cases e <;> rfl
  have hchars : (e.mediaType ++ version).toList = e.mediaType.toList ++ version.toList :=
    String.toList_append
  -- the name of the encoding stays in front, which no form has
  have hprefix : e.mediaType.toList <+:
      (Form.mediaTypeOf (e.mediaType ++ version : String)).toList := by
    rw [Form.mediaTypeOf, trim, String.toList_ofList, String.toList_ofList, Text.replaced_ofString,
      hchars, List.takeWhile_append_of_pos (List.all_eq_true.1 hmark)]
    exact trimChars_append hne hfront hback _
  refine ⟨fun h => ?_, fun h => ?_, fun h => ?_⟩
  · rw [h] at hchars
    exact hne (List.append_eq_nil_iff.1 hchars.symm).1
  · rw [h] at hprefix
    revert hprefix
    cases e <;> decide
  · rw [h] at hprefix
    revert hprefix
    cases e <;> decide

end Encoding

namespace Request

variable {parts : Multipart} {data : Value} {headers : Headers} {sent : Bytes × Headers}

/-- A body that has a type other than those of forms is the bytes as they are. -/
theorem bodyOf_typed {type : Text} (htype : headers.get? "Content-Type" = some type)
    (hurl : Form.mediaTypeOf type ≠ Form.urlType) (hparts : Form.mediaTypeOf type ≠ Form.partsType)
    (h : bodyOf parts data headers = .ok sent) :
    sent.2.get? "Content-Type" = some type ∧ (sent.1 ≠ [] → data = .blob sent.1) := by
  have hform : ∀ {entries : List (Value × Value)}, Form.write parts entries headers = .ok sent →
      sent = ([], headers) := by
    intro entries hwrite
    cases (Form.write_eq_ok.1 hwrite).2 with
    | parts hmedia => exact absurd ((Form.mediaType_of_some htype).symm.trans hmedia) hparts
    | url hmedia => exact absurd ((Form.mediaType_of_some htype).symm.trans hmedia) hurl
    | nothing => rfl
  unfold bodyOf at h
  split at h
  · rw [hform h]
    exact ⟨htype, fun hne => absurd rfl hne⟩
  · split at h
    · rw [← Except.ok.inj h]
      exact ⟨(Form.get?_withLength (by decide)).trans htype, fun _ => rfl⟩
    · rw [hform h]
      exact ⟨htype, fun hne => absurd rfl hne⟩
    · cases h

/-- A body that has no type gets that of a form at most. -/
theorem bodyOf_untyped (hnone : headers.get? "Content-Type" = none)
    (h : bodyOf parts data headers = .ok sent) {type : Text}
    (htype : sent.2.get? "Content-Type" = some type) :
    Form.mediaTypeOf type = Form.urlType ∨ Form.mediaTypeOf type = Form.partsType := by
  have hform : ∀ {entries : List (Value × Value)}, Form.write parts entries headers = .ok sent →
      Form.mediaTypeOf type = Form.urlType ∨ Form.mediaTypeOf type = Form.partsType := by
    intro entries hwrite
    have hsent := (Form.write_eq_ok.1 hwrite).2.type
    rw [htype, hnone, Option.none_or] at hsent
    split at hsent
    · rw [Option.some.inj hsent]
      exact .inr (Form.mediaTypeOf_boundaryType parts)
    · split at hsent
      · rw [Option.some.inj hsent]
        exact .inl (by decide)
      · cases hsent
  unfold bodyOf at h
  split at h
  · exact hform h
  · split at h
    · rw [← Except.ok.inj h, Form.get?_withLength (by decide), hnone] at htype
      cases htype
    · exact hform h
    · cases h

end Request

/-- A call that succeeds keeps a property of a writer. -/
def BodyWriter.Keeps (P : BodyWriter → Prop) (c : Document.Call) : Prop :=
  ∀ w w' : BodyWriter, P w → w.perform c = (.ok (), w') → P w'

namespace Marshalling

variable {m m' : Marshalling} {P : BodyWriter → Prop} {e : Encoding} {body : Value}

/-- **The type of a body is sent** unless the writer is silent, if no member sends one. -/
theorem type_of_finishHeaders {type : String} (htype : m.contentType = some type)
    (hne : type ≠ "") (hown : m.headers.contains "Content-Type" = false) {headers : Headers}
    (h : m.finishHeaders body = .ok headers) :
    headers.get? "Content-Type" = if m.writer.isSilent = true then none else some ↑type := by
  rw [finishHeaders_eq] at h
  obtain ⟨typed, h, htarget⟩ := bind_eq_ok.1 h
  obtain ⟨started, hlength, htyped⟩ := bind_eq_ok.1 h
  have hstarted : started.contains "Content-Type" = false :=
    (contains_lengthHeader hlength).trans hown
  have hkept : headers.get? "Content-Type" = typed.get? "Content-Type" := by
    unfold targetHeader at htarget
    split at htarget
    · rw [Except.ok.inj htarget]
    · obtain ⟨-, rfl⟩ := Headers.set_eq_ok.1 htarget
      exact Headers.get?_put_of_ne (by decide)
  have hempty : type.isEmpty = false := Bool.eq_false_iff.2 fun h => hne (String.isEmpty_iff.1 h)
  rw [hkept]
  unfold typeHeader at htyped
  rw [htype] at htyped
  simp only [hstarted, hempty, Bool.false_or] at htyped
  split at htyped
  · rename_i hsilent
    rw [if_pos hsilent, ← Except.ok.inj htyped]
    rw [Headers.contains_eq] at hstarted
    exact Option.not_isSome_iff_eq_none.1 (by rw [hstarted]; decide)
  · rename_i hsilent
    obtain ⟨-, rfl⟩ := Headers.set_eq_ok.1 htyped
    rw [if_neg hsilent, Headers.get?_put]

/-- The path of an operation at the root. -/
theorem resolvedPath_root (h : m.operation.uri = "/") : m.resolvedPath = .ok "/" := by
  unfold resolvedPath
  rw [h]
  show PathTemplate.expand (.ofChars ['/']) m.path = _
  rw [PathTemplate.ofChars_literal (by decide), PathTemplate.ofChars]
  rfl

/-! ### Calls of members -/

/-- **Members call the writer with what the caller gives**: a value, or what its text says. -/
theorem call_admits {b : Binding} {v : Value} {c : Document.Call}
    (hv : b.area = .body → e.Admits v) (h : .call c ∈ (m.contributionOf b v).parts) :
    c.Admits e := by
  have hv : e.Admits v := hv (area_contributionOf h).symm
  unfold contributionOf at h
  split at h
  · unfold emptyContribution at h
    split at h
    · cases h
    · simp only [List.mem_cons, List.not_mem_nil, or_false, Part.call.injEq] at h
      rcases h with rfl | rfl <;> trivial
  · unfold Binding.bodyContribution at h
    split at h
    · obtain ⟨s, -, hs⟩ := bind_eq_ok.1 (Contribution.mem_ofExcept h)
      cases hs
    · obtain ⟨s, -, hs⟩ := bind_eq_ok.1 (Contribution.mem_ofExcept h)
      cases hs
    · cases List.mem_singleton.1 h
      exact hv
  · cases h
  · -- only a field of the body calls the writer
    rcases Contribution.mem_append (Binding.mem_payloadContribution h rfl) with h | h
    · cases List.mem_singleton.1 h
      exact .text b.name
    · obtain ⟨x, hx, hc⟩ := bind_eq_ok.1 (Contribution.mem_ofExcept h)
      cases hc
      split at hx
      · exact Json.given_of_read (mapError_eq_ok.1 hx)
      · cases hx
        exact hv

theorem put_writer {p : Part} (hp : ∀ c, p = .call c → BodyWriter.Keeps P c) (hm : P m.writer)
    (h : m.put p = (.ok (), m')) : P m'.writer := by
  by_cases harea : p.area = .body
  · cases p with
    | call c =>
      obtain ⟨hok, hm'⟩ := Prod.mk.inj h
      rw [← hm']
      exact hp c rfl _ _ hm (Prod.ext hok rfl)
    | body v =>
      rw [← (Prod.mk.inj h).2]
      exact hm
    | _ => cases harea
  · -- the other parts leave the writer alone
    have hkept := put_changesOnly (m := m) p
    rw [h] at hkept
    rw [(hkept.body harea).1]
    exact hm

theorem putAll_writer {parts : List Part} (hparts : ∀ c, .call c ∈ parts → BodyWriter.Keeps P c)
    (hm : P m.writer) (h : m.putAll parts = (.ok (), m')) : P m'.writer := by
  induction parts generalizing m with
  | nil =>
    rw [← (Prod.mk.inj h).2]
    exact hm
  | cons p rest ih =>
    rw [putAll] at h
    split at h
    · rename_i m₁ hput
      have hm₁ : P m₁.writer :=
        put_writer (fun c hc => hparts c (by rw [hc]; exact List.mem_cons_self)) hm hput
      exact ih (fun c hc => hparts c (List.mem_cons_of_mem _ hc)) hm₁ h
    · cases (Prod.mk.inj h).1

theorem add_writer {b : Binding} {v : Value}
    (hcalls : ∀ c, .call c ∈ (m.contributionOf b v).parts → BodyWriter.Keeps P c)
    (hm : P m.writer) (h : m.add b v = (.ok (), m')) : P m'.writer := by
  unfold add contribute at h
  split at h
  · cases (Prod.mk.inj h).1
  · exact putAll_writer hcalls hm h

/-- **What calls keep of a writer, members keep.** -/
theorem addMembers_writer {bindings : List Binding} {request : Value}
    (hcalls : ∀ b ∈ bindings, ∀ v, memberOf request b.member = .ok v → ∀ (m : Marshalling) c,
      .call c ∈ (m.contributionOf b v).parts → BodyWriter.Keeps P c)
    (hm : P m.writer) (h : addMembers bindings request m = .ok m') : P m'.writer := by
  induction bindings generalizing m with
  | nil =>
    rw [← Except.ok.inj h]
    exact hm
  | cons b rest ih =>
    rw [List.forall_mem_cons] at hcalls
    obtain ⟨v, hv, h⟩ := bind_eq_ok.1 h
    obtain ⟨u, hadd, h⟩ := bind_eq_ok.1 h
    have hadded : P (m.add b v).2.writer :=
      add_writer (hcalls.1 v hv m) hm (Prod.ext hadd rfl)
    exact ih hcalls.2 hadded h

theorem start_writer (hobject : BodyWriter.Keeps P .startObject) (hm : P m.writer)
    (h : m.start = (.ok (), m')) : P m'.writer := by
  unfold start at h
  split at h
  · rw [← (Prod.mk.inj h).2]
    exact hm
  · exact put_writer (p := .call .startObject) (fun c hc => by cases hc; exact hobject) hm h

theorem finishBody_writer (hobject : BodyWriter.Keeps P .endObject) (hm : P m.writer)
    (h : m.finishBody.1 = .ok body) : P m.finishBody.2.writer := by
  unfold finishBody at h ⊢
  by_cases hmember : m.operation.hasBodyMember = true
  · rw [if_pos hmember]
    exact hm
  · rw [if_neg hmember] at h ⊢
    obtain ⟨u, hclosed, -⟩ := bind_eq_ok.1 h
    exact put_writer (p := .call .endObject) (fun c hc => by cases hc; exact hobject) hm
      (Prod.ext hclosed rfl)

end Marshalling

namespace Dialect

variable {d : Dialect} {o : Operation} {bindings : List Binding} {request : Value}
  {m : Marshalling} {body : Value}

/-- What the writer of an operation has, and all calls of a request keep, the writer has at the
end. -/
theorem Completes.writer {P : BodyWriter → Prop} (h : d.Completes o bindings request m body)
    (hwriter : P (d.writer o)) (hstart : BodyWriter.Keeps P .startObject)
    (hend : BodyWriter.Keeps P .endObject)
    (hcalls : ∀ b ∈ bindings, ∀ v, Marshalling.memberOf request b.member = .ok v →
      ∀ (m : Marshalling) c, .call c ∈ (m.contributionOf b v).parts → BodyWriter.Keeps P c) :
    P m.finishBody.2.writer := by
  obtain ⟨started, hstarted, hadd⟩ := bind_eq_ok.1 h.marshalled
  obtain ⟨empty, -, hopened⟩ := Dialect.marshalling_eq_ok.1 hstarted
  have hopen : P started.writer := Marshalling.start_writer hstart hwriter hopened
  have hadded : P m.writer :=
    Marshalling.addMembers_writer hcalls hopen (Marshalling.addAll_eq_ok hadd)
  exact Marshalling.finishBody_writer hend hadded h.complete

/-- A writer stays silent, or stays not silent. -/
theorem Completes.isSilent (h : d.Completes o bindings request m body) :
    m.finishBody.2.writer.isSilent = (d.writer o).isSilent := by
  have hkeeps : ∀ c, BodyWriter.Keeps (fun w => w.isSilent = (d.writer o).isSilent) c := by
    intro c w w' hw hok
    have hsame := Marshalling.perform_isSilent c w
    rw [hok] at hsame
    exact hsame.trans hw
  exact h.writer (P := fun w => w.isSilent = (d.writer o).isSilent) rfl (hkeeps _) (hkeeps _)
    fun _ _ _ _ _ c _ => hkeeps c

/-- The writer holds what its encoding can show, if the caller gives nothing else. -/
theorem Completes.shows (h : d.Completes o bindings request m body)
    (hgiven : d.encoding ≠ .json → ∀ b ∈ bindings, b.area = .body → ∀ v,
      Marshalling.memberOf request b.member = .ok v → d.encoding.Admits v) :
    m.finishBody.2.writer.Shows d.encoding := by
  have hwriter : (d.writer o).Shows d.encoding := by
    unfold Dialect.writer
    split
    · exact ⟨rfl, fun _ => Document.shows_empty _⟩
    · trivial
  have hkeeps : ∀ c : Document.Call, (d.encoding ≠ .json → c.Admits d.encoding) →
      BodyWriter.Keeps (BodyWriter.Shows d.encoding) c :=
    fun c hc w w' hw hok => hw.perform hc hok
  refine h.writer hwriter (hkeeps _ fun _ => trivial) (hkeeps _ fun _ => trivial) ?_
  intro b hb v hv m c hc
  exact hkeeps c fun hjson =>
    Marshalling.call_admits (fun harea => hgiven hjson b hb harea v hv) hc

/-- Bytes that are the whole body are sent with the headers of a payload, at a host with a path
that can be read, if no member has a header. -/
theorem Completes.payload_exists {s : Bytes} (h : d.Completes o bindings request m (.blob s))
    (hne : s ≠ []) (hheaders : m.headers = []) (hsilent : (d.writer o).isSilent = false)
    (htype : Headers.isValue d.contentType = true) (htarget : Headers.isValue o.target = true)
    {path : String} (hpath : m.resolvedPath = .ok path) (hquery : m.query = []) {e : DnsEndpoint}
    (hreads : o.PathReadsAt path e.text) (parts : Multipart) :
    ∃ r, (m.finish e.text parts).1 = .ok r ∧ r.body = s ∧
      r.headers = o.payloadHeaders d.contentType s.length := by
  have hclosed := m.finishBody_changesOnly
  obtain ⟨hoperation, hcontentType⟩ := h.kept
  have hoperation : m.finishBody.2.operation = o := hclosed.operation.trans hoperation
  have hfinish : ∀ headers, m.finishBody.2.finishHeaders (.blob s) = .ok headers ↔
      headers = o.payloadHeaders d.contentType s.length := by
    intro headers
    rw [Marshalling.finishHeaders_eq_ok ((hclosed.headers (by decide)).trans hheaders)
      (hclosed.contentType.trans hcontentType) (h.isSilent.trans hsilent) hne, hoperation]
    exact ⟨fun ⟨_, _, hpayload⟩ => hpayload, fun hpayload => ⟨htype, htarget, hpayload⟩⟩
  have hpairs : ∀ p ∈ m.finishBody.2.query, Marshalling.IsQueryPair p := by
    rw [hclosed.query (by decide), hquery]
    exact List.forall_mem_nil _
  obtain ⟨r, hr⟩ := (@Marshalling.assemble_exists _ _ e parts h.clean).2
    ⟨⟨path, Marshalling.finishBody_resolvedPath.trans hpath, hoperation ▸ hreads⟩, hpairs,
      _, (hfinish _).2 rfl, .inl (.inr (.inr ⟨s, rfl⟩))⟩
  obtain ⟨headers, hpayload, path', -, target, -, query, -, port, -, hmake⟩ :=
    Marshalling.assemble_eq_ok.1 hr
  obtain rfl := (hfinish headers).1 hpayload
  obtain ⟨-, plain, -, base, -, sent, hsent, rfl⟩ := Request.make_eq_ok.1 hmake
  have hsame : sent = (s, o.payloadHeaders d.contentType s.length) :=
    Except.ok.inj (hsent.symm.trans (Operation.sent_payload _ _ hne _ rfl rfl))
  refine ⟨_, (Marshalling.finish_of_body h.complete).trans hr, ?_, ?_⟩
  · rw [RequestParts.request_body, hsame, o.isChunked_payload, if_neg (by decide)]
  · exact congrArg Prod.snd hsame

/-- Without a type of its own, a client announces its encoding. -/
theorem contentType_eq (h : d.metadata.contentType = none ∨ d.metadata.contentType = some "") :
    d.contentType = d.encoding.mediaType ++ d.metadata.version := by
  unfold Dialect.contentType ServiceMetadata.contentTypeOf
  rcases h with h | h <;> rw [h] <;> rfl

/-- The type among the headers of a request, unless a member sets one. -/
theorem Completes.type_sent (h : d.Completes o bindings request m body) (hne : d.contentType ≠ "")
    (hown : m.headers.contains "Content-Type" = false) {headers : Headers}
    (hheaders : m.finishBody.2.finishHeaders body = .ok headers) :
    headers.get? "Content-Type" =
      if (d.writer o).isSilent = true then none else some ↑d.contentType := by
  have hclosed := m.finishBody_changesOnly
  rw [← h.isSilent]
  refine Marshalling.type_of_finishHeaders (hclosed.contentType.trans h.kept.2) hne ?_ hheaders
  rw [hclosed.headers (by decide)]
  exact hown

/-- Bytes that are sent have been written, and are read, or are those of a member. -/
theorem Completes.read_or_member (h : d.Completes o bindings request m body)
    (hgiven : d.encoding ≠ .json → ∀ b ∈ bindings, b.area = .body → ∀ v,
      Marshalling.memberOf request b.member = .ok v → d.encoding.Admits v)
    {s : Bytes} (hsent : (∃ text, body = .text text) ∨ body = .blob s) (hne : s ≠ []) :
    (m.body = none ∧ ∃ v, d.encoding.parse s = .ok v) ∨
      ∃ b ∈ bindings, ∃ v, Marshalling.memberOf request b.member = .ok v ∧
        Marshalling.BodyOf b v (.blob s) := by
  rcases Marshalling.finishBody_body h.complete with hmember | ⟨hnone, t, rfl, hwritten⟩
  · obtain ⟨b, hb, v, hv, hput⟩ := h.bodyOf hmember
    rcases hsent with ⟨text, rfl⟩ | rfl
    · -- a member does not put a text in the place of the body
      rcases hput.cases with ⟨t, ht⟩ | ⟨-, -, htext⟩
      · cases ht
      · cases htext
    · exact .inr ⟨b, hb, v, hv, hput⟩
  · rcases hsent with ⟨text, htext⟩ | hsame
    · cases htext
    · cases hsame
      exact .inl ⟨hnone, BodyWriter.parse_of_bytes (h.shows hgiven) hwritten hne⟩

/-- **Which bodies are documents of the encoding that is announced.** Unless a member sets the
content type, a request announces the encoding of its client, exactly if its writer is not silent.
A body that is announced so and is not empty has been written and is read, as long as the encoding
can show the timestamps that the caller gives; or it is that of a member, past the writer. -/
theorem body_announced (d : Dialect)
    (htype : d.metadata.contentType = none ∨ d.metadata.contentType = some "") (o : Operation)
    (bindings : List Binding) (request : Value)
    (hgiven : d.encoding ≠ .json → ∀ b ∈ bindings, b.area = .body → ∀ v,
      Marshalling.memberOf request b.member = .ok v → d.encoding.Admits v)
    (m : Marshalling) (hm : (d.marshalling o >>= Marshalling.addAll bindings request) = .ok m)
    (hown : m.headers.contains "Content-Type" = false) (endpoint : String) (parts : Multipart)
    (r : Request) (hr : (m.finish endpoint parts).1 = .ok r) :
    (r.headers.get? "Content-Type" =
        some ((d.encoding.mediaType ++ d.metadata.version : String) : Text) ↔
      (d.writer o).isSilent = false) ∧
    ((d.writer o).isSilent = false → r.body ≠ [] →
      (m.body = none ∧ ∃ v, d.encoding.parse r.body = .ok v) ∨
      ∃ b ∈ bindings, ∃ v, Marshalling.memberOf request b.member = .ok v ∧
        Marshalling.BodyOf b v (.blob r.body)) := by
  obtain ⟨body, hbody, hassemble⟩ := Marshalling.finish_eq_ok.1 hr
  have hcompletes : d.Completes o bindings request m body := ⟨hm, hbody⟩
  obtain ⟨headers, hheaders, path, -, target, -, query, -, port, -, hmake⟩ :=
    Marshalling.assemble_eq_ok.1 hassemble
  obtain ⟨-, plain, -, base, -, sent, hsent, rfl⟩ := Request.make_eq_ok.1 hmake
  obtain ⟨data, hdata, hsent⟩ := bind_eq_ok.1 hsent
  -- the type of the client is no type of a form
  obtain ⟨hne, hurl, hparts⟩ := d.encoding.mediaType_ne d.metadata.version
  rw [← contentType_eq htype] at hne hurl hparts ⊢
  have hvalue := hcompletes.type_sent hne hown hheaders
  cases hsilent : (d.writer o).isSilent with
  | true =>
    rw [hsilent, if_pos rfl] at hvalue
    refine ⟨⟨fun h => ?_, fun h => (by cases h)⟩, fun h => (by cases h)⟩
    rcases Request.bodyOf_untyped hvalue hsent h with hform | hform
    · exact absurd hform hurl
    · exact absurd hform hparts
  | false =>
    rw [hsilent, if_neg (by decide)] at hvalue
    obtain ⟨htyped, hbytes⟩ := Request.bodyOf_typed hvalue hurl hparts hsent
    refine ⟨⟨fun _ => rfl, fun _ => htyped⟩, fun _ hne => ?_⟩
    rw [RequestParts.request_body] at hne ⊢
    split at hne
    · exact absurd rfl hne
    · rename_i hwhole
      rw [if_neg hwhole]
      refine hcompletes.read_or_member hgiven ?_ hne
      rcases toBytes_eq_ok.1 hdata with ⟨text, htext, -⟩ | ⟨-, hsame⟩
      · exact .inl ⟨text, htext⟩
      · exact .inr (hsame.symm.trans (hbytes hne))

/-- A set with a timestamp is announced and read as CBOR. -/
theorem body_announced_cbor :
    ∃ m r, (Dialect.marshalling ⟨⟨"1.1", none, true, false, .root, []⟩, .cbor, []⟩
        ⟨.restJson, "/", "PUT", none, false, true⟩ >>= Marshalling.addAll
          [⟨.plain, .payload, "At", none, false, none⟩]
          (.map [(.text "At", .set [.timestamp ⟨0, some 3600⟩])])) = .ok m ∧
      (m.finish DnsEndpoint.localhost.text (.withoutFiles "b")).1 = .ok r ∧
      r.headers.get? "Content-Type" = some ("application/x-amz-cbor-1.1" : Text) ∧
      ∃ v, Encoding.cbor.parse r.body = .ok v := by
  obtain ⟨m, hm, s, hbody, hne, hheaders, huri, hquery⟩ : ∃ m,
      (Dialect.marshalling ⟨⟨"1.1", none, true, false, .root, []⟩, .cbor, []⟩
        ⟨.restJson, "/", "PUT", none, false, true⟩ >>= Marshalling.addAll
          [⟨.plain, .payload, "At", none, false, none⟩]
          (.map [(.text "At", .set [.timestamp ⟨0, some 3600⟩])])) = .ok m ∧
      ∃ s, m.finishBody.1 = .ok (.blob s) ∧ s ≠ [] ∧ m.headers = [] ∧ m.operation.uri = "/" ∧
        m.query = [] :=
    ⟨_, rfl, _, rfl, by decide, rfl, rfl, rfl⟩
  obtain ⟨r, hr, rfl, -⟩ := Completes.payload_exists (e := .localhost) ⟨hm, hbody⟩ hne hheaders
    rfl rfl rfl (Marshalling.resolvedPath_root huri) hquery (Operation.pathReadsAt_root rfl)
    (.withoutFiles "b")
  have hset : Encoding.cbor.Admits (.set [.timestamp ⟨0, some 3600⟩]) := by
    refine .set fun v hv => ?_
    rw [List.mem_singleton.1 hv]
    exact .timestamp ⟨rfl, fun o ho => by cases ho; decide⟩
  obtain ⟨hannounced, hread⟩ := body_announced
    ⟨⟨"1.1", none, true, false, .root, []⟩, .cbor, []⟩ (.inl rfl)
    ⟨.restJson, "/", "PUT", none, false, true⟩ [⟨.plain, .payload, "At", none, false, none⟩]
    (.map [(.text "At", .set [.timestamp ⟨0, some 3600⟩])])
    (fun _ b hb _ v hv => by
      rw [List.mem_singleton.1 hb] at hv
      cases hv
      exact hset)
    m hm (by rw [hheaders]; rfl) _ _ r hr
  refine ⟨m, r, hm, hr, hannounced.2 rfl, ?_⟩
  rcases hread rfl hne with ⟨-, hparse⟩ | ⟨b, hb, v, -, hput⟩
  · exact hparse
  · rw [List.mem_singleton.1 hb] at hput
    cases hput.isBody

/-- Bytes that are the whole body are announced as JSON, which they are not. -/
theorem body_announced_past_writer :
    ∃ m, (Dialect.marshalling ⟨⟨"1.1", none, false, false, .root, []⟩, .json, []⟩
        ⟨.restJson, "/", "PUT", none, true, true⟩ >>= Marshalling.addAll
          [⟨.blob, .payload, "Body", none, true, none⟩] (.map [(.text "Body", .blob [255])])) =
            .ok m ∧
      m.headers.contains "Content-Type" = false ∧
      ∀ parts, ∃ r, (m.finish DnsEndpoint.localhost.text parts).1 = .ok r ∧ r.body = [255] ∧
        r.headers.get? "Content-Type" = some ("application/x-amz-json-1.1" : Text) ∧
        ∀ v, Encoding.json.parse r.body ≠ .ok v := by
  obtain ⟨m, hm, hbody, hheaders, huri, hquery⟩ : ∃ m,
      (Dialect.marshalling ⟨⟨"1.1", none, false, false, .root, []⟩, .json, []⟩
        ⟨.restJson, "/", "PUT", none, true, true⟩ >>= Marshalling.addAll
          [⟨.blob, .payload, "Body", none, true, none⟩] (.map [(.text "Body", .blob [255])])) =
            .ok m ∧
      m.finishBody.1 = .ok (.blob [255]) ∧ m.headers = [] ∧ m.operation.uri = "/" ∧
        m.query = [] :=
    ⟨_, rfl, rfl, rfl, rfl, rfl⟩
  refine ⟨m, hm, by rw [hheaders]; rfl, fun parts => ?_⟩
  obtain ⟨r, hr, hsent, htyped⟩ := Completes.payload_exists (e := .localhost) ⟨hm, hbody⟩
    (by decide) hheaders rfl rfl rfl (Marshalling.resolvedPath_root huri) hquery
    (Operation.pathReadsAt_root rfl) parts
  refine ⟨r, hr, hsent, ?_, fun v h => ?_⟩
  · rw [htyped]
    decide
  · -- no text in UTF-8 has such a byte
    rw [hsent] at h
    obtain ⟨text, htext, -⟩ := bind_eq_ok.1 h
    obtain ⟨chars, hchars, -⟩ := map_eq_ok.1 (mapError_eq_ok.1 htext)
    rw [Utf8.decodeFrom] at hchars
    cases hchars

end Dialect

end ServiceClient
