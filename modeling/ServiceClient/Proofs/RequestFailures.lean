import ServiceClient.Client
import ServiceClient.Proofs.DnsEndpoint
import ServiceClient.Proofs.Forms

/-!
# Which failures of a request are the client's own

At an endpoint with the name of a host, a request fails with the client's own failure, unless
something behind its members fails: the length of the body, a line break in a header, the path as
that of a URL, a parameter of the query without bytes, or a body that cannot be sent.

* `Marshalling.Escapes`: what fails otherwise than by a failure of the client's own.
* `Marshalling.assemble_escapes`: what makes a request fail so.
* `Marshalling.addMembers_body`: where a body comes from that is not written.
* `Dialect.request_clientError`: a request whose failures are all the client's own.
* `Dialect.request_fails`: the failures of a request, and that it is not sent then.
-/

namespace ServiceClient

/-- Bodies that are sent as they are have a length. -/
theorem Request.TakesBody.hasLength {body : Value} (h : TakesBody body) :
    Marshalling.HasLength body := by
  rcases h with h | ⟨s, rfl⟩ | ⟨s, rfl⟩
  · exact .inl h
  · exact .inr ⟨_, rfl⟩
  · exact .inr ⟨_, rfl⟩

namespace Marshalling

/-- A parameter of the query whose name and value have bytes: neither has a surrogate, and the name
is no integer of too many digits. -/
def IsQueryPair (p : Value × Text) : Prop :=
  (∃ name, queryName p.1 = .ok name) ∧ ∃ value, utf8Of p.2 = .ok value

/-- What lets a request fail otherwise than by a failure of the client's own. -/
inductive Escapes (endpoint : String) (parts : Multipart) (body : Value) (m : Marshalling) : Prop
  /-- The length of the body cannot be told. -/
  | length (h : ¬ HasLength body)
  /-- The type of the body or the name of the operation has a line break. -/
  | lineBreak (h : m.BreaksHeader)
  /-- The path is resolved, but not that of a URL. -/
  | path {path : String} (hpath : m.resolvedPath = .ok path)
      (h : ¬ m.operation.PathReadsAt path endpoint)
  /-- The path is resolved, but a parameter of the query has no bytes. -/
  | query {path : String} (hpath : m.resolvedPath = .ok path) {p : Value × Text} (hp : p ∈ m.query)
      (h : ¬ IsQueryPair p)
  /-- The path is resolved, but the body is neither text nor bytes nor the fields of a form. -/
  | body {path : String} (hpath : m.resolvedPath = .ok path) (h : ¬ Request.TakesBody body)
      (hmap : ∀ fields, body ≠ .map fields)
  /-- The path is resolved, but the form of the body cannot be written behind the headers. -/
  | form {path : String} (hpath : m.resolvedPath = .ok path) {fields : Fields}
      (hbody : body = .map fields) {headers : Headers}
      (hheaders : m.finishHeaders body = .ok headers)
      (h : ∀ sent, Form.write parts (Form.entries fields) headers ≠ .ok sent)

variable {m : Marshalling} {body : Value} {e : DnsEndpoint} {parts : Multipart}

/-- The query string is made exactly if all parameters have bytes. -/
theorem queryString_exists :
    (∃ query, m.queryString = .ok query) ↔ ∀ p ∈ m.query, IsQueryPair p := by
  have hpairs : ∀ pairs : List (Value × Text),
      (∃ bytes, queryPairs pairs = .ok bytes) ↔ ∀ p ∈ pairs, IsQueryPair p := by
    intro pairs
    induction pairs with
    | nil => exact ⟨fun _ => List.forall_mem_nil _, fun _ => ⟨_, rfl⟩⟩
    | cons p rest ih =>
      rw [List.forall_mem_cons, ← ih]
      constructor
      · rintro ⟨bytes, h⟩
        obtain ⟨name, hname, h⟩ := bind_eq_ok.1 h
        obtain ⟨value, hvalue, h⟩ := bind_eq_ok.1 h
        obtain ⟨others, hothers, -⟩ := bind_eq_ok.1 h
        exact ⟨⟨⟨name, hname⟩, value, hvalue⟩, others, hothers⟩
      · rintro ⟨⟨⟨name, hname⟩, value, hvalue⟩, others, hothers⟩
        exact ⟨_, bind_eq_ok.2 ⟨name, hname, bind_eq_ok.2 ⟨value, hvalue,
          bind_eq_ok.2 ⟨others, hothers, rfl⟩⟩⟩⟩
  rw [← hpairs]
  constructor
  · rintro ⟨query, h⟩
    obtain ⟨bytes, hbytes, -⟩ := bind_eq_ok.1 h
    exact ⟨bytes, hbytes⟩
  · rintro ⟨bytes, hbytes⟩
    exact ⟨_, bind_eq_ok.2 ⟨bytes, hbytes, rfl⟩⟩

/-- **A request can be put together** at an endpoint with the name of a host, exactly if its path is
that of a URL, its query has bytes, its headers can be sent, and so can its body. -/
theorem assemble_exists (hclean : m.headers.IsClean) :
    (∃ r, m.assemble e.text parts body = .ok r) ↔
      (∃ path, m.resolvedPath = .ok path ∧ m.operation.PathReadsAt path e.text) ∧
        (∀ p ∈ m.query, IsQueryPair p) ∧
          ∃ headers, m.finishHeaders body = .ok headers ∧
            Request.SendsBody parts body headers := by
  rw [← queryString_exists]
  constructor
  · rintro ⟨r, hr⟩
    obtain ⟨headers, hheaders, path, hpath, target, ht, query, hquery, port, -, hmake⟩ :=
      assemble_eq_ok.1 hr
    obtain ⟨-, plain, hreads, -, -, sent, hsent, -⟩ := Request.make_eq_ok.1 hmake
    exact ⟨⟨path, hpath, target, ht, plain, Operation.pathReads_parts.1 hreads⟩, ⟨query, hquery⟩,
      headers, hheaders, RequestParts.sent_exists.1 ⟨sent, hsent⟩⟩
  · rintro ⟨⟨path, hpath, target, ht, plain, hreads⟩, ⟨query, hquery⟩, headers, hheaders, hbody⟩
    -- the endpoint is read with its port, and its base behind any path
    obtain ⟨target', ht', port, hport, hbase⟩ := e.reads
    obtain rfl : target' = target := Except.ok.inj (ht'.symm.trans ht)
    obtain ⟨base, hbase⟩ := hbase m.operation path query headers body
    obtain ⟨sent, hsent⟩ := (@RequestParts.sent_exists
      (m.operation.parts path query target' port headers body) parts).2 hbody
    have hmake := Request.make_eq_ok.2 ⟨finishHeaders_clean hclean hheaders, plain,
      Operation.pathReads_parts.2 hreads, base, hbase, sent, hsent, rfl⟩
    exact ⟨_, assemble_eq_ok.2 ⟨headers, hheaders, path, hpath, target', ht, query, hquery, port,
      hport, hmake⟩⟩

/-- **A request fails otherwise than by a failure of the client's own** exactly for one of the
causes. -/
theorem assemble_escapes (hclean : m.headers.IsClean) :
    (∃ f, m.assemble e.text parts body = .error f ∧ f.isClientError = false) ↔
      m.Escapes e.text parts body := by
  rw [assemble_foreign, assemble_exists hclean, finishHeaders_ok]
  constructor
  · intro h
    -- the causes in the order in which a request meets them: headers, path, query, body
    by_cases hheaders : HasLength body ∧ ¬ m.BreaksHeader
    · obtain ⟨⟨path, hpath⟩, hnone⟩ := h.resolve_left (not_not_intro hheaders)
      by_cases hreads : m.operation.PathReadsAt path e.text
      · by_cases hquery : ∀ p ∈ m.query, IsQueryPair p
        · obtain ⟨headers, hfinish⟩ := finishHeaders_ok.2 hheaders
          have hbody : ¬ Request.SendsBody parts body headers := fun hbody =>
            hnone ⟨⟨path, hpath, hreads⟩, hquery, headers, hfinish, hbody⟩
          by_cases hmap : ∃ fields, body = .map fields
          · obtain ⟨fields, rfl⟩ := hmap
            rw [Request.sendsBody_map, not_exists] at hbody
            exact .form hpath rfl hfinish hbody
          · exact .body hpath (not_or.1 hbody).1 fun fields hfields => hmap ⟨fields, hfields⟩
        · obtain ⟨p, hp⟩ := not_forall.1 hquery
          obtain ⟨hmem, hpair⟩ := Classical.not_imp.1 hp
          exact .query hpath hmem hpair
      · exact .path hpath hreads
    · rw [not_and_or, not_not] at hheaders
      rcases hheaders with hlength | hbreak
      · exact .length hlength
      · exact .lineBreak hbreak
  · intro h
    cases h with
    | length h => exact .inl fun hheaders => h hheaders.1
    | lineBreak h => exact .inl fun hheaders => hheaders.2 h
    | path hpath h =>
      refine .inr ⟨⟨_, hpath⟩, ?_⟩
      rintro ⟨⟨path', hpath', hreads⟩, -⟩
      cases hpath.symm.trans hpath'
      exact h hreads
    | query hpath hp h => exact .inr ⟨⟨_, hpath⟩, fun hok => h (hok.2.1 _ hp)⟩
    | body hpath h hmap =>
      refine .inr ⟨⟨_, hpath⟩, ?_⟩
      rintro ⟨-, -, headers, -, htakes | ⟨fields, hfields, -⟩⟩
      · exact h htakes
      · exact hmap fields hfields
    | form hpath hbody hheaders h =>
      subst hbody
      refine .inr ⟨⟨_, hpath⟩, ?_⟩
      rintro ⟨-, -, headers, hfinish, hsends⟩
      cases hheaders.symm.trans hfinish
      obtain ⟨sent, hsent⟩ := Request.sendsBody_map.1 hsends
      exact h sent hsent

/-! ### Where a body comes from -/

/-- A member that is not the whole body has no part that is one. -/
theorem body_notMem_contribution {b : Binding} {v w : Value} :
    .body w ∉ (b.contribution v).parts := by
  intro h
  rcases Contribution.mem_append (Binding.mem_payloadContribution h rfl) with h | h
  · cases List.mem_singleton.1 h
  · obtain ⟨x, -, hx⟩ := bind_eq_ok.1 (Contribution.mem_ofExcept h)
    cases hx

/-- A body that a member which is set puts in its place, past the writer: bytes, or a text as
bytes, or what else a member for text is given. -/
structure BodyOf (b : Binding) (v body : Value) : Prop where
  isBody : b.isBody = true
  isSet : v ≠ .null
  puts : b.type = .blob ∧ (bytesOf .memory v).map Value.blob = .ok body ∨
    b.type = .string ∧ toBytes .utf8 .refuse v = .ok body

/-- The only part of a member that is a whole body is such a body. -/
theorem mem_body {b : Binding} {v w : Value} (h : .body w ∈ (m.contributionOf b v).parts) :
    BodyOf b v w := by
  unfold contributionOf at h
  split at h
  · unfold emptyContribution at h
    split at h
    · cases h
    · simp only [List.mem_cons, List.not_mem_nil, or_false, reduceCtorEq] at h
  · rename_i hbody hset
    unfold Binding.bodyContribution at h
    split at h
    · rename_i htype
      obtain ⟨s, hs, hw⟩ := bind_eq_ok.1 (Contribution.mem_ofExcept h)
      cases hw
      exact ⟨hbody, hset, .inl ⟨htype, map_eq_ok.2 ⟨s, hs, rfl⟩⟩⟩
    · rename_i htype
      obtain ⟨x, hx, hw⟩ := bind_eq_ok.1 (Contribution.mem_ofExcept h)
      cases hw
      exact ⟨hbody, hset, .inr ⟨htype, hx⟩⟩
    · cases List.mem_singleton.1 h
  · cases h
  · -- other members leave the body to the writer
    exact absurd h body_notMem_contribution

/-- Such a body is bytes, or the value of a member for text as it is, if that is no text. -/
theorem BodyOf.cases {b : Binding} {v body : Value} (h : BodyOf b v body) :
    (∃ s, body = .blob s) ∨ b.type = .string ∧ body = v ∧ body.text? = none := by
  rcases h.puts with ⟨-, hput⟩ | ⟨htype, hput⟩
  · obtain ⟨s, -, rfl⟩ := map_eq_ok.1 hput
    exact .inl ⟨s, rfl⟩
  · rcases toBytes_eq_ok.1 hput with ⟨s, -, rfl⟩ | ⟨hnone, rfl⟩
    · exact .inl ⟨_, rfl⟩
    · exact .inr ⟨htype, rfl, hnone⟩

/-- Parts leave the body of the request, or put one of them in its place. -/
theorem putAll_body {parts : List Part} : (m.putAll parts).2.body = m.body ∨
    ∃ w, .body w ∈ parts ∧ (m.putAll parts).2.body = some w := by
  induction parts generalizing m with
  | nil => exact .inl rfl
  | cons p rest ih =>
    -- one part first; a header has no way to the body, since it changes its own area only
    have hp : (m.put p).2.body = m.body ∨ ∃ w, p = .body w ∧ (m.put p).2.body = some w := by
      cases p with
      | body v => exact .inr ⟨v, rfl, rfl⟩
      | header name value =>
        have harea : (Part.header name value).area ≠ .body := Area.noConfusion
        exact .inl ((put_changesOnly _).body harea).2
      | _ => exact .inl rfl
    have hput : (m.put p).2.body = m.body ∨ ∃ w, .body w ∈ p :: rest ∧
        (m.put p).2.body = some w := by
      refine hp.imp_right ?_
      rintro ⟨w, rfl, hw⟩
      exact ⟨w, List.mem_cons_self, hw⟩
    rw [putAll]
    split
    · rename_i m₁ heq
      rw [heq] at hput
      rcases ih (m := m₁) with h | ⟨w, hw, h⟩
      · rw [h]
        exact hput
      · exact .inr ⟨w, List.mem_cons_of_mem _ hw, h⟩
    · rename_i heq
      rw [heq] at hput
      exact hput

/-- **A body that is not written** comes from a member. -/
theorem addMembers_body {bindings : List Binding} {request : Value} {m' : Marshalling}
    (h : addMembers bindings request m = .ok m') : m'.body = m.body ∨
      ∃ b ∈ bindings, ∃ v, memberOf request b.member = .ok v ∧ ∃ w, m'.body = some w ∧
        BodyOf b v w := by
  induction bindings generalizing m with
  | nil =>
    rw [← Except.ok.inj h]
    exact .inl rfl
  | cons b rest ih =>
    obtain ⟨v, hv, h⟩ := bind_eq_ok.1 h
    obtain ⟨u, -, h⟩ := bind_eq_ok.1 h
    have hadd : (m.add b v).2.body = m.body ∨ ∃ w, (m.add b v).2.body = some w ∧ BodyOf b v w := by
      have hparts : (m.add b v).2 = (m.putAll (m.contributionOf b v).parts).2 := by
        unfold add contribute
        split
        · rename_i heq _
          rw [heq]
        · rfl
      rw [hparts]
      refine putAll_body.imp_right ?_
      rintro ⟨w, hw, h⟩
      exact ⟨w, h, mem_body hw⟩
    rcases ih h with hrest | ⟨b', hb', hrest⟩
    · rw [hrest]
      refine hadd.imp_right ?_
      rintro ⟨w, hw, hbody⟩
      exact ⟨b, List.mem_cons_self, v, hv, w, hw, hbody⟩
    · exact .inr ⟨b', List.mem_cons_of_mem _ hb', hrest⟩

theorem addAll_eq_ok {bindings : List Binding} {request : Value} {m' : Marshalling}
    (h : m.addAll bindings request = .ok m') : addMembers bindings request m = .ok m' := by
  unfold addAll at h
  split at h
  · cases h
  · exact mapError_eq_ok.1 h

/-- Members of other areas leave the query as it is. -/
theorem addMembers_query {bindings : List Binding} {request : Value} {m' : Marshalling}
    (h : addMembers bindings request m = .ok m') (hquery : ∀ b ∈ bindings, b.area ≠ .query) :
    m'.query = m.query := by
  induction bindings generalizing m with
  | nil => rw [← Except.ok.inj h]
  | cons b rest ih =>
    rw [List.forall_mem_cons] at hquery
    obtain ⟨v, -, h⟩ := bind_eq_ok.1 h
    obtain ⟨u, -, h⟩ := bind_eq_ok.1 h
    exact (ih h hquery.2).trans ((add_changesOnly (m := m) b v).query hquery.1)

/-- Members fail by the client's own failure. -/
theorem addAll_eq_error {bindings : List Binding} {request : Value} {f : Failure}
    (h : m.addAll bindings request = .error f) : f.isClientError = true := by
  unfold addAll at h
  split at h
  · rw [← Except.error.inj h]
    rfl
  · obtain ⟨cause, -, rfl⟩ := mapError_eq_error.1 h
    rfl

/-- A body is complete as a member left it, or as the bytes of the writer. -/
theorem finishBody_body (h : m.finishBody.1 = .ok body) : m.body = some body ∨
    m.body = none ∧ ∃ s, body = .blob s ∧ m.finishBody.2.writer.bytes = .ok s := by
  -- closing the document leaves the body of a member alone
  have hkept : (if m.operation.hasBodyMember then ((.ok () : Except Failure Unit), m)
      else m.call .endObject).2.body = m.body := by
    split
    · rfl
    · rfl
  unfold finishBody at h ⊢
  generalize (if m.operation.hasBodyMember then ((.ok () : Except Failure Unit), m)
    else m.call .endObject) = closed at h hkept ⊢
  obtain ⟨result, m'⟩ := closed
  obtain ⟨-, -, h⟩ := bind_eq_ok.1 h
  dsimp only at hkept h ⊢
  rw [← hkept]
  cases hm' : m'.body with
  | some v =>
    rw [hm'] at h
    exact .inl (congrArg some (Except.ok.inj h))
  | none =>
    rw [hm'] at h
    obtain ⟨s, hs, h⟩ := bind_eq_ok.1 h
    exact .inr ⟨rfl, s, (Except.ok.inj h).symm, hs⟩

end Marshalling

namespace Dialect

variable {d : Dialect} {o : Operation} {bindings : List Binding} {request : Value}
  {m : Marshalling} {body : Value} {parts : Multipart}

/-- A marshalling has all members of a request, and its body is complete. -/
structure Completes (d : Dialect) (o : Operation) (bindings : List Binding) (request : Value)
    (m : Marshalling) (body : Value) : Prop where
  marshalled : (d.marshalling o >>= Marshalling.addAll bindings request) = .ok m
  complete : m.finishBody.1 = .ok body

/-- A request whose body is complete is put together. -/
theorem Completes.request_eq (h : d.Completes o bindings request m body) (endpoint : String)
    (parts : Multipart) :
    d.request o bindings request endpoint parts =
      m.finishBody.2.assemble endpoint parts body := by
  obtain ⟨started, hstart, hadd⟩ := bind_eq_ok.1 h.marshalled
  unfold Dialect.request
  rw [hstart]
  show started.addAll bindings request >>= (fun m => (m.finish endpoint parts).1) = _
  rw [hadd]
  exact Marshalling.finish_of_body h.complete

/-- The headers of members have no line breaks. -/
theorem Completes.clean (h : d.Completes o bindings request m body) :
    m.finishBody.2.headers.IsClean := by
  obtain ⟨started, hstart, hadd⟩ := bind_eq_ok.1 h.marshalled
  obtain ⟨-, hnil, -⟩ := marshalling_start hstart
  have hstarted : started.headers.IsClean := by
    rw [hnil]
    exact List.forall_mem_nil _
  rw [m.finishBody_changesOnly.headers (by decide)]
  exact Marshalling.addMembers_clean (Marshalling.addAll_eq_ok hadd) hstarted

/-- No member has been added at the start. -/
theorem marshalling_body {started : Marshalling} (h : d.marshalling o = .ok started) :
    started.body = none := by
  obtain ⟨empty, -, hstart⟩ := Dialect.marshalling_eq_ok.1 h
  have hbody : (Marshalling.new o (some d.contentType) empty (d.writer o)).start.2.body = none := by
    unfold Marshalling.start
    split
    · rfl
    · rfl
  rw [hstart] at hbody
  exact hbody

/-- A body that is not written is that of a member. -/
theorem Completes.bodyOf (h : d.Completes o bindings request m body) (hm : m.body = some body) :
    ∃ b ∈ bindings, ∃ v, Marshalling.memberOf request b.member = .ok v ∧
      Marshalling.BodyOf b v body := by
  obtain ⟨started, hstart, hadd⟩ := bind_eq_ok.1 h.marshalled
  have hnone : started.body = none := marshalling_body hstart
  rcases Marshalling.addMembers_body (Marshalling.addAll_eq_ok hadd) with heq | ⟨b, hb, v, hv, w,
    hw, hput⟩
  · rw [heq, hnone] at hm
    cases hm
  · obtain rfl : w = body := Option.some.inj (hw.symm.trans hm)
    exact ⟨b, hb, v, hv, hput⟩

/-- **A body that is neither text nor bytes** is the value of a member for text. -/
theorem Completes.body_eq (h : d.Completes o bindings request m body)
    (hbody : ¬ Request.TakesBody body) : ∃ b ∈ bindings, b.isBody = true ∧ b.type = .string ∧
      Marshalling.memberOf request b.member = .ok body := by
  have hbytes : ¬ ∃ s, body = .blob s := by
    rintro ⟨s, rfl⟩
    exact hbody (.inr (.inr ⟨s, rfl⟩))
  have hm : m.body = some body :=
    (Marshalling.finishBody_body h.complete).resolve_right fun ⟨_, s, hs, _⟩ => hbytes ⟨s, hs⟩
  obtain ⟨b, hb, v, hv, hput⟩ := h.bodyOf hm
  rcases hput.cases with hput' | ⟨htype, rfl, -⟩
  · exact absurd hput' hbytes
  · exact ⟨b, hb, hput.isBody, htype, hv⟩

/-- A marshalling keeps its operation and the type of its body. -/
theorem Completes.kept (h : d.Completes o bindings request m body) :
    m.operation = o ∧ m.contentType = some d.contentType := by
  obtain ⟨started, hstart, hadd⟩ := bind_eq_ok.1 h.marshalled
  obtain ⟨hoperation, htype⟩ := Marshalling.addMembers_kept (Marshalling.addAll_eq_ok hadd)
  obtain ⟨ho, -, -⟩ := marshalling_start hstart
  exact ⟨hoperation.trans ho, htype.trans (marshalling_contentType hstart)⟩

/-- A failure that is not the client's own comes behind a body that is complete. -/
theorem exists_completes (hgate : o.protocol ≠ .apiGateway) {endpoint : String} {f : Failure}
    (h : d.request o bindings request endpoint parts = .error f)
    (hforeign : f.isClientError = false) : ∃ m body, d.Completes o bindings request m body := by
  obtain ⟨started, hstart⟩ := d.marshalling_exists hgate
  unfold Dialect.request at h
  rw [hstart] at h
  have h : started.addAll bindings request >>= (fun m => (m.finish endpoint parts).1) =
    .error f := h
  -- members and the writer fail by the client's own failure, so both were done
  rcases bind_eq_error.1 h with hadd | ⟨m, hadd, hfinish⟩
  · rw [Marshalling.addAll_eq_error hadd] at hforeign
    cases hforeign
  · have hmarshalled : (d.marshalling o >>= Marshalling.addAll bindings request) = .ok m := by
      rw [hstart]
      exact hadd
    rcases bind_eq_error.1 hfinish with hbody | ⟨body, hbody, -⟩
    · obtain ⟨cause, -, rfl⟩ := mapError_eq_error.1 hbody
      cases hforeign
    · exact ⟨m, body, hmarshalled, mapError_eq_ok.1 hbody⟩

/-- A failure that is not the client's own has one of the causes. -/
theorem exists_escapes (hgate : o.protocol ≠ .apiGateway) {e : DnsEndpoint} {f : Failure}
    (h : d.request o bindings request e.text parts = .error f)
    (hforeign : f.isClientError = false) : ∃ m body, d.Completes o bindings request m body ∧
      m.finishBody.2.Escapes e.text parts body := by
  obtain ⟨m, body, hcompletes⟩ := exists_completes hgate h hforeign
  rw [hcompletes.request_eq] at h
  exact ⟨m, body, hcompletes,
    (Marshalling.assemble_escapes hcompletes.clean).1 ⟨f, h, hforeign⟩⟩

/-- Members that are no parameters of the query leave it empty. -/
theorem Completes.query_nil (h : d.Completes o bindings request m body)
    (hquery : ∀ b ∈ bindings, b.area ≠ .query) : m.finishBody.2.query = [] := by
  obtain ⟨started, hstart, hadd⟩ := bind_eq_ok.1 h.marshalled
  rw [m.finishBody_changesOnly.query (by decide),
    Marshalling.addMembers_query (Marshalling.addAll_eq_ok hadd) hquery, marshalling_query hstart]

/-- Without a member that is the whole body and without parameters of the query, only headers and
path can fail otherwise than by a failure of the client's own. -/
theorem request_clientError (hgate : o.protocol ≠ .apiGateway)
    (hmember : ∀ b ∈ bindings, b.isBody = false) (hquery : ∀ b ∈ bindings, b.area ≠ .query)
    (htype : Headers.isValue d.contentType = true)
    (htarget : Headers.isValue o.target = true) {e : DnsEndpoint}
    (hpath : ∀ (m : Marshalling) path, m.operation = o → m.resolvedPath = .ok path →
      o.PathReadsAt path e.text)
    {f : Failure} (h : d.request o bindings request e.text parts = .error f) :
    f.isClientError = true := by
  rw [← Bool.not_eq_false]
  intro hforeign
  obtain ⟨m, body, hcompletes, hescapes⟩ := exists_escapes hgate h hforeign
  have hclosed := m.finishBody_changesOnly
  obtain ⟨hoperation, hcontentType⟩ := hcompletes.kept
  have hoperation : m.finishBody.2.operation = o := hclosed.operation.trans hoperation
  have hcontentType := hclosed.contentType.trans hcontentType
  have htakes : Request.TakesBody body := by
    refine Classical.not_not.1 fun hbody => ?_
    obtain ⟨b, hb, hisBody, -⟩ := hcompletes.body_eq hbody
    rw [hmember b hb] at hisBody
    cases hisBody
  -- each cause is ruled out by one hypothesis
  cases hescapes with
  | length hlength => exact hlength htakes.hasLength
  | lineBreak hbreak =>
    rcases hbreak with ⟨type, ht, -, -, hvalue⟩ | hvalue
    · rw [hcontentType] at ht
      cases ht
      rw [htype] at hvalue
      cases hvalue
    · rw [hoperation, htarget] at hvalue
      cases hvalue
  | path hresolved hreads =>
    rw [hoperation] at hreads
    exact hreads (hpath _ _ hoperation hresolved)
  | query _ hp =>
    rw [hcompletes.query_nil hquery] at hp
    cases hp
  | body _ hbody => exact hbody htakes
  | form _ hbody _ hnone =>
    subst hbody
    obtain ⟨sent, hsent⟩ := Request.sendsBody_map.1 (.inl htakes)
    exact hnone sent hsent

/-- **Which failures of a request are not the client's own.** At an endpoint with the name of a
host, such a failure comes behind a body that is complete, and has one of the causes of
`Marshalling.Escapes`; each of them makes the request fail so. A body that is neither text nor bytes
is the value of a member that is the whole body, as text. Whatever the failure is, nothing is
sent. -/
theorem request_fails (d : Dialect) (o : Operation) (hgate : o.protocol ≠ .apiGateway)
    (bindings : List Binding) (request : Value) (e : DnsEndpoint) (parts : Multipart) :
    (∀ f, d.request o bindings request e.text parts = .error f → f.isClientError = false →
      ∃ m body, d.Completes o bindings request m body ∧
        m.finishBody.2.Escapes e.text parts body) ∧
    (∀ m body, d.Completes o bindings request m body →
      m.finishBody.2.Escapes e.text parts body →
        ∃ f, d.request o bindings request e.text parts = .error f ∧ f.isClientError = false) ∧
    (∀ m body, d.Completes o bindings request m body → ¬ Request.TakesBody body →
      ∃ b ∈ bindings, b.isBody = true ∧ b.type = .string ∧
        Marshalling.memberOf request b.member = .ok body) ∧
    ∀ f, d.request o bindings request e.text parts = .error f →
      ∀ (name : String) (codeField : Option String) (reader : Option ResultReader)
        (shape : ResponseShape) (send : Request → Except Failure Response),
        Client.invoke ⟨name, d, e.text, codeField⟩ ⟨o, bindings, request, reader, shape⟩ send
          parts = pure ⟨none, .error (.client f)⟩ := by
  refine ⟨fun f h hforeign => ?_, fun m body h hescapes => ?_,
    fun m body h hbody => h.body_eq hbody, fun f h name codeField reader shape send => ?_⟩
  · exact exists_escapes hgate h hforeign
  · rw [h.request_eq]
    exact (Marshalling.assemble_escapes h.clean).2 hescapes
  · unfold Client.invoke
    dsimp only
    rw [h]

/-- A list for the text of a body has a length, but is no body; it is not sent. -/
theorem request_fails_list :
    ∃ f, Dialect.request ⟨⟨"1.1", none, false, false, .root, []⟩, .json, []⟩
        ⟨.restJson, "/", "POST", none, true, true⟩ [⟨.string, .payload, "Body", none, true, none⟩]
        (.map [(.text "Body", .list [.int 1])]) "https://localhost" (.withoutFiles "b") = .error f ∧
      f.isClientError = false ∧ ∀ send, (Client.invoke
        ⟨"Store", ⟨⟨"1.1", none, false, false, .root, []⟩, .json, []⟩, "https://localhost", none⟩
        ⟨⟨.restJson, "/", "POST", none, true, true⟩,
          [⟨.string, .payload, "Body", none, true, none⟩],
          .map [(.text "Body", .list [.int 1])], none, .standard⟩ send
        (.withoutFiles "b")).result.sent = none := by
  obtain ⟨-, hescapes, -, hinvoke⟩ := request_fails
    ⟨⟨"1.1", none, false, false, .root, []⟩, .json, []⟩
    ⟨.restJson, "/", "POST", none, true, true⟩ (by decide)
    [⟨.string, .payload, "Body", none, true, none⟩] (.map [(.text "Body", .list [.int 1])])
    .localhost (.withoutFiles "b")
  obtain ⟨m, hm⟩ : ∃ m, (Dialect.marshalling ⟨⟨"1.1", none, false, false, .root, []⟩, .json, []⟩
      ⟨.restJson, "/", "POST", none, true, true⟩ >>= Marshalling.addAll
        [⟨.string, .payload, "Body", none, true, none⟩]
        (.map [(.text "Body", .list [.int 1])])) = .ok m := ⟨_, rfl⟩
  have hbody : m.finishBody.1 = .ok (.list [.int 1]) := by
    cases hm
    rfl
  have hpath : m.finishBody.2.resolvedPath = .ok "/" := by
    cases hm
    show PathTemplate.expand (.ofChars ['/']) [] = _
    rw [PathTemplate.ofChars_literal (by decide), PathTemplate.ofChars]
    rfl
  have htakes : ¬ Request.TakesBody (.list [.int 1]) := by
    rintro (h | ⟨s, h⟩ | ⟨s, h⟩) <;> cases h
  have hlist : ∀ fields, Value.list [.int 1] ≠ .map fields := by
    intro fields h
    cases h
  obtain ⟨f, hf, hforeign⟩ := hescapes m _ ⟨hm, hbody⟩ (.body hpath htakes hlist)
  refine ⟨f, hf, hforeign, fun send => ?_⟩
  exact congrArg (fun x => x.result.sent) (hinvoke f hf "Store" none none .standard send)

/-- A number for the text of a body has no length, which is no failure of the client's own. -/
theorem request_without_length :
    (∀ parts, Dialect.request ⟨⟨"1.1", none, false, false, .root, []⟩, .json, []⟩
        ⟨.restJson, "/", "POST", none, true, true⟩ [⟨.string, .payload, "Body", none, true, none⟩]
        (.map [(.text "Body", .int 5)]) "https://localhost" parts =
      .error (.operand (.noLength "int"))) ∧
    Failure.isClientError (.operand (.noLength "int")) = false :=
  ⟨fun _ => rfl, rfl⟩

end Dialect

end ServiceClient
