import ServiceClient.Proofs.AnnouncedBodies
import ServiceClient.Proofs.EndpointAuthority
import ServiceClient.Proofs.QueryParameters

/-!
# Requests for the root of an endpoint

At an endpoint with a name or an IPv4 address, a request for the root is made if it is made
anywhere, and has the URL of the endpoint. At an IPv6 address no request is made.

* `Marshalling.get?_finishHeaders`: which headers the end of a marshalling sets.
* `Marshalling.assemble_address`: a request at an address fails with what is taken for the port.
* `Dialect.request_without_members`: a request without members at a name.
* `Dialect.rawBaseUrl_of_request`: which requests are made, and their URL.
-/

namespace ServiceClient

/-- A request fails with its base, if its headers are fit to be sent, its body has bytes and its
path can be read. -/
theorem Request.make_of_base_error {p : RequestParts} {data : Value} {plain : String} {f : Failure}
    (hvalues : ∀ e ∈ p.headers, Headers.isValue e.2 = true)
    (hdata : toBytes .utf8 .refuse p.body = .ok data) (hreads : p.PathReads plain)
    (hbase : Url.normalize p.baseText = .error f) (parts : Multipart) :
    Request.make p parts = .error f := by
  obtain ⟨hquery, target, ht, hplain⟩ := hreads
  have hcheck : p.headers.check = .ok p.headers := Headers.check_eq_ok.2 ⟨hvalues, rfl⟩
  have hmark : p.path.toList.contains '?' = false := by
    rw [← Bool.not_eq_true, List.contains_iff_mem]
    exact hquery
  unfold Request.make
  rw [hcheck, hdata]
  simp only [hmark, ht, hplain, bind, Except.bind, Bool.false_eq_true, if_false, pure, Except.pure]
  split
  · rename_i g hg
    exact congrArg Except.error (Except.error.inj (hg.symm.trans hbase))
  · rename_i text htext
    cases htext.symm.trans hbase

/-! ### Requests at an endpoint -/

namespace Marshalling

variable {m : Marshalling} {body : Value} {headers : Headers} {name : Text}

/-- The end of a marshalling sets its own headers only. -/
theorem get?_finishHeaders (hlength : sameName "Content-Length" name = false)
    (htype : sameName "Content-Type" name = false) (htarget : sameName "X-Amz-Target" name = false)
    (h : m.finishHeaders body = .ok headers) : headers.get? name = m.headers.get? name := by
  have hset : ∀ {own value : Text} {before after : Headers}, sameName own name = false →
      before.set own value = .ok after → after.get? name = before.get? name := by
    intro own value before after hown hafter
    obtain ⟨-, rfl⟩ := Headers.set_eq_ok.1 hafter
    exact Headers.get?_put_of_ne hown
  -- length, type and target are set one after the other
  rw [finishHeaders_eq] at h
  obtain ⟨typed, h, hlast⟩ := bind_eq_ok.1 h
  obtain ⟨started, hfirst, hmiddle⟩ := bind_eq_ok.1 h
  have hstarted : started.get? name = m.headers.get? name := by
    unfold lengthHeader at hfirst
    split at hfirst
    · rw [Except.ok.inj hfirst]
    · split at hfirst
      · exact hset hlength hfirst
      · cases hfirst
  have htyped : typed.get? name = started.get? name := by
    unfold typeHeader at hmiddle
    split at hmiddle
    · split at hmiddle
      · rw [Except.ok.inj hmiddle]
      · exact hset htype hmiddle
    · rw [Except.ok.inj hmiddle]
  have hended : headers.get? name = typed.get? name := by
    unfold targetHeader at hlast
    split at hlast
    · rw [Except.ok.inj hlast]
    · exact hset htarget hlast
  rw [hended, htyped, hstarted]

/-- At an endpoint with an address, no request for the root is put together: one that is put
together elsewhere fails with what is taken for the port. -/
theorem assemble_address {e : ServiceEndpoint} {address : List Char} (h : e.host = .address address)
    (hclean : m.headers.IsClean) (hpath : m.resolvedPath = .ok "/")
    (hheaders : m.finishHeaders body = .ok headers) {query : String}
    (hquery : m.queryString = .ok query) {data : Value}
    (hdata : toBytes .utf8 .refuse body = .ok data) (parts : Multipart) :
    m.assemble e.text parts body = .error e.misreadFailure := by
  obtain ⟨target, ht, hscheme, hauthority⟩ := e.parse_text
  obtain ⟨hname, hport⟩ := ServiceEndpoint.parts_of_address h hauthority
  obtain ⟨target', ht', plain, hreads⟩ := e.pathReadsAt_root m.operation
  obtain rfl : target' = target := Except.ok.inj (ht'.symm.trans ht)
  have hbase : (m.operation.parts "/" query target' e.port headers body).baseText =
      String.ofList (e.scheme ++ ':' :: '/' :: '/' ::
        (lowerChars address ++ portChars e.port)) := by
    have hempty : ¬ target'.scheme.isEmpty = true := by
      rw [hscheme, String.isEmpty_iff]
      exact mt String.ofList_eq_empty_iff.1 e.isScheme.ne_nil
    have hpositive := e.isPort
    have hwritten : DnsEndpoint.writtenPort e.port = String.ofList (portChars e.port) := by
      cases hn : e.port with
      | none => rfl
      | some n =>
        have hzero : n ≠ 0 := Nat.pos_iff_ne_zero.1 (hpositive n hn).1
        refine String.toList_inj.1 ?_
        rw [DnsEndpoint.writtenPort, if_neg hzero, toList_port, String.toList_ofList]
    show (if target'.scheme.isEmpty = true then "https" else target'.scheme) ++ "://" ++
      target'.hostName?.getD "None" ++ DnsEndpoint.writtenPort e.port = _
    rw [if_neg hempty, hname, hscheme, hwritten]
    refine String.toList_inj.1 ?_
    simp
  have hmake : Request.make (m.operation.parts "/" query target' e.port headers body) parts =
      .error e.misreadFailure := by
    refine Request.make_of_base_error (finishHeaders_clean hclean hheaders) hdata
      (Operation.pathReads_parts.2 hreads) ?_ parts
    rw [hbase]
    exact ServiceEndpoint.normalize_address h
  unfold assemble
  refine bind_eq_error.2 (.inr ⟨headers, hheaders, bind_eq_error.2 (.inr ⟨"/", hpath, ?_⟩)⟩)
  refine bind_eq_error.2 (.inr ⟨target', ht, bind_eq_error.2 (.inr ⟨query, hquery, ?_⟩)⟩)
  exact bind_eq_error.2 (.inr ⟨e.port, hport, hmake⟩)

end Marshalling

namespace Dialect

variable {d : Dialect} {o : Operation} {bindings : List Binding} {request : Value}
  {e : ServiceEndpoint} {name address : List Char} {parts : Multipart}

/-- A request is made exactly if its body is complete and its parts can be put together. -/
theorem request_eq_ok {endpoint : String} {r : Request} :
    d.request o bindings request endpoint parts = .ok r ↔ ∃ m body,
      d.Completes o bindings request m body ∧
        m.finishBody.2.assemble endpoint parts body = .ok r := by
  constructor
  · intro h
    obtain ⟨started, hstart, h⟩ := bind_eq_ok.1 h
    obtain ⟨m, hadd, hfinish⟩ := bind_eq_ok.1 h
    obtain ⟨body, hbody, hassemble⟩ := Marshalling.finish_eq_ok.1 hfinish
    exact ⟨m, body, ⟨bind_eq_ok.2 ⟨started, hstart, hadd⟩, hbody⟩, hassemble⟩
  · rintro ⟨m, body, hcompletes, hassemble⟩
    rw [hcompletes.request_eq]
    exact hassemble

/-- The path of a request for the root. -/
theorem Completes.path_root {m : Marshalling} {body : Value} (huri : o.uri = "/")
    (h : d.Completes o bindings request m body) : m.finishBody.2.resolvedPath = .ok "/" := by
  rw [Marshalling.finishBody_resolvedPath]
  refine Marshalling.resolvedPath_root ?_
  rw [h.kept.1]
  exact huri

/-- Whether a request for the root is made does not depend on the name of the host. -/
theorem request_of_name (huri : o.uri = "/") (h : e.host = .name name) :
    (∃ r, d.request o bindings request e.text parts = .ok r) ↔
      ∃ r, d.request o bindings request DnsEndpoint.localhost.text parts = .ok r := by
  -- of an endpoint, it only counts that the root can be read there
  have hassemble : ∀ (dns : DnsEndpoint), (∀ o : Operation, o.PathReadsAt "/" dns.text) →
      ((∃ r, d.request o bindings request dns.text parts = .ok r) ↔ ∃ m body,
        d.Completes o bindings request m body ∧
          (∀ p ∈ m.finishBody.2.query, Marshalling.IsQueryPair p) ∧
            ∃ headers, m.finishBody.2.finishHeaders body = .ok headers ∧
              Request.SendsBody parts body headers) := by
    intro dns hreads
    constructor
    · rintro ⟨r, hr⟩
      obtain ⟨m, body, hcompletes, hassemble⟩ := request_eq_ok.1 hr
      obtain ⟨-, hquery, hsends⟩ :=
        (Marshalling.assemble_exists hcompletes.clean).1 ⟨r, hassemble⟩
      exact ⟨m, body, hcompletes, hquery, hsends⟩
    · rintro ⟨m, body, hcompletes, hquery, hsends⟩
      obtain ⟨r, hassemble⟩ := (Marshalling.assemble_exists (e := dns) hcompletes.clean).2
        ⟨⟨"/", hcompletes.path_root huri, hreads _⟩, hquery, hsends⟩
      exact ⟨r, request_eq_ok.2 ⟨m, body, hcompletes, hassemble⟩⟩
  rw [← ServiceEndpoint.text_toDns h, hassemble, hassemble]
  · exact fun o => Operation.pathReadsAt_root rfl
  · rw [ServiceEndpoint.text_toDns h]
    exact e.pathReadsAt_root

/-- A request for the root at a name has the URL of the root, unless a member names the host. -/
theorem rawBaseUrl_of_name (huri : o.uri = "/") (h : e.host = .name name) {r : Request}
    (hr : d.request o bindings request e.text parts = .ok r)
    (hhost : r.headers.get? "host" = none) : r.rawBaseUrl = .ok e.url := by
  obtain ⟨m, body, hcompletes, hassemble⟩ := request_eq_ok.1 hr
  obtain ⟨headers, -, path, hpath, target, ht, query, -, port, hport, hmake⟩ :=
    Marshalling.assemble_eq_ok.1 hassemble
  obtain rfl : path = "/" := Except.ok.inj (hpath.symm.trans (hcompletes.path_root huri))
  exact ServiceEndpoint.rawBaseUrl_of_make h ht hport hmake hhost

/-- A request for the root at an address fails if it is made anywhere. -/
theorem request_of_address (huri : o.uri = "/") (h : e.host = .address address)
    {endpoint : String} {r : Request} (hr : d.request o bindings request endpoint parts = .ok r) :
    d.request o bindings request e.text parts = .error e.misreadFailure := by
  obtain ⟨m, body, hcompletes, hassemble⟩ := request_eq_ok.1 hr
  obtain ⟨headers, hheaders, path, -, target, -, query, hquery, port, -, hmake⟩ :=
    Marshalling.assemble_eq_ok.1 hassemble
  obtain ⟨-, plain, -, base, -, sent, hsent, -⟩ := Request.make_eq_ok.1 hmake
  obtain ⟨data, hdata, -⟩ := bind_eq_ok.1 hsent
  rw [hcompletes.request_eq]
  exact Marshalling.assemble_address h hcompletes.clean (hcompletes.path_root huri) hheaders hquery
    hdata parts

/-- A request without members names no host. -/
theorem host_of_request {fields : Fields} {endpoint : String} {r : Request}
    (hr : d.request o [] (.map fields) endpoint parts = .ok r) : r.headers.get? "host" = none := by
  obtain ⟨m, body, hcompletes, hassemble⟩ := request_eq_ok.1 hr
  obtain ⟨started, hstart, hadd⟩ := bind_eq_ok.1 hcompletes.marshalled
  obtain rfl : started = m := Except.ok.inj hadd
  obtain ⟨-, hnil, -⟩ := marshalling_start hstart
  obtain ⟨headers, hheaders, path, -, target, -, query, -, port, -, hmake⟩ :=
    Marshalling.assemble_eq_ok.1 hassemble
  obtain ⟨-, plain, -, base, -, sent, hsent, rfl⟩ := Request.make_eq_ok.1 hmake
  obtain ⟨data, -, hsent⟩ := bind_eq_ok.1 hsent
  have hkept : sent.2.get? "host" = headers.get? "host" :=
    Request.get?_bodyOf (by decide) (by decide) hsent
  have hfinished : headers.get? "host" = started.finishBody.2.headers.get? "host" :=
    Marshalling.get?_finishHeaders (by decide) (by decide) (by decide) hheaders
  rw [started.finishBody_changesOnly.headers (by decide), hnil] at hfinished
  exact hkept.trans hfinished

/-- A request without members is made at a name exactly if its type and its name have no line
breaks, and then has the URL of the root. -/
theorem request_without_members (huri : o.uri = "/") (h : e.host = .name name)
    (hgate : o.protocol ≠ .apiGateway) (fields : Fields) (parts : Multipart) :
    (∃ r, d.request o [] (.map fields) e.text parts = .ok r ∧ r.rawBaseUrl = .ok e.url) ↔
      ((d.writer o).isSilent = false → Headers.isValue d.contentType = true) ∧
        Headers.isValue o.target = true := by
  have hroot : String.ofList (Marshalling.splitUri o.uri).1 = "/" := by
    rw [huri]
    rfl
  have hplain : ∀ name, .parameter name ∉
      PathTemplate.ofChars (Marshalling.splitUri o.uri).1 := by
    intro name hmem
    have htemplate : PathTemplate.ofChars (Marshalling.splitUri o.uri).1 = [.literal '/'] := by
      rw [huri]
      show PathTemplate.ofChars ['/'] = _
      rw [PathTemplate.ofChars_literal (by decide), PathTemplate.ofChars]
    rw [htemplate] at hmem
    cases List.mem_singleton.1 hmem
  have hnone : List.Forall₂ (fun b pairs => b.area = .query ∧ Binding.Gives b fields pairs) [] [] :=
    .nil
  have hexists := request_exists (d := d) hgate hnone hplain (e.toDns h) parts
  rw [ServiceEndpoint.text_toDns h, hroot] at hexists
  constructor
  · rintro ⟨r, hr, hurl⟩
    obtain ⟨htype, htarget, -⟩ := hexists.1 ⟨r, _, hr, bind_eq_ok.2 ⟨_, hurl, rfl⟩⟩
    exact ⟨htype, htarget⟩
  · rintro ⟨htype, htarget⟩
    obtain ⟨r, -, hr, -⟩ := hexists.2 ⟨htype, htarget, e.pathReadsAt_root o⟩
    exact ⟨r, hr, rawBaseUrl_of_name huri h hr (host_of_request hr)⟩

/-- **The authority of an endpoint reaches the request** if it is that of a name. For an operation
at the root, a request is made at a name exactly if it is made at the own host, and then has the URL
of the endpoint unless a member names the host; without members, it is made exactly if its type and
its name have no line breaks. At an IPv6 address no request is made: one that could be made
elsewhere fails with what is taken for the port once the brackets are lost. -/
theorem rawBaseUrl_of_request (d : Dialect) (o : Operation) (huri : o.uri = "/")
    (e : ServiceEndpoint) :
    (∀ name, e.host = .name name →
      (∀ bindings request parts, ((∃ r, d.request o bindings request e.text parts = .ok r) ↔
          ∃ r, d.request o bindings request DnsEndpoint.localhost.text parts = .ok r) ∧
        ∀ r, d.request o bindings request e.text parts = .ok r → r.headers.get? "host" = none →
          r.rawBaseUrl = .ok e.url) ∧
      (o.protocol ≠ .apiGateway → ∀ fields parts,
        ((∃ r, d.request o [] (.map fields) e.text parts = .ok r ∧ r.rawBaseUrl = .ok e.url) ↔
          ((d.writer o).isSilent = false → Headers.isValue d.contentType = true) ∧
            Headers.isValue o.target = true))) ∧
    ∀ address, e.host = .address address → ∀ bindings request parts,
      (∀ r, d.request o bindings request e.text parts ≠ .ok r) ∧
        ∀ r, d.request o bindings request DnsEndpoint.localhost.text parts = .ok r →
          d.request o bindings request e.text parts = .error e.misreadFailure := by
  refine ⟨fun name h => ⟨fun bindings request parts => ?_, fun hgate fields parts => ?_⟩,
    fun address h bindings request parts => ⟨fun r hr => ?_, fun r hr => ?_⟩⟩
  · exact ⟨request_of_name huri h, fun r hr hhost => rawBaseUrl_of_name huri h hr hhost⟩
  · exact request_without_members huri h hgate fields parts
  · have herror := request_of_address huri h hr
    rw [hr] at herror
    cases herror
  · exact request_of_address huri h hr

/-- A name keeps its port and loses its spelling; an address loses its brackets. -/
theorem rawBaseUrl_of_request_port :
    ∃ r, Dialect.request ⟨⟨"1.1", none, false, false, .root, []⟩, .json, []⟩
        ⟨.restJson, "/", "GET", none, false, false⟩ [] (.map []) "http://Example.com:8080/base//"
          (.withoutFiles "b") = .ok r ∧ r.rawBaseUrl = .ok "http://example.com:8080/base/" ∧
      Dialect.request ⟨⟨"1.1", none, false, false, .root, []⟩, .json, []⟩
        ⟨.restJson, "/", "GET", none, false, false⟩ [] (.map []) "https://[2001:DB8::1]"
          (.withoutFiles "b") = .error (.url (.portText "'db8::1'")) := by
  obtain ⟨e, hhost, htext, hurl⟩ : ∃ e : ServiceEndpoint, e.host = .name "Example.com".toList ∧
      e.text = "http://Example.com:8080/base//" ∧ e.url = "http://example.com:8080/base/" :=
    ⟨⟨false, .name "Example.com".toList, some 8080, ["base".toList], 2,
      ⟨⟨["Example".toList, "com".toList], false, by decide, by simp [HostName.IsLabel]; decide,
        rfl⟩, by decide⟩, by simp, by simp; decide⟩, rfl, by decide +kernel, by decide +kernel⟩
  obtain ⟨e', hhost', htext', hmisread⟩ : ∃ e : ServiceEndpoint,
      e.host = .address "2001:DB8::1".toList ∧ e.text = "https://[2001:DB8::1]" ∧
        quoteText (String.ofList e.misread) = "'db8::1'" :=
    ⟨⟨true, .address "2001:DB8::1".toList, none, [], 0, ⟨by decide, by decide⟩, by simp,
      by simp⟩, rfl, by decide +kernel, by decide +kernel⟩
  obtain ⟨hnamed, -⟩ := rawBaseUrl_of_request ⟨⟨"1.1", none, false, false, .root, []⟩, .json, []⟩
    ⟨.restJson, "/", "GET", none, false, false⟩ rfl e
  obtain ⟨-, haddressed⟩ := rawBaseUrl_of_request
    ⟨⟨"1.1", none, false, false, .root, []⟩, .json, []⟩
    ⟨.restJson, "/", "GET", none, false, false⟩ rfl e'
  obtain ⟨hlocal, hmade⟩ := hnamed _ hhost
  obtain ⟨r, hr, hsent⟩ :=
    (hmade (by decide) [] (.withoutFiles "b")).2 ⟨fun _ => by decide, by decide⟩
  obtain ⟨q, hq⟩ := (hlocal [] (.map []) _).1.1 ⟨r, hr⟩
  have hrefused := (haddressed _ hhost' [] (.map []) _).2 q hq
  rw [htext] at hr
  rw [hurl] at hsent
  rw [htext', ServiceEndpoint.misreadFailure, hmisread] at hrefused
  exact ⟨r, hr, hsent, hrefused⟩

/-- The own host as an address has no requests. -/
theorem request_not_made :
    Dialect.request ⟨⟨"1.1", none, false, false, .root, []⟩, .json, []⟩
      ⟨.restJson, "/", "GET", none, false, false⟩ [] (.map []) "http://[::1]:8080/base/"
        (.withoutFiles "b") = .error (.url (.portText "':1:8080'")) := by
  have hname : HostName.IsDnsName "localhost".toList := DnsEndpoint.localhost.isHost
  obtain ⟨e, hhost, htext, hmisread⟩ : ∃ e : ServiceEndpoint, e.host = .address "::1".toList ∧
      e.text = "http://[::1]:8080/base/" ∧ quoteText (String.ofList e.misread) = "':1:8080'" :=
    ⟨⟨false, .address "::1".toList, some 8080, ["base".toList], 1, ⟨by decide, by decide⟩,
      by simp, by simp; decide⟩, rfl, by decide +kernel, by decide +kernel⟩
  obtain ⟨r, hr, -⟩ := (request_without_members
    (d := ⟨⟨"1.1", none, false, false, .root, []⟩, .json, []⟩)
    (o := ⟨.restJson, "/", "GET", none, false, false⟩) rfl
    (e := ⟨true, .name "localhost".toList, none, [], 0, ⟨hname, by decide⟩, by simp, by simp⟩) rfl
    (by decide) [] _).2 ⟨fun _ => by decide, by decide⟩
  have hrefused := request_of_address rfl hhost hr
  rw [htext, ServiceEndpoint.misreadFailure, hmisread] at hrefused
  exact hrefused

end Dialect

end ServiceClient
