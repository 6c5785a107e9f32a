import ServiceClient.Proofs.EndpointPath
import ServiceClient.Proofs.Refusals

/-!
# The path that a request is sent to

The path of a request is read once more before the request is sent: two slashes in front of it are
then taken for the mark of an authority.

* `Request.rawPath_of_written`: what is left of a path that is read once more.
* `Dialect.rawUri_of_request`: the path that a request is written with.
* `Dialect.request_of_path`: a request of path parameters is made.
* `Dialect.rawPath_of_request`: the path is sent as it was resolved, exactly if no value of the
  first placeholder makes it start with two slashes.
-/

namespace ServiceClient

open PathTemplate (isPathChar)

namespace Request

/-- What is left of a path that is read once more: nothing is lost unless it starts with two
slashes. -/
theorem rawPath_of_written {r : Request} {s rest : List Char}
    (huri : r.rawUri = String.ofList (s ++ rest)) (hs : ∀ c ∈ s, isPathChar c = true)
    (hslash : s.head? = some '/') (hrest : Url.EndsPath rest) :
    r.rawPath = .ok (String.ofList (Url.takeAuthority s).2) := by
  obtain ⟨u, hu, -, hpath⟩ := Url.parse_path hs hslash hrest
  have hkept : ∀ c ∈ (Url.takeAuthority s).2, isPathChar c = true := fun c hc =>
    hs c ((Url.takeAuthority_sublist s).2.subset hc)
  unfold rawPath
  rw [huri, hu]
  exact congrArg Except.ok (Url.pathOnly_of_path hpath hkept)

end Request

/-- The written path of a request at an endpoint, with whatever query string it has. -/
theorem Operation.rawUri_parts {o : Operation} {path : String} {s : List Char} {e : EndpointText}
    {target : Url} (hpath : path = String.ofList s) (hslash : s.head? = some '/')
    (ht : Url.parse e.text = .ok target) {query : String} {port : Option Nat} {headers : Headers}
    {body : Value} {parts : Multipart} {r : Request}
    (h : Request.make (o.parts path query target port headers body) parts = .ok r) :
    ∃ rest, Url.EndsPath rest ∧ r.rawUri = String.ofList (e.base ++ s ++ rest) := by
  have hwritten := Operation.parts_path (o := o) hpath hslash ht query port headers body
  obtain ⟨-, plain, -, base, -, sent, -, rfl⟩ := Request.make_eq_ok.1 h
  have huri : ((o.parts path query target port headers body).request plain base sent).rawUri =
      if query = "" then (o.parts path query target port headers body).path
      else (o.parts path query target port headers body).path ++ "?" ++ query := rfl
  rw [huri, hwritten]
  by_cases hquery : query = ""
  · exact ⟨[], .inl rfl, by rw [if_pos hquery, List.append_nil]⟩
  · refine ⟨'?' :: query.toList, .inr ⟨_, rfl⟩, String.toList_inj.1 ?_⟩
    rw [if_neg hquery]
    simp

/-- An operation whose requests have no body. -/
structure Operation.HasNoBody (o : Operation) : Prop where
  not_gateway : o.protocol ≠ .apiGateway
  not_awsJson : o.protocol ≠ .awsJson
  no_payload : o.hasPayload = false

namespace Marshalling

/-- A marshalling of an operation without a body, with parameters of its path only. -/
def ofPath (o : Operation) (type : Option String) (path : List (String × String)) : Marshalling :=
  { Marshalling.new o type .nothing .silent with path }

variable {o : Operation} {type : Option String} {path : List (String × String)}

theorem finishBody_ofPath :
    (ofPath o type path).finishBody = (.ok (.blob []), ofPath o type path) := by
  unfold finishBody ofPath new
  dsimp only
  cases o.hasBodyMember with
  | true => rfl
  | false => rfl

theorem finishHeaders_ofPath (hprotocol : o.protocol ≠ .awsJson) :
    (ofPath o type path).finishHeaders (.blob []) = .ok [] := by
  have htype : (ofPath o type path).typeHeader [] = .ok [] := by
    unfold typeHeader ofPath new
    cases type with
    | none => rfl
    | some type => exact if_pos (Bool.or_true _)
  have htarget : (ofPath o type path).targetHeader [] = .ok [] := by
    unfold targetHeader Operation.target
    split
    · rename_i heq _
      exact absurd heq hprotocol
    · rfl
  rw [finishHeaders_eq]
  show (ofPath o type path).typeHeader [] >>= (ofPath o type path).targetHeader = _
  rw [htype]
  exact htarget

/-- Without a body, a marshalling is finished by resolving its path. -/
theorem finish_ofPath (hprotocol : o.protocol ≠ .awsJson) {resolved : String}
    (hresolved : (ofPath o type path).resolvedPath = .ok resolved) {endpoint : String}
    {target : Url} (ht : Url.parse endpoint = .ok target) {port : Option Nat}
    (hport : target.port? = .ok port) {parts : Multipart} {r : Request}
    (hr : Request.make (o.parts resolved (String.ofList (splitUri o.uri).2) target port []
      (.blob [])) parts = .ok r) :
    ((ofPath o type path).finish endpoint parts).1 = .ok r := by
  refine finish_eq_ok.2 ⟨.blob [], by rw [finishBody_ofPath], ?_⟩
  rw [finishBody_ofPath]
  exact assemble_eq_ok.2 ⟨[], finishHeaders_ofPath hprotocol, resolved, hresolved, target, ht, _,
    queryString_of_nil rfl, port, hport, hr⟩

end Marshalling

namespace Dialect

variable {d : Dialect} {o : Operation} {parts : Multipart}

/-- **The path of a request is written** behind the base path of the endpoint, with all
parameters in their places. -/
theorem rawUri_of_request {bindings : List Binding} {request : Fields} {e : EndpointText}
    {r : Request} (htext : ∀ b ∈ bindings, b.area = .path → ∃ s, b.valueIn request = .text s)
    (hroot : o.template.IsRooted)
    (h : d.request o bindings (.map request) e.text parts = .ok r) :
    (∀ p ∈ Binding.pathValues bindings request, p.2.2 ≠ "") ∧
      (∀ name, .parameter name ∈ o.template →
        ((Binding.pathValues bindings request).lookup name).isSome) ∧
      ∃ rest, Url.EndsPath rest ∧ r.rawUri = String.ofList
        (e.pathChars (Binding.pathValues bindings request) o.template ++ rest) := by
  obtain ⟨m, hm, h⟩ := bind_eq_ok.1 h
  obtain ⟨m₁, hadd, h⟩ := bind_eq_ok.1 h
  obtain ⟨ho, -, hnil⟩ := marshalling_start hm
  obtain ⟨ho₁, hne, hlookup⟩ := Marshalling.addMembers_path
    (fun b hb hpath => .inr (htext b hb hpath)) (mapError_eq_ok.1 hadd)
  obtain ⟨body, -, hassemble⟩ := Marshalling.finish_eq_ok.1 h
  obtain ⟨headers, -, path, hpath, target, ht, query, -, port, -, hmake⟩ :=
    Marshalling.assemble_eq_ok.1 hassemble
  -- neither the document of the body nor its end touches the parameters
  have hclosed := m₁.finishBody_changesOnly
  have ho₂ : m₁.finishBody.2.operation = o := (hclosed.operation.trans ho₁).trans ho
  have hp : ∀ name, m₁.finishBody.2.path.lookup name =
      ((Binding.pathValues bindings request).lookup name).map PathTemplate.escaped := by
    intro name
    rw [hclosed.path (by decide), hlookup name, hnil, List.lookup_nil, Option.or_none]
  obtain ⟨hbound, hfill⟩ := (Marshalling.resolvedPath_eq_ok hp).1 hpath
  rw [ho₂] at hbound hfill hmake
  exact ⟨hne, hbound, Operation.rawUri_parts hfill (PathTemplate.head?_fill hroot) ht hmake⟩

/-- A marshalling of an operation without a body has nothing but its operation. -/
theorem marshalling_noBody (d : Dialect) (ho : o.HasNoBody) :
    d.marshalling o = .ok (.ofPath o (some d.contentType) []) := by
  have hempty : o.emptyBody = .ok .nothing := by
    rw [Operation.emptyBody, if_neg ho.not_gateway, ho.no_payload]
    rfl
  have hwriter : d.writer o = .silent := by
    rw [Dialect.writer, ho.no_payload, decide_eq_false ho.not_awsJson]
    rfl
  have hstart : (Marshalling.new o (some d.contentType) .nothing .silent).start =
      (.ok (), .ofPath o (some d.contentType) []) := by
    unfold Marshalling.start
    split <;> rfl
  rw [← hwriter] at hstart
  exact Dialect.marshalling_eq_ok.2 ⟨.nothing, hempty, hstart⟩

/-- A request of path parameters is made if the template has no others, none is empty, the host is
one of a request, and the path does not start with two slashes. -/
theorem request_of_path (d : Dialect) (ho : o.HasNoBody) {bindings : List Binding}
    {request : Fields} {e : EndpointText}
    (hpath : ∀ b ∈ bindings, b.area = .path ∧ ∃ s, b.valueIn request = .text s ∧ s ≠ "")
    (hroot : o.template.IsRooted) (hplain : o.template.IsPlain)
    (hbound : ∀ name, .parameter name ∈ o.template →
      ((Binding.pathValues bindings request).lookup name).isSome)
    (hhost : o.HasHost e.text)
    (hkept : ¬ e.LosesPath (Binding.pathValues bindings request) o.template) :
    ∃ r, d.request o bindings (.map request) e.text parts = .ok r := by
  obtain ⟨path, hadd⟩ := Marshalling.addMembers_path_ok
    (fun b hb => (hpath b hb).imp_right .inr) (.ofPath o (some d.contentType) [])
  obtain ⟨-, hne, hlookup⟩ := Marshalling.addMembers_path
    (fun b hb _ => .inr ((hpath b hb).2.imp fun s hs => hs.1)) hadd
  have hp : ∀ name, path.lookup name =
      ((Binding.pathValues bindings request).lookup name).map PathTemplate.escaped := by
    intro name
    rw [hlookup name]
    exact Option.or_none
  have hresolved := (Marshalling.resolvedPath_eq_ok (m := .ofPath o (some d.contentType) path) hp).2
    ⟨hbound, rfl⟩
  have hslash : (PathTemplate.fill (Binding.pathValues bindings request) o.template).head? =
      some '/' := PathTemplate.head?_fill hroot
  obtain ⟨target, ht, port, hport, haddress⟩ := Operation.hasAddress_of_path rfl hslash
    (e.isPathChar_pathChars hplain) (e.head?_pathChars hroot)
    (mt (e.pathChars_slashes hroot hne hbound).1 hkept) hhost
  have hparts : (o.parts (String.ofList _) (String.ofList (Marshalling.splitUri o.uri).2) target
      port [] (.blob [])).HasAddress := Operation.hasAddress_parts.2 haddress
  obtain ⟨⟨plain, hreads⟩, base, hbase⟩ := hparts
  have hmake := (@Request.make_eq_ok _ parts _).2
    ⟨List.forall_mem_nil _, plain, hreads, base, hbase, ([], []), rfl, rfl⟩
  have hfinish := Marshalling.finish_ofPath ho.not_awsJson hresolved ht hport hmake
  exact ⟨_, bind_eq_ok.2 ⟨_, d.marshalling_noBody ho, bind_eq_ok.2
    ⟨_, mapError_eq_ok.2 hadd, hfinish⟩⟩⟩

/-- A request that is made is sent to its resolved path exactly if nothing of the path is read as
an authority. -/
theorem rawPath_iff {bindings : List Binding} {request : Fields} {e : EndpointText} {r : Request}
    (hroot : o.template.IsRooted) (hplain : o.template.IsPlain)
    (htext : ∀ b ∈ bindings, b.area = .path → ∃ s, b.valueIn request = .text s)
    (h : d.request o bindings (.map request) e.text parts = .ok r) :
    (r.rawPath = .ok (e.path (Binding.pathValues bindings request) o.template) ↔
        ¬ e.LosesPath (Binding.pathValues bindings request) o.template) ∧
      (r.rawBaseUrl = .ok (r.scheme ++ "://" ++ r.host ++
          e.path (Binding.pathValues bindings request) o.template) ↔
        ¬ e.LosesPath (Binding.pathValues bindings request) o.template) := by
  obtain ⟨hne, hbound, rest, hrest, huri⟩ := rawUri_of_request htext hroot h
  -- the path is sent as it is exactly if nothing is taken off its front
  rw [← e.pathChars_slashes hroot hne hbound, ← Url.takeAuthority_eq_self]
  have hraw := Request.rawPath_of_written huri (e.isPathChar_pathChars hplain)
    (e.head?_pathChars hroot) hrest
  have hbase : r.rawBaseUrl = .ok (r.scheme ++ "://" ++ r.host ++ String.ofList
      (Url.takeAuthority (e.pathChars (Binding.pathValues bindings request) o.template)).2) := by
    rw [Request.rawBaseUrl, hraw]
    rfl
  rw [hraw, hbase, Except.ok.injEq, Except.ok.injEq, String.append_right_inj, EndpointText.path,
    String.ofList_inj, and_self]

/-- **A request is sent to its resolved path** exactly if nothing of the path is read as an
authority: whatever else the request has, and for an operation without a body also that the request
is made. -/
theorem rawPath_of_request (d : Dialect) (o : Operation) (bindings : List Binding)
    (request : Fields) (e : EndpointText) (parts : Multipart) (hroot : o.template.IsRooted)
    (hplain : o.template.IsPlain) (htext : ∀ b ∈ bindings, b.area = .path →
      ∃ s, b.valueIn request = .text s ∧ s ≠ "") :
    (∀ r, d.request o bindings (.map request) e.text parts = .ok r →
      (r.rawPath = .ok (e.path (Binding.pathValues bindings request) o.template) ↔
        ¬ e.LosesPath (Binding.pathValues bindings request) o.template) ∧
      (r.rawBaseUrl = .ok (r.scheme ++ "://" ++ r.host ++
          e.path (Binding.pathValues bindings request) o.template) ↔
        ¬ e.LosesPath (Binding.pathValues bindings request) o.template)) ∧
    (o.HasNoBody → o.HasHost e.text → (∀ b ∈ bindings, b.area = .path) →
      (∀ name, .parameter name ∈ o.template →
        ((Binding.pathValues bindings request).lookup name).isSome) →
      ((∃ r, d.request o bindings (.map request) e.text parts = .ok r ∧
          r.rawPath = .ok (e.path (Binding.pathValues bindings request) o.template)) ↔
        ¬ e.LosesPath (Binding.pathValues bindings request) o.template)) := by
  have hsent := fun r (hr : d.request o bindings (.map request) e.text parts = .ok r) =>
    rawPath_iff hroot hplain (fun b hb hpath => (htext b hb hpath).imp fun s hs => hs.1) hr
  refine ⟨hsent, fun hbody hhost hpath hbound => ⟨?_, fun hkept => ?_⟩⟩
  · rintro ⟨r, hr, hraw⟩
    exact (hsent r hr).1.1 hraw
  · obtain ⟨r, hr⟩ := d.request_of_path hbody (fun b hb => ⟨hpath b hb, htext b hb (hpath b hb)⟩)
      hroot hplain hbound hhost hkept
    exact ⟨r, hr, (hsent r hr).1.2 hkept⟩

/-- A key that starts with a slash reaches the service behind the name of its bucket. -/
theorem rawPath_of_request_key :
    ∃ r, Dialect.request ⟨⟨"1.1", none, false, false, .root, []⟩, .json, []⟩
        ⟨.restJson, "/\x7bBucket\x7d/\x7bKey+\x7d", "GET", none, false, false⟩
        [⟨.string, .path, "Bucket", none, false, none⟩,
          ⟨.string, .greedyPath, "Key", none, false, none⟩]
        (.map [(.text "Bucket", .text "b/c"), (.text "Key", .text "/d e")]) "https://host"
        (.withoutFiles "b") = .ok r ∧
      r.rawPath = .ok "/b%2Fc//d%20e" ∧
      r.rawBaseUrl = .ok (r.scheme ++ "://" ++ r.host ++ "/b%2Fc//d%20e") := by
  have hhost : Operation.HasHost
      ⟨.restJson, "/\x7bBucket\x7d/\x7bKey+\x7d", "GET", none, false, false⟩ "https://host" :=
    ⟨⟨"https", "host", "", "", ""⟩, rfl, none, rfl, ⟨"https", "host", "", "", ""⟩, "https://host",
      rfl, rfl, rfl, rfl⟩
  have htemplate : Operation.template
      ⟨.restJson, "/\x7bBucket\x7d/\x7bKey+\x7d", "GET", none, false, false⟩ =
      [.literal '/', .parameter "Bucket", .literal '/', .parameter "Key"] := by
    have hbucket : PathTemplate.placeholder? "Bucket\x7d/\x7bKey+\x7d".toList =
        some ("Bucket".toList, '/' :: '{' :: "Key+\x7d".toList) := rfl
    have hkey : PathTemplate.placeholder? "Key+\x7d".toList = some ("Key".toList, []) := rfl
    show PathTemplate.ofChars ('/' :: '{' :: "Bucket\x7d/\x7bKey+\x7d".toList) = _
    rw [PathTemplate.ofChars_literal (by decide), PathTemplate.ofChars_placeholder hbucket,
      PathTemplate.ofChars_literal (by decide), PathTemplate.ofChars_placeholder hkey,
      PathTemplate.ofChars]
    rfl
  have hkept : ¬ PathTemplate.Opens [("Key", true, "/d e"), ("Bucket", false, "b/c")]
      [.literal '/', .parameter "Bucket", .literal '/', .parameter "Key"] := by
    rintro ⟨name, rest, s, ht, hv, -⟩
    cases ht
    cases hv
  obtain ⟨hsent, hmade⟩ := rawPath_of_request ⟨⟨"1.1", none, false, false, .root, []⟩, .json, []⟩
    ⟨.restJson, "/\x7bBucket\x7d/\x7bKey+\x7d", "GET", none, false, false⟩
    [⟨.string, .path, "Bucket", none, false, none⟩,
      ⟨.string, .greedyPath, "Key", none, false, none⟩]
    [(.text "Bucket", .text "b/c"), (.text "Key", .text "/d e")]
    ⟨"https".toList, ['h', 'o', 's', 't'], [], 0, ⟨'h', "ttps".toList, rfl, by decide, by decide⟩,
      by simp [Url.IsHostText, Url.isDropped], by simp⟩ (.withoutFiles "b")
    (by rw [htemplate]; exact ⟨_, rfl, by decide⟩)
    (by rw [htemplate]; simp [PathTemplate.IsPlain])
    (by
      intro b hb _
      rcases List.mem_cons.1 hb with rfl | hb
      · exact ⟨"b/c", rfl, by decide⟩
      · rw [List.mem_singleton.1 hb]
        exact ⟨"/d e", rfl, by decide⟩)
  obtain ⟨r, hr, hraw⟩ := (hmade ⟨by decide, by decide, rfl⟩ hhost (by decide) (by
    rw [htemplate]
    intro name hn
    simp only [List.mem_cons, List.not_mem_nil, or_false, reduceCtorEq, false_or,
      PathPiece.parameter.injEq] at hn
    rcases hn with rfl | rfl <;> rfl)).2 (by rw [htemplate]; exact fun h => hkept h.2)
  have hbase := (hsent r hr).2.2 (by rw [htemplate]; exact fun h => hkept h.2)
  rw [htemplate] at hraw hbase
  exact ⟨r, hr, hraw, hbase⟩

/-- A key that starts with a slash loses its first segment without a name in front of it. -/
theorem rawPath_loses_segment :
    ∃ r, Dialect.request ⟨⟨"1.1", none, false, false, .root, []⟩, .json, []⟩
        ⟨.restJson, "/\x7bKey+\x7d", "GET", none, false, false⟩
        [⟨.string, .greedyPath, "Key", none, false, none⟩]
        (.map [(.text "Key", .text "/foo/bar")]) "https://host" (.withoutFiles "b") = .ok r ∧
      r.rawUri = "//foo/bar" ∧ r.rawPath = .ok "/bar" := by
  have hresolved : Marshalling.resolvedPath (.ofPath
      ⟨.restJson, "/\x7bKey+\x7d", "GET", none, false, false⟩ (some "application/x-amz-json-1.1")
      [("Key", "/foo/bar")]) = .ok "//foo/bar" := by
    have hkey : PathTemplate.placeholder? "Key+\x7d".toList = some ("Key".toList, []) := rfl
    show PathTemplate.expand (.ofChars ('/' :: '{' :: "Key+\x7d".toList)) _ = _
    rw [PathTemplate.ofChars_literal (by decide), PathTemplate.ofChars_placeholder hkey,
      PathTemplate.ofChars]
    rfl
  obtain ⟨plain, hplain⟩ := Url.normalize_path (s := "/bar".toList) (List.all_eq_true.1 rfl) rfl
    (by rintro ⟨t, ht⟩; cases ht)
  have hreads : RequestParts.PathReads (Operation.parts
      ⟨.restJson, "/\x7bKey+\x7d", "GET", none, false, false⟩ "//foo/bar" ""
      ⟨"https", "host", "", "", ""⟩ none [] (.blob [])) plain := by
    have hjoin : Marshalling.joinPath "" "//foo/bar" = "//foo/bar" :=
      Marshalling.joinPath_of_slash rfl ""
    have hparse : Url.parse "//foo/bar" = .ok ⟨"", "foo", "/bar", "", ""⟩ := rfl
    unfold RequestParts.PathReads
    rw [Operation.parts, hjoin]
    exact ⟨by decide, _, hparse, hplain⟩
  have hbase : RequestParts.BaseReads (Operation.parts
      ⟨.restJson, "/\x7bKey+\x7d", "GET", none, false, false⟩ "//foo/bar" ""
      ⟨"https", "host", "", "", ""⟩ none [] (.blob [])) ⟨"https", "host", "", "", ""⟩ :=
    ⟨"https://host", rfl, rfl, rfl, rfl⟩
  have hmake := (@Request.make_eq_ok _ (.withoutFiles "b") _).2
    ⟨List.forall_mem_nil _, _, hreads, _, hbase, ([], []), rfl, rfl⟩
  have htarget : Url.parse "https://host" = .ok ⟨"https", "host", "", "", ""⟩ := rfl
  have hfinish := Marshalling.finish_ofPath (by decide) hresolved htarget rfl hmake
  have hadd : Marshalling.addAll [⟨.string, .greedyPath, "Key", none, false, none⟩]
      (.map [(.text "Key", .text "/foo/bar")])
      (.ofPath ⟨.restJson, "/\x7bKey+\x7d", "GET", none, false, false⟩
        (some "application/x-amz-json-1.1") []) =
        .ok (.ofPath ⟨.restJson, "/\x7bKey+\x7d", "GET", none, false, false⟩
          (some "application/x-amz-json-1.1") [("Key", "/foo/bar")]) := rfl
  have huri : (Operation.parts
      ⟨.restJson, "/\x7bKey+\x7d", "GET", none, false, false⟩ "//foo/bar" ""
      ⟨"https", "host", "", "", ""⟩ none [] (.blob [])).path = "//foo/bar" :=
    Marshalling.joinPath_of_slash rfl ""
  refine ⟨_, bind_eq_ok.2 ⟨_, marshalling_noBody _ ⟨by decide, by decide, rfl⟩, bind_eq_ok.2
    ⟨_, hadd, hfinish⟩⟩, huri, ?_⟩
  have hend : Url.EndsPath [] := .inl rfl
  exact Request.rawPath_of_written (s := "//foo/bar".toList) huri (List.all_eq_true.1 rfl) rfl
    hend

end Dialect

end ServiceClient
