import Mathlib.Logic.Basic
import ServiceClient.Proofs.Outcome
import ServiceClient.Service.Dialect

/-!
# When a request can be made

A request is made from its parts exactly if the headers are fit to be sent, the parts have an
address, and there is a body.

* `RequestParts.HasAddress`: path and host are those of a URL.
* `Request.make_eq_ok`: the request that is made.
* `Marshalling.finishHeaders_eq`: its headers, step by step.
* `Marshalling.finish_eq_ok`: the request of a finished marshalling.
* `Dialect.marshalling_eq_ok`: a marshalling that is ready for its members.
-/

namespace ServiceClient

/-! ### Numbers in decimal -/

theorem toList_toString (n : Nat) : (toString n).toList = Nat.toDigits 10 n := String.toList_ofList

theorem isDigit_of_mem_toString {n : Nat} {c : Char} (h : c ∈ (toString n).toList) :
    c.isDigit = true := by
  rw [toList_toString] at h
  exact Nat.isDigit_of_mem_toDigits (by decide) (by decide) h

theorem toDigits_injective {n m : Nat} (h : Nat.toDigits 10 n = Nat.toDigits 10 m) : n = m := by
  calc n = Nat.ofDigitChars 10 (Nat.toDigits 10 n) 0 := Nat.ofDigitChars_ten_toDigits.symm
    _ = Nat.ofDigitChars 10 (Nat.toDigits 10 m) 0 := by rw [h]
    _ = m := Nat.ofDigitChars_ten_toDigits

/-! ### Parts and headers -/

namespace RequestParts

/-- Scheme, host and port as a URL. -/
def baseText (p : RequestParts) : String :=
  p.scheme ++ "://" ++ p.host ++
    match p.port with
    | some n => if n = 0 then "" else ":" ++ toString n
    | none => ""

/-- The path can be read as the path of a URL, which has a plain form. -/
def PathReads (p : RequestParts) (plain : String) : Prop :=
  '?' ∉ p.path.toList ∧ ∃ target, Url.parse p.path = .ok target ∧
    Url.normalize target.path = .ok plain

/-- Scheme, host and port can be read as a URL without query and fragment. -/
def BaseReads (p : RequestParts) (base : Url) : Prop :=
  ∃ text, Url.normalize p.baseText = .ok text ∧ Url.parse text = .ok base ∧
    base.query = "" ∧ base.fragment = ""

/-- The parts have an address. -/
def HasAddress (p : RequestParts) : Prop := (∃ plain, p.PathReads plain) ∧ ∃ base, p.BaseReads base

/-- The bytes that the body becomes, and the headers that go with it. -/
def sent (p : RequestParts) (parts : Multipart) : Except Failure (Bytes × Headers) :=
  toBytes .utf8 .refuse p.body >>= fun data => Request.bodyOf parts data p.headers

/-- The request that the parts make with the plain form of the path, with their base, and with
the body and its headers. -/
def request (p : RequestParts) (plain : String) (base : Url) (sent : Bytes × Headers) : Request :=
  let written := if p.rawPath = "" then p.path else p.rawPath
  { method := upper p.method
    scheme := base.scheme
    serverName := (Request.serverOf base.scheme base.authority).1
    serverPort := (Request.serverOf base.scheme base.authority).2
    path := "/" ++ Request.dropSlashes (Utf8.decodeLossy (Percent.decodeBytes plain.toList))
    rawUri := if p.query = "" then written else written ++ "?" ++ p.query
    args := Query.grouped (Query.parse p.query)
    headers := sent.2
    body := if Request.isChunked sent.2 then [] else sent.1 }

theorem request_body (p : RequestParts) (plain : String) (base : Url) (sent : Bytes × Headers) :
    (p.request plain base sent).body = if Request.isChunked sent.2 then [] else sent.1 := rfl

end RequestParts

namespace Headers

theorem check_eq_ok {h g : Headers} :
    h.check = .ok g ↔ (∀ e ∈ h, isValue e.2 = true) ∧ g = h := by
  unfold check
  by_cases hall : h.all fun e => isValue e.2
  · rw [if_pos hall]
    exact ⟨fun he => ⟨List.all_eq_true.1 hall, (Except.ok.inj he).symm⟩, fun he => by rw [he.2]⟩
  · rw [if_neg hall]
    exact ⟨fun he => (by cases he), fun he => absurd (List.all_eq_true.2 he.1) hall⟩

/-- A number is fit to be the value of a header. -/
theorem isValue_toString (n : Nat) : isValue (toString n) = true := by
  have hany :
      ((toString n : Text).points.any fun p => p = .char '\n' || p = .char '\r') = false := by
    rw [List.any_eq_false, Text.points_ofString]
    intro p hp hbreak
    obtain ⟨c, hc, rfl⟩ := List.mem_map.1 hp
    have hd := isDigit_of_mem_toString hc
    rw [Bool.or_eq_true, decide_eq_true_eq, decide_eq_true_eq, CodePoint.char.injEq,
      CodePoint.char.injEq] at hbreak
    rcases hbreak with rfl | rfl <;> exact absurd hd (by decide)
  rw [isValue, hany]; rfl

/-- A header is set exactly to a text without line breaks. -/
theorem set_eq_ok {name value : Text} {h g : Headers} :
    h.set name value = .ok g ↔ isValue value = true ∧ g = h.put name value := by
  unfold set
  by_cases hv : isValue value = true
  · rw [if_pos hv]
    exact ⟨fun he => ⟨hv, (Except.ok.inj he).symm⟩, fun he => by rw [he.2]⟩
  · rw [if_neg hv]
    exact ⟨fun he => (by cases he), fun he => absurd he.1 hv⟩

end Headers

namespace Request

/-- **A request is made** exactly from headers without line breaks, parts with an address, and a
body. -/
theorem make_eq_ok {p : RequestParts} {parts : Multipart} {r : Request} :
    make p parts = .ok r ↔ (∀ e ∈ p.headers, Headers.isValue e.2 = true) ∧
      ∃ plain, p.PathReads plain ∧ ∃ base, p.BaseReads base ∧
        ∃ sent, p.sent parts = .ok sent ∧ r = p.request plain base sent := by
  unfold make RequestParts.sent
  simp only [bind_eq_ok, check_eq_ok, Headers.check_eq_ok, List.contains_iff_mem]
  constructor
  · rintro ⟨h, ⟨hvalues, rfl⟩, data, hdata, hquery, target, ht, plain, hp, text, htext, base, hbase,
      hempty, sent, hsent, hr⟩
    rw [not_or, not_not, not_not] at hempty
    refine ⟨hvalues, plain, ⟨hquery, target, ht, hp⟩, base, ⟨text, htext, hbase, hempty⟩, sent,
      ⟨data, hdata, hsent⟩, ?_⟩
    exact (Except.ok.inj hr).symm
  · rintro ⟨hvalues, plain, ⟨hquery, target, ht, hp⟩, base, ⟨text, htext, hbase, hempty⟩, sent,
      ⟨data, hdata, hsent⟩, rfl⟩
    refine ⟨p.headers, ⟨hvalues, rfl⟩, data, hdata, hquery, target, ht, plain, hp, text, htext,
      base, hbase, ?_, sent, hsent, rfl⟩
    rw [not_or, not_not, not_not]
    exact hempty

end Request

namespace Operation

/-- The parts of a request of an operation, whose path is resolved, for the URL of an endpoint
and its port. -/
def parts (o : Operation) (path query : String) (target : Url) (port : Option Nat)
    (headers : Headers) (body : Value) : RequestParts where
  method := o.method
  path := Marshalling.joinPath target.path path
  headers := headers
  body := body
  scheme := if target.scheme.isEmpty then "https" else target.scheme
  query := query
  host := target.hostName?.getD "None"
  port := port
  rawPath := ""

/-- The name by which the operation is called in a header, empty if there is none. -/
def target (o : Operation) : String :=
  match o.protocol, o.identifier with
  | .awsJson, some name => name
  | _, _ => ""

/-- The operation with its path has an address at an endpoint. -/
def HasAddress (o : Operation) (path endpoint : String) : Prop :=
  ∃ target, Url.parse endpoint = .ok target ∧ ∃ port, target.port? = .ok port ∧
    (o.parts path "" target port [] .null).HasAddress

/-- Query, headers and body play no part in the address. -/
theorem hasAddress_parts {o : Operation} {path query : String} {target : Url}
    {port : Option Nat} {headers : Headers} {body : Value} :
    (o.parts path query target port headers body).HasAddress ↔
      (o.parts path "" target port [] .null).HasAddress := Iff.rfl

end Operation

namespace Marshalling

/-- A path that starts with a slash follows the path of the endpoint. -/
theorem joinPath_of_slash {path : String} {rest : List Char} (h : path.toList = '/' :: rest)
    (base : String) : joinPath base path = dropFinalSlashes base ++ path := by
  have hs : path.startsWith "/" = true := by
    rw [String.startsWith_string_iff, h]
    exact List.prefix_append ['/'] rest
  unfold joinPath
  rw [if_pos hs]

/-- The headers of members with the length of the body, unless it is empty. -/
def lengthHeader (body : Value) (m : Marshalling) : Except Failure Headers :=
  if body.isFalsy then .ok m.headers
  else
    match length? body with
    | some n => m.headers.set "Content-Length" (toString n)
    | none => .error (.operand (.noLength (body.typeName .memory)))

/-- The header with the content type, unless there is one. -/
def typeHeader (m : Marshalling) (h : Headers) : Except Failure Headers :=
  match m.contentType with
  | some type =>
    if h.contains "Content-Type" || type.isEmpty || m.writer.isSilent then .ok h
    else h.set "Content-Type" type
  | none => .ok h

/-- The header with the name of the operation, if it has one. -/
def targetHeader (m : Marshalling) (h : Headers) : Except Failure Headers :=
  if m.operation.target.isEmpty then .ok h else h.set "X-Amz-Target" m.operation.target

/-- The headers of length, type and operation come one after the other. -/
theorem finishHeaders_eq (m : Marshalling) (body : Value) :
    m.finishHeaders body = m.lengthHeader body >>= m.typeHeader >>= m.targetHeader := by
  have htarget : ∀ h : Headers,
      (match m.operation.protocol, m.operation.identifier with
        | .awsJson, some name => if name.isEmpty then pure h else h.set "X-Amz-Target" name
        | _, _ => (pure h : Except Failure Headers)) = m.targetHeader h := by
    intro h
    unfold targetHeader Operation.target
    split <;> rfl
  -- from the last header to the first, since each step goes on with those behind it
  have hrest : ∀ h : Headers, (do
      let headers ←
        match m.contentType with
        | some type =>
          if h.contains "Content-Type" || type.isEmpty || m.writer.isSilent then pure h
          else h.set "Content-Type" type
        | none => pure h
      match m.operation.protocol, m.operation.identifier with
      | .awsJson, some name =>
        if name.isEmpty then pure headers else headers.set "X-Amz-Target" name
      | _, _ => (pure headers : Except Failure Headers)) = m.typeHeader h >>= m.targetHeader := by
    intro h
    unfold typeHeader
    cases m.contentType with
    | none => exact htarget h
    | some type =>
      by_cases hset : h.contains "Content-Type" || type.isEmpty || m.writer.isSilent
      · simp only [hset, if_true]
        exact htarget h
      · simp only [hset, if_false, Bool.false_eq_true]
        congr 1
        funext g
        exact htarget g
  unfold finishHeaders lengthHeader
  rw [bind_assoc]
  by_cases hfalsy : body.isFalsy
  · simp only [hfalsy, if_true]
    exact hrest m.headers
  · simp only [hfalsy, if_false, Bool.false_eq_true]
    cases length? body with
    | none => rfl
    | some n =>
      dsimp only
      congr 1
      funext h
      exact hrest h

/-- Without parameters from members, the query string is that of the operation. -/
theorem queryString_of_nil {m : Marshalling} (h : m.query = []) :
    m.queryString = .ok (String.ofList (splitUri m.operation.uri).2) := by
  have hempty : Query.encode [] = "" := rfl
  unfold queryString
  rw [h, queryPairs]
  show Except.ok _ = _
  rw [hempty]
  split
  · next hfixed => rw [String.isEmpty_iff.1 hfixed]
  · rfl

theorem assemble_eq_ok {endpoint : String} {parts : Multipart} {body : Value} {m : Marshalling}
    {r : Request} :
    m.assemble endpoint parts body = .ok r ↔ ∃ headers, m.finishHeaders body = .ok headers ∧
      ∃ path, m.resolvedPath = .ok path ∧ ∃ target, Url.parse endpoint = .ok target ∧
        ∃ query, m.queryString = .ok query ∧ ∃ port, target.port? = .ok port ∧
          Request.make (m.operation.parts path query target port headers body) parts = .ok r := by
  unfold assemble
  simp only [bind_eq_ok]
  rfl

/-- **A marshalling is finished** by its body, and by putting its parts together. -/
theorem finish_eq_ok {endpoint : String} {parts : Multipart} {m : Marshalling} {r : Request} :
    (m.finish endpoint parts).1 = .ok r ↔ ∃ body, m.finishBody.1 = .ok body ∧
      m.finishBody.2.assemble endpoint parts body = .ok r := by
  unfold finish
  simp only [bind_eq_ok, mapError_eq_ok]

end Marshalling

/-- A marshalling is ready once its document has been started. -/
theorem Dialect.marshalling_eq_ok {d : Dialect} {o : Operation} {m : Marshalling} :
    d.marshalling o = .ok m ↔ ∃ empty, o.emptyBody = .ok empty ∧
      (Marshalling.new o (some d.contentType) empty (d.writer o)).start = (.ok (), m) := by
  unfold Dialect.marshalling
  rw [bind_eq_ok]
  refine exists_congr fun empty => and_congr_right fun _ => ?_
  obtain ⟨started, ready⟩ :=
    (Marshalling.new o (some d.contentType) empty (d.writer o)).start
  cases started with
  | error e => exact ⟨fun h => (by cases h), fun h => (by cases h)⟩
  | ok u => exact ⟨fun h => (by cases h; rfl), fun h => (by cases h; rfl)⟩

end ServiceClient
