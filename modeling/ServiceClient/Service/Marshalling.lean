import ServiceClient.Association
import ServiceClient.BodyWriter
import ServiceClient.Http.Request
import ServiceClient.Service.Contribution
import ServiceClient.Service.PathTemplate

/-!
# Marshalling

A request under construction. Members are added one by one, each through its contribution; at
the end the parts are put together.

* `Marshalling.new`: a request without members.
* `Marshalling.add`: one member, with the state that it leaves even if it fails.
* `Marshalling.addAll`: all members of a request.
* `Marshalling.finish`: the HTTP request.
-/

namespace ServiceClient

/-- What is sent if the member that is the whole body is not set. -/
inductive EmptyBody
  | nothing
  | emptyDocument
deriving DecidableEq, Repr, Inhabited

/-- A request under construction. -/
structure Marshalling where
  operation : Operation
  /-- The content type of the body, if there is one. -/
  contentType : Option String
  emptyBody : EmptyBody
  writer : BodyWriter
  headers : Headers
  query : List (Value × Text)
  /-- The path parameters, escaped. -/
  path : List (String × String)
  /-- The body, if it does not come from the writer. -/
  body : Option Value
deriving Repr, Inhabited

namespace Marshalling

/-- A request without members. -/
def new (operation : Operation) (contentType : Option String) (emptyBody : EmptyBody)
    (writer : BodyWriter) : Marshalling :=
  ⟨operation, contentType, emptyBody, writer, [], [], [], none⟩

/-- The result of a step, with the state that it leaves. -/
abbrev Step (α : Type) := Except Failure α × Marshalling

/-- A call to the writer. -/
def call (c : Document.Call) (m : Marshalling) : Step Unit :=
  let (result, writer) := m.writer.perform c
  (result, { m with writer })

/-- Puts one part in its place. -/
def put (p : Part) (m : Marshalling) : Step Unit :=
  match p with
  | .call c => m.call c
  | .body v => (.ok (), { m with body := some v })
  | .header name value =>
    match m.headers.set name value with
    | .ok headers => (.ok (), { m with headers })
    | .error f => (.error f, m)
  | .query name value => (.ok (), { m with query := m.query ++ [(name, value)] })
  | .path name value => (.ok (), { m with path := Association.put name value m.path })

/-- Puts parts in their places, up to the first that fails. -/
def putAll : List Part → Marshalling → Step Unit
  | [], m => (.ok (), m)
  | p :: rest, m =>
    match m.put p with
    | (.ok (), m) => putAll rest m
    | (.error f, m) => (.error f, m)

/-- Adds what a member contributes. -/
def contribute (c : Contribution) (m : Marshalling) : Step Unit :=
  match m.putAll c.parts, c.failure with
  | (.ok (), m), some f => (.error f, m)
  | step, _ => step

/-- What stands for a body member that is not set. -/
def emptyContribution (e : EmptyBody) : Contribution :=
  match e with
  | .nothing => .none
  | .emptyDocument => ⟨[.call .startObject, .call .endObject], none⟩

/-- The contribution of a member, set or not. -/
def contributionOf (b : Binding) (v : Value) (m : Marshalling) : Contribution :=
  match b.isBody, v with
  | true, .null => emptyContribution m.emptyBody
  | true, v => b.bodyContribution v
  | false, .null => .none
  | false, v => b.contribution v

/-- Adds a member. -/
def add (b : Binding) (v : Value) (m : Marshalling) : Step Unit :=
  m.contribute (m.contributionOf b v)

/-- Opens the document of the body, unless a member is the whole body. -/
def start (m : Marshalling) : Step Unit :=
  if m.operation.hasBodyMember then (.ok (), m) else m.call .startObject

/-- The value of a request's member, null if it is not set. -/
def memberOf (request : Value) (key : String) : Except Failure Value :=
  match request with
  | .map fields => .ok ((Fields.get? (.text key) fields).getD .null)
  | v => .error (.attribute (v.typeName .memory) "get")

/-- Adds the members of a request in the order of their bindings. -/
def addMembers (bindings : List Binding) (request : Value) (m : Marshalling) :
    Except Failure Marshalling :=
  match bindings with
  | [] => .ok m
  | b :: rest => do
    let v ← memberOf request b.member
    let (result, m) := m.add b v
    result
    addMembers rest request m

/-- Adds all members of a request, which must be there. -/
def addAll (bindings : List Binding) (request : Value) (m : Marshalling) :
    Except Failure Marshalling :=
  match request with
  | .null => .error .missingRequest
  | request => (addMembers bindings request m).mapError .marshalling

/-- Closes the document of the body and gives the body. -/
def finishBody (m : Marshalling) : Step Value :=
  let (closed, m) :=
    if m.operation.hasBodyMember then ((.ok () : Except Failure Unit), m) else m.call .endObject
  let body : Except Failure Value := do
    closed
    match m.body with
    | some v => return v
    | none => return .blob (← m.writer.bytes)
  (body, m)

/-- The headers of the finished request: those of members, the length of the body, the content
type unless a member sets it, and the name of the operation. -/
def finishHeaders (body : Value) (m : Marshalling) : Except Failure Headers := do
  let headers ←
    if body.isFalsy then pure m.headers
    else
      match length? body with
      | some n => m.headers.set "Content-Length" (toString n)
      | none => throw (.operand (.noLength (body.typeName .memory)))
  let headers ←
    match m.contentType with
    | some type =>
      if headers.contains "Content-Type" || type.isEmpty || m.writer.isSilent then pure headers
      else headers.set "Content-Type" type
    | none => pure headers
  match m.operation.protocol, m.operation.identifier with
  | .awsJson, some name => if name.isEmpty then pure headers else headers.set "X-Amz-Target" name
  | _, _ => pure headers

/-- The path of the request without its parameters, and the query that the operation adds. -/
def splitUri (uri : String) : List Char × List Char :=
  let (path, query) := splitFirst (· = '?') (if uri.isEmpty then "/" else uri).toList
  (path, query.getD [])

/-- The path of the request, with its parameters. -/
def resolvedPath (m : Marshalling) : Except Failure String :=
  PathTemplate.expand (.ofChars (splitUri m.operation.uri).1) m.path

/-- A name of a query parameter as bytes. -/
def queryName (v : Value) : Except Failure Bytes :=
  match v with
  | .bytes .fixed s => .ok s
  | v => do utf8Of (← v.displayed)

/-- The names and values of query parameters as bytes. -/
def queryPairs : List (Value × Text) → Except Failure (List (Bytes × Bytes))
  | [] => .ok []
  | (name, value) :: rest => do
    let name ← queryName name
    let value ← utf8Of value
    return (name, value) :: (← queryPairs rest)

/-- The query string: that of the operation first, then that of members. -/
def queryString (m : Marshalling) : Except Failure String := do
  let fixed := String.ofList (splitUri m.operation.uri).2
  let given := Query.encode (← queryPairs m.query)
  return if fixed.isEmpty then given
    else if given.isEmpty then fixed
    else fixed ++ "&" ++ given

/-- A text without slashes at its end. -/
def dropFinalSlashes (s : String) : String :=
  String.ofList (s.toList.reverse.dropWhile (· = '/')).reverse

/-- A path below the path of an endpoint. -/
def joinPath (base path : String) : String :=
  let base := dropFinalSlashes base
  if path.startsWith "/" then base ++ path else base ++ "/" ++ path

/-- The HTTP request of a body, for an endpoint. -/
def assemble (endpoint : String) (parts : Multipart) (body : Value) (m : Marshalling) :
    Except Failure Request := do
  let headers ← m.finishHeaders body
  let path ← m.resolvedPath
  let target ← Url.parse endpoint
  let query ← m.queryString
  let port ← target.port?
  Request.make {
    method := m.operation.method
    path := joinPath target.path path
    headers, body
    scheme := if target.scheme.isEmpty then "https" else target.scheme
    query
    host := target.hostName?.getD "None"
    port
    rawPath := "" } parts

/-- Completes the body and puts the parts together. -/
def finish (endpoint : String) (parts : Multipart) (m : Marshalling) : Step Request :=
  let (body, m) := m.finishBody
  (do m.assemble endpoint parts (← body.mapError .marshalling), m)

end Marshalling

end ServiceClient
