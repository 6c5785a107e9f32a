import ServiceClient.Service.ErrorReader
import ServiceClient.Service.Marshalling

/-!
# Dialects

How a client talks to a service: the encoding of bodies and its content type, chosen once, and
the readers of errors.

* `ServiceMetadata`: the static description of a service.
* `Dialect.ofMetadata`: the dialect under given switches.
* `Dialect.marshalling`: a request of an operation, ready for its members.
-/

namespace ServiceClient

/-- The switches of a client. -/
structure Switches where
  cborDisabled : Bool
  ionBinaryDisabled : Bool
deriving DecidableEq, Repr, Inhabited

/-- The static description of a service. -/
structure ServiceMetadata where
  /-- The version that completes the content type. -/
  version : String
  /-- A content type to use whatever the encoding is. -/
  contentType : Option String
  supportsCbor : Bool
  supportsIon : Bool
  /-- The class of errors that no shape models. -/
  baseError : ErrorClass
  shapes : List ErrorShape

namespace ServiceMetadata

/-- The encoding of bodies under given switches. -/
def encoding (s : ServiceMetadata) (w : Switches) : Encoding :=
  .select s.supportsCbor w.cborDisabled s.supportsIon w.ionBinaryDisabled

/-- The content type of bodies in an encoding. -/
def contentTypeOf (s : ServiceMetadata) (encoding : Encoding) : String :=
  nonEmptyOr (encoding.mediaType ++ s.version) s.contentType

end ServiceMetadata

/-- How a client talks to a service. -/
structure Dialect where
  metadata : ServiceMetadata
  encoding : Encoding
  readers : List ErrorReader

namespace Dialect

/-- The content type of bodies. -/
def contentType (d : Dialect) : String := d.metadata.contentTypeOf d.encoding

/-- The dialect of a service under given switches. -/
def ofMetadata (s : ServiceMetadata) (w : Switches) : Logged Dialect := do
  let readers ← ErrorReader.ofShapes s.shapes s.baseError
  let d : Dialect := ⟨s, s.encoding w, readers⟩
  Logged.report (.debug .factory
    ("Using " ++ d.encoding.name ++ " wire encoding (content type " ++ d.contentType ++ ") with " ++
      toString readers.length ++ " error unmarshallers"))
  return d

/-- The writer of an operation's body. Operations without payload send no body, except those of
the protocol that always expects a document. -/
def writer (d : Dialect) (o : Operation) : BodyWriter :=
  if o.hasPayload || o.protocol = .awsJson then .new d.encoding else .silent

end Dialect

namespace Operation

/-- What the operation sends for a body member that is not set. Gateway operations are not sent
in these dialects. -/
def emptyBody (o : Operation) : Except Failure EmptyBody :=
  if o.protocol = .apiGateway then .error .gatewayProtocol
  else .ok (if o.hasPayload then .emptyDocument else .nothing)

end Operation

namespace Dialect

/-- A request of an operation, ready for its members. -/
def marshalling (d : Dialect) (o : Operation) : Except Failure Marshalling := do
  let emptyBody ← o.emptyBody
  let (started, m) := (Marshalling.new o (some d.contentType) emptyBody (d.writer o)).start
  started
  return m

/-- The HTTP request of an operation with its members. -/
def request (d : Dialect) (o : Operation) (bindings : List Binding) (members : Value)
    (endpoint : String) (parts : Multipart) : Except Failure Request := do
  let m ← d.marshalling o
  let m ← m.addAll bindings members
  (m.finish endpoint parts).1

end Dialect

end ServiceClient
