import ServiceClient.Http.Response
import ServiceClient.Service.Dialect

/-!
# Replies

A response becomes a result or an error.

* `Dialect.readResult`: the result of a successful response.
* `Dialect.readError`: the error of any other response. It fails for a code or a message in the
  body that has no text.
* `Reply`: what the reader of a result sees of a response.
-/

namespace ServiceClient

/-- What is known about the response of an operation. -/
structure ResponseShape where
  isStreaming : Bool
  isDocument : Bool
deriving DecidableEq, Repr

/-- A response that is read at once and holds a document. -/
def ResponseShape.standard : ResponseShape := ⟨false, true⟩

/-- A response with its parsed body. -/
structure Reply where
  content : Value
  response : Response
  encoding : Encoding
deriving Repr

namespace Reply

/-- A member of the body, if the body is a map that has it. -/
def member? (r : Reply) (name : String) : Option Value :=
  match r.content with
  | .map fields => Fields.get? (.text name) fields
  | _ => none

/-- A member of the body, null if it is not there. -/
def member (r : Reply) (name : String) : Value := (r.member? name).getD .null

/-- A member that holds bytes. -/
def blob (r : Reply) (name : String) : Except Failure Value :=
  r.encoding.decodeBlob r.encoding.origin (r.member name)

/-- A member that holds a timestamp. -/
def timestamp (r : Reply) (name : String) : Except Failure Value :=
  r.encoding.decodeTimestamp r.encoding.origin (r.member name)

/-- A header of the response. -/
def header? (r : Reply) (name : Text) : Option Text := r.response.headers.get? name

end Reply

/-- Makes the result of an operation out of a reply. -/
abbrev ResultReader := Reply → Except Failure Value

/-- The result of an operation, with what its response told besides. -/
structure ServiceResult where
  result : Value
  requestId : Option Text
  headers : Headers
deriving Repr

/-- The header that identifies a request. -/
def requestIdHeader : String := "x-amzn-RequestId"

/-- The header with the checksum of a body. -/
def checksumHeader : String := "x-amz-crc32"

/-- Compares the checksum of a body with that of the header, if there is one. -/
def checkChecksum (h : Headers) (body : Bytes) : Except Failure Unit :=
  match h.get? checksumHeader with
  | none => .ok ()
  | some expected =>
    let actual := (crc32 body).toNat
    if toString actual = trim expected.replaced then .ok ()
    else .error (.checksum expected.replaced actual)

/-- The start of a body, for messages. -/
def bodyExcerpt (body : Bytes) : String := (Text.excerpt excerptLimit (quoteBytes body)).replaced

namespace Dialect

/-- The document of a successful response; null if it has none. -/
def readContent (d : Dialect) (shape : ResponseShape) (body : Bytes) : Except Failure Value :=
  if !body.isEmpty && shape.isDocument && !shape.isStreaming then
    (d.encoding.parse body).mapError fun cause => .unmarshalling cause (bodyExcerpt body)
  else .ok .null

/-- The result of a successful response. Without a reader the result is null. -/
def readResult (d : Dialect) (shape : ResponseShape) (reader : Option ResultReader)
    (r : Response) : Attempt ServiceResult := do
  let requestId := r.headers.get? requestIdHeader
  (Logged.report (.debug .handlers
    ("Received successful response: " ++ toString r.status ++ ", request id: " ++
      (ServiceError.shown requestId).replaced)) : Logged Unit)
  checkChecksum r.headers r.body
  let content ← d.readContent shape r.body
  let result ← match reader with
    | some read => (read ⟨content, r, d.encoding⟩ : Except Failure Value)
    | none => pure .null
  return ⟨result, requestId, r.headers.spellings⟩

/-- The fields of an error response. A body that is no map has none, and one that cannot be
parsed is reported. -/
def readFields (d : Dialect) (body : Bytes) : Logged Fields :=
  if body.isEmpty then return []
  else
    match d.encoding.parse body with
    | .ok (.map fields) => return fields
    | .ok _ => return []
    | .error _ => do
      Logged.report (.debug .handlers
        ("Unable to parse HTTP response content: " ++ bodyExcerpt body))
      return []

/-- The message of an error that no reader could read. -/
def unreadable : String :=
  "Unable to unmarshall exception response with the unmarshallers provided"

/-- The error that the reader of a code makes out of fields. If it fails, that is reported and
the error is one of the root class. -/
def makeError (readers : List ErrorReader) (code : Option Text) (fields : Fields)
    (message : Option Text) : Logged ServiceError :=
  let bare : ServiceError := .new .root (some (unreadable : Text))
  match ErrorReader.find? readers code with
  | none => return bare
  | some r =>
    match r.read fields message with
    | .ok e => return e
    | .error _ => do
      Logged.report (.debug .handlers ("Unable to unmarshall exception content with " ++ r.label))
      return bare

/-- The side that a status code blames. -/
def sideOf (status : Int) : FaultSide := if 500 ≤ status then .service else .client

/-- The error of a response that is no success. -/
def readError (d : Dialect) (codeField : Option String) (serviceName : Option String)
    (r : Response) : Attempt ServiceError := do
  let fields ← (d.readFields r.body : Logged Fields)
  let code ← (errorCode r.headers fields codeField : Except Failure (Option Text))
  let message ← (errorMessage r.headers fields : Except Failure (Option Text))
  let e ← (makeError d.readers code fields message : Logged ServiceError)
  let requestId := r.headers.get? requestIdHeader
  (Logged.report (.debug .handlers
    ("Received error response: " ++ toString r.status ++ ", error code: " ++
      (ServiceError.shown code).replaced ++ ", request id: " ++
      (ServiceError.shown requestId).replaced)) : Logged Unit)
  return { e with
    code := (code.filter fun c => !c.isEmpty).getD e.code
    message := e.message <|> message
    statusCode := r.status
    side := sideOf r.status
    requestId, serviceName
    headers := r.headers
    raw := r.body }

end Dialect

end ServiceClient
