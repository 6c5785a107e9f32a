import ServiceClient.Region
import ServiceClient.Service.Reply

/-!
# Clients

A client of one service: the dialect and the endpoint are chosen once, when it is made.

* `Client.make`: a client for a description and options.
* `Client.invoke`: one call of an operation.
-/

namespace ServiceClient

/-- How a client is to be made. -/
structure ClientOptions where
  serviceName : String
  /-- What the host of the regional endpoint starts with. -/
  endpointPrefix : String
  metadata : ServiceMetadata
  endpoint : Option String
  region : Option String
  switches : Switches
  regionProvider : RegionProvider
  /-- The field with the error code, if it is not the usual one. -/
  codeField : Option String

/-- A client of a service. -/
structure Client where
  serviceName : String
  dialect : Dialect
  endpoint : String
  codeField : Option String

/-- Why a call has no result: it failed on the client's side, or the service answered an
error. -/
inductive CallError
  | client (f : Failure)
  | service (e : ServiceError)

/-- A call of an operation. -/
structure OperationCall where
  operation : Operation
  bindings : List Binding
  /-- The members of the request. -/
  request : Value
  reader : Option ResultReader
  shape : ResponseShape

/-- What became of a call: the request that was sent, if one was, and the outcome. -/
structure Exchange where
  sent : Option Request
  outcome : Except CallError Value

namespace Client

/-- The endpoint of a service in a region. -/
def regionalEndpoint (endpointPrefix region : String) : String :=
  "https://" ++ endpointPrefix ++ "." ++ region ++ ".amazonaws.com"

/-- A text that is there and not empty. -/
def filled? (s : Option String) : Option String := s.filter fun s => !s.isEmpty

/-- The region of the options, or else that of the provider. -/
def regionOf (o : ClientOptions) (e : Environment) : Attempt String := do
  match filled? o.region with
  | some region => return region
  | none =>
    let found ← (ExceptT.mk (o.regionProvider.lookup e) : Attempt (Option String))
    match filled? found with
    | some region => return region
    | none => throw .noRegion

/-- The endpoint of the options, or else that of the service in its region. -/
def endpointOf (o : ClientOptions) (e : Environment) : Attempt String := do
  match filled? o.endpoint with
  | some endpoint => return endpoint
  | none => return regionalEndpoint o.endpointPrefix (← regionOf o e)

/-- A client. -/
def make (o : ClientOptions) (e : Environment) : Attempt Client := do
  let dialect ← (Dialect.ofMetadata o.metadata o.switches : Logged Dialect)
  let endpoint ← endpointOf o e
  return ⟨o.serviceName, dialect, Marshalling.dropFinalSlashes endpoint, o.codeField⟩

/-- Whether a status code tells of success. -/
def isSuccess (status : Int) : Bool := 200 ≤ status && status < 300

/-- The outcome of a call that was answered. -/
def receive (c : Client) (call : OperationCall) (r : Response) :
    Logged (Except CallError Value) := do
  if isSuccess r.status then
    let result ← (c.dialect.readResult call.shape call.reader r).run
    return (result.map ServiceResult.result).mapError .client
  else
    let e ← (c.dialect.readError c.codeField (some c.serviceName) r).run
    return match e with
      | .ok e => .error (.service e)
      | .error f => .error (.client f)

/-- The name of an operation in log records. -/
def label (o : Operation) : String := nonEmptyOr o.uri o.identifier

/-- Calls an operation over a transport. A request that cannot be marshalled is not sent. -/
def invoke (c : Client) (call : OperationCall) (send : Request → Except Failure Response)
    (parts : Multipart) : Logged Exchange := do
  match c.dialect.request call.operation call.bindings call.request c.endpoint parts with
  | .error f => return ⟨none, .error (.client f)⟩
  | .ok request =>
    Logged.report (.debug .client
      ("Sending request " ++ label call.operation ++ " to " ++ c.endpoint))
    match send request with
    | .error f => return ⟨some request, .error (.client f)⟩
    | .ok response => return ⟨some request, ← c.receive call response⟩

end Client

end ServiceClient
