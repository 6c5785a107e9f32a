import ServiceClient.Association
import ServiceClient.Http.Request
import ServiceClient.Http.Response
import ServiceClient.Log

/-!
# The transport

How a request goes out over a session and how the session's answer becomes a response.

* `Transmission.ofRequest`: what is handed to the session.
* `exchange`: one request and its outcome.
-/

namespace ServiceClient

/-- The name that the client gives itself. -/
def userAgent : String := "cos-sdk-core/1.0.0"

/-- How long the session may take to connect, and to wait for data; in seconds unless the
caller chose values of its own. -/
structure Timeouts where
  connection : Value
  socket : Value
deriving Repr

namespace Timeouts

/-- Ten seconds to connect, fifty for data. -/
def standard : Timeouts := ⟨.double (Double.ofInt 10), .double (Double.ofInt 50)⟩

/-- A choice of timeouts; null stands for the standard one. -/
def ofChoice (connection socket : Value) : Timeouts :=
  let orElse (default : Value) : Value → Value
    | .null => default
    | v => v
  ⟨orElse standard.connection connection, orElse standard.socket socket⟩

end Timeouts

/-- What is handed to a session for a request. -/
structure Transmission where
  method : String
  url : String
  params : List (String × String)
  headers : Headers
  body : Bytes
deriving Repr

/-- The headers that are handed over: one per spelling, a user agent, and no compression unless
the request asks for one. -/
def outgoingHeaders (h : Headers) : Headers :=
  let given := Association.ofPairs h
  let named :=
    if given.any fun e => e.1 == "User-Agent" then given
    else given ++ ([("User-Agent", userAgent)] : Headers)
  if ((h.get? "accept-encoding").getD "") = ("" : Text) then
    Association.put "accept-encoding" "identity" named
  else named

namespace Transmission

/-- What is handed over for a request. -/
def ofRequest (r : Request) : Except Failure Transmission := do
  return ⟨r.method, ← r.rawBaseUrl, r.args, outgoingHeaders r.headers, r.body⟩

end Transmission

/-- How a session answers. -/
inductive SessionAnswer
  | response (status : Int) (headers : Headers) (body : Bytes)
  | failure (reason : String)
deriving Repr

/-- The headers of an answer by their names without case: a later one takes the place of an
earlier one. -/
def mergedHeaders (h : Headers) : Headers :=
  let rec replace (name value : Text) : Headers → Headers
    | [] => [(name, value)]
    | (n, v) :: rest =>
      if sameName n name then (name, value) :: rest else (n, v) :: replace name value rest
  h.foldl (fun out e => replace e.1 e.2 out) []

/-- Sends a request. The request and its response are traced; a session that fails has no
response. -/
def exchange (r : Request) (answer : SessionAnswer) : Attempt Response := do
  let out ← (Transmission.ofRequest r : Except Failure Transmission)
  let text := out.method ++ " " ++ out.url
  let trace (t : Trace) : Record := ⟨.wire, .debug, text, some t⟩
  (Logged.report (trace ⟨false, none, out.body⟩) : Logged Unit)
  match answer with
  | .failure reason => throw (.transport reason)
  | .response status headers body =>
    (Logged.report (trace ⟨true, some status, body⟩) : Logged Unit)
    return Response.make status (mergedHeaders headers) body

end ServiceClient
