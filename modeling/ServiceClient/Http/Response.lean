import ServiceClient.Failure
import ServiceClient.Http.Headers

/-!
# Responses

* `Response.make`: a response whose headers tell its content type and the length of its body.
* `Response.ofJson`: a response that holds a document.
-/

namespace ServiceClient

/-- An HTTP response. -/
structure Response where
  status : Int
  headers : Headers
  body : Bytes
deriving Repr, Inhabited

namespace Response

/-- The content type of a response that names none. -/
def defaultType : String := "text/plain; charset=utf-8"

/-- A response with the headers completed. -/
def make (status : Int) (headers : Headers) (body : Bytes) : Response :=
  let headers :=
    if headers.contains "content-type" then headers
    else headers ++ ([("Content-Type", defaultType)] : Headers)
  ⟨status, headers.put "Content-Length" (toString body.length), body⟩

/-- A response that holds a document as JSON, with a blank after each separator. -/
def ofJson (doc : Value) (status : Int) (headers : Headers) : Except Failure Response := do
  let headers ← headers.check
  let chars ← (Json.print Json.spaced doc).mapError .jsonValue
  let response := make status headers (Utf8.encodeChars chars)
  return { response with headers := response.headers.put "Content-Type" "application/json" }

end Response

end ServiceClient
