import ServiceClient.Encoding

/-!
# Body writers

A request body is written either as a document in an encoding, or by a writer that ignores all
calls, for operations that never send a body.

* `BodyWriter.perform`: one call, with the state that it leaves even if it is refused.
* `BodyWriter.bytes`: the body.
-/

namespace ServiceClient

/-- A writer of a request body. -/
inductive BodyWriter
  | document (encoding : Encoding) (state : Document)
  | silent
deriving Repr, Inhabited

namespace BodyWriter

/-- A writer of an encoding before the first call. -/
def new (encoding : Encoding) : BodyWriter := .document encoding Document.empty

/-- Whether the writer ignores all calls. -/
def isSilent : BodyWriter → Bool
  | silent => true
  | document .. => false

/-- Performs a call. -/
def perform (call : Document.Call) (w : BodyWriter) : Except Failure Unit × BodyWriter :=
  match w with
  | silent => (.ok (), silent)
  | document encoding d =>
    match d.perform encoding.convert call with
    | .ok d => (.ok (), document encoding d)
    | .error r => (.error (.misuse r.cause), document encoding r.state)

/-- The body: empty before the first call, and an error while containers are open. -/
def bytes (w : BodyWriter) : Except Failure Bytes :=
  match w with
  | silent => .ok []
  | document encoding d =>
    match d.finished? with
    | .error m => .error (.misuse m)
    | .ok none => .ok []
    | .ok (some v) => encoding.encode v

end BodyWriter

end ServiceClient
