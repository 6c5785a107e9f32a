import ServiceClient.Association
import ServiceClient.Http.Headers
import ServiceClient.Text.Case
import ServiceClient.Value

/-!
# Errors of a service

What a service answers instead of a result. The errors that a service models are classes that
extend each other; the root of all is `ErrorClass.root`.

* `ErrorClass`: a kind of error with its modelled members.
* `ServiceError`: one error, with what its response told.
* `ServiceError.text`: its wording.
-/

namespace ServiceClient

/-- A kind of error. -/
structure ErrorClass where
  name : String
  /-- The names of the classes that it extends, the root last. -/
  ancestors : List String
  code : String
  statusCode : Int
  /-- Whether the sender of the request is at fault. -/
  senderFault : Bool
  /-- The declared members, those of the root first. -/
  members : List String
deriving Repr, Inhabited

namespace ErrorClass

/-- The class that all others extend. -/
def root : ErrorClass := ⟨"ServiceException", [], "ServiceException", 400, false, []⟩

/-- A class that extends another one, with its own code, status and fault where they are
given. -/
def extend (base : ErrorClass) (name : String) (code : Option String) (statusCode : Option Int)
    (senderFault : Option Bool) (members : List String) : ErrorClass where
  name := name
  ancestors := base.name :: base.ancestors
  code := code.getD base.code
  statusCode := statusCode.getD base.statusCode
  senderFault := senderFault.getD base.senderFault
  members := base.members ++ members

/-- The names of the class and of those that it extends. -/
def lineage (c : ErrorClass) : List String := c.name :: c.ancestors

/-- The attributes that every error has; no member of a body sets them. -/
def reserved : List String :=
  ["code", "message", "status_code", "sender_fault", "error_type", "request_id",
    "service_name", "headers", "raw_response"]

/-- Whether a declared member comes from the body of an error: its name is not reserved, and
starts with another character than an underscore. -/
def isModelled (member : String) : Bool :=
  !reserved.contains member && member.toList.head?.any (· != '_')

/-- The member that a field of a body sets. Names compare without case, and of two members with
one name the one declared last counts. -/
def member? (c : ErrorClass) (field : Text) : Option String :=
  (c.members.filter isModelled).reverse.find? fun m => sameName m field

end ErrorClass

/-- The side that is at fault. -/
inductive FaultSide
  | client
  | service
  | unknown
deriving DecidableEq, Repr, Inhabited

/-- An error that a service answered. -/
structure ServiceError where
  errorClass : ErrorClass
  code : Text
  message : Option Text
  statusCode : Int
  side : FaultSide
  requestId : Option Text
  serviceName : Option String
  headers : Headers
  /-- The body of the response. -/
  raw : Bytes
  /-- The members that are set. -/
  members : List (String × Value)
deriving Repr, Inhabited

namespace ServiceError

/-- An error of a class before anything is known of its response. -/
def new (c : ErrorClass) (message : Option Text) : ServiceError where
  errorClass := c
  code := c.code
  message := message
  statusCode := c.statusCode
  side := .unknown
  requestId := none
  serviceName := none
  headers := []
  raw := []
  members := []

/-- Sets a member. -/
def setMember (name : String) (v : Value) (e : ServiceError) : ServiceError :=
  { e with members := Association.put name v e.members }

/-- A text that may be missing, as messages show it. -/
def shown (t : Option Text) : Text := t.getD "None"

/-- The wording of an error. -/
def text (e : ServiceError) : Text :=
  shown e.message ++ (" (Service: " : Text) ++ shown (e.serviceName.map Text.ofString) ++
    ("; Status Code: " ++ toString e.statusCode ++ "; Error Code: " : String) ++ e.code ++
    ("; Request ID: " : Text) ++ shown e.requestId ++ (")" : Text)

end ServiceError

end ServiceClient
