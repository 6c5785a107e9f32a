import ServiceClient.Failure

/-!
# Operations

The static description of an operation: how it is called, and where each member of its request
goes.

* `Operation`: protocol, request URI and method of an operation.
* `Binding`: the place of one member.
-/

namespace ServiceClient

/-- The wire protocols of services. -/
inductive Protocol
  | awsJson
  | restJson
  | cbor
  | ion
  | apiGateway
  | query
  | restXml
  | ec2
deriving DecidableEq, Repr, Inhabited

/-- The types of members, as far as they decide how a member is written. -/
inductive MemberType
  | string
  | blob
  | list
  | map
  /-- A document, possibly as its own text. -/
  | jsonValue
  /-- A number, a truth value, a timestamp or a structure: written by its value alone. -/
  | plain
deriving DecidableEq, Repr, Inhabited

/-- The places of a request that a member can go to. -/
inductive Location
  | payload
  | header
  | path
  /-- A part of the path that may contain slashes. -/
  | greedyPath
  | query
  /-- A place that no request has. -/
  | unknown (name : String)
deriving DecidableEq, Repr, Inhabited

/-- The place of a member. -/
structure Binding where
  type : MemberType
  location : Location
  /-- The name of the header, the parameter or the field. -/
  name : String
  /-- The key of the member in the request, if it is not the name. -/
  key : Option String
  /-- Whether the member is the whole body of the request. -/
  isBody : Bool
  /-- The format of timestamps, if it is not that of the location. -/
  format : Option String
deriving Repr, Inhabited

/-- The first text, unless it is missing or empty. -/
def nonEmptyOr (default : String) (s : Option String) : String :=
  match s with
  | none | some "" => default
  | some s => s

/-- The key of the member in the request. -/
def Binding.member (b : Binding) : String := nonEmptyOr b.name b.key

/-- An operation of a service. -/
structure Operation where
  protocol : Protocol
  /-- The path with its placeholders, and possibly a query of its own. -/
  uri : String
  method : String
  /-- The name by which some protocols call the operation. -/
  identifier : Option String
  /-- Whether one member of the request is the whole body. -/
  hasBodyMember : Bool
  /-- Whether any member goes into the body. -/
  hasPayload : Bool
deriving Repr, Inhabited

end ServiceClient
