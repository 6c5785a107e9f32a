import ServiceClient.Client

/-!
# The key management service

The operations of the key management service that are supported: decrypting, cancelling the
deletion of a key, and random bytes.

* `Kms.metadata`: the service with its errors.
* `Kms.decrypt`, `Kms.cancelKeyDeletion`, `Kms.generateRandom`: the calls.
* `Kms.call`: a call by name with its arguments in order.
-/

namespace ServiceClient.Kms

def serviceName : String := "AWSKMS"

def endpointPrefix : String := "kms"

/-- The class of all errors of the service. -/
def baseError : ErrorClass :=
  ErrorClass.root.extend "AWSKMSException" (some "AWSKMSException") (some 400) (some false) []

/-- An error that the service models; its code is its name. -/
def errorNamed (name : String) (statusCode : Int) : ErrorClass :=
  baseError.extend name (some name) (some statusCode) (some false) []

/-- The errors that the service models, in the order in which their codes are tried. -/
def errors : List ErrorClass :=
  [errorNamed "CustomKeyStoreInvalidStateException" 400,
    errorNamed "CustomKeyStoreNotFoundException" 400,
    errorNamed "DependencyTimeoutException" 500,
    errorNamed "DisabledException" 409,
    errorNamed "IncorrectKeyException" 400,
    errorNamed "InvalidArnException" 400,
    errorNamed "InvalidCiphertextException" 400,
    errorNamed "InvalidGrantTokenException" 400,
    errorNamed "InvalidKeyUsageException" 400,
    errorNamed "KeyUnavailableException" 500,
    errorNamed "KMSInternalException" 500,
    errorNamed "KMSInvalidStateException" 409,
    errorNamed "NotFoundException" 400]

/-- The service: plain JSON of version 1.1. -/
def metadata : ServiceMetadata where
  version := "1.1"
  contentType := none
  supportsCbor := false
  supportsIon := false
  baseError := baseError
  shapes := errors.map fun c => ⟨c.code, some c, none⟩

/-- An operation of the service. -/
def operation (name : String) : Operation where
  protocol := .awsJson
  uri := "/"
  method := "POST"
  identifier := some ("TrentService." ++ name)
  hasBodyMember := false
  hasPayload := true

/-- A member of the body. -/
def payload (type : MemberType) (name : String) : Binding :=
  ⟨type, .payload, name, none, false, none⟩

/-- How a member of the body becomes a member of the result. -/
abbrev MemberReader := Reply → String → Except Failure Value

/-- A member as it is. -/
def asIs : MemberReader := fun r name => .ok (r.member name)

/-- The members of a body that are set, as a map. -/
def readMembers (r : Reply) : List (String × MemberReader) → Except Failure Fields
  | [] => .ok []
  | (name, read) :: rest =>
    match r.member name with
    | .null => readMembers r rest
    | _ => do
      let v ← read r name
      return (.text name, v) :: (← readMembers r rest)

/-- The result of an operation with given members. -/
def resultReader (members : List (String × MemberReader)) : ResultReader :=
  fun r => (readMembers r members).map .map

/-- Decrypts a ciphertext. -/
def decrypt (request : Value) : OperationCall where
  operation := operation "Decrypt"
  bindings :=
    [payload .blob "CiphertextBlob", payload .map "EncryptionContext",
      payload .list "GrantTokens", payload .string "KeyId",
      payload .string "EncryptionAlgorithm"]
  request := request
  reader := some (resultReader
    [("KeyId", asIs), ("Plaintext", Reply.blob), ("EncryptionAlgorithm", asIs)])
  shape := .standard

/-- Takes back the deletion of a key. -/
def cancelKeyDeletion (keyId : Value) : OperationCall where
  operation := operation "CancelKeyDeletion"
  bindings := [payload .string "KeyId"]
  request := .map [(.text "KeyId", keyId)]
  reader := some (resultReader [("KeyId", asIs)])
  shape := .standard

/-- Asks for random bytes. -/
def generateRandom (numberOfBytes customKeyStoreId : Value) : OperationCall where
  operation := operation "GenerateRandom"
  bindings := [payload .plain "NumberOfBytes", payload .string "CustomKeyStoreId"]
  request :=
    let members := [("NumberOfBytes", numberOfBytes), ("CustomKeyStoreId", customKeyStoreId)]
    .map (members.filterMap fun (name, v) => match v with
      | .null => none
      | v => some (.text name, v))
  reader := some (resultReader [("Plaintext", Reply.blob)])
  shape := .standard

/-- The operations. -/
inductive Method
  | decrypt
  | cancelKeyDeletion
  | generateRandom
deriving DecidableEq, Repr

namespace Method

/-- The name that messages show. -/
def label : Method → String
  | decrypt => "KMSClient.decrypt"
  | cancelKeyDeletion => "KMSClient.cancel_key_deletion"
  | generateRandom => "KMSClient.generate_random"

end Method

/-- A call with its arguments in order. -/
def call (m : Method) (arguments : List Value) : Except Failure OperationCall :=
  let surplus (least most : Nat) : Except Failure OperationCall :=
    .error (.arguments (.surplus m.label least most (arguments.length + 1)))
  match m, arguments with
  | .decrypt, [request] => .ok (decrypt request)
  | .decrypt, [] => .error (.arguments (.missing m.label "request"))
  | .decrypt, _ => surplus 2 2
  | .cancelKeyDeletion, [keyId] => .ok (cancelKeyDeletion keyId)
  | .cancelKeyDeletion, [] => .error (.arguments (.missing m.label "key_id"))
  | .cancelKeyDeletion, _ => surplus 2 2
  | .generateRandom, [] => .ok (generateRandom .null .null)
  | .generateRandom, [n] => .ok (generateRandom n .null)
  | .generateRandom, [n, store] => .ok (generateRandom n store)
  | .generateRandom, _ => surplus 1 3

/-- The options of a client of the service. -/
def options (endpoint region : Option String) (switches : Switches) : ClientOptions where
  serviceName := serviceName
  endpointPrefix := endpointPrefix
  metadata := metadata
  endpoint := endpoint
  region := region
  switches := switches
  regionProvider := .standard
  codeField := none

end ServiceClient.Kms
