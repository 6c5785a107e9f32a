import ServiceClient.Document
import ServiceClient.Http.HostName
import ServiceClient.Json.Print
import ServiceClient.Json.Read
import ServiceClient.Text.Base64
import ServiceClient.Text.Template
import ServiceClient.Time.FromValue

/-!
# Failures

Everything that can go wrong, as a cause with the data that its wording needs. A failure on the
client's side can wrap the failure that it comes from.

* `Failure`: the causes.
* `Failure.message`: the wording, in which a surrogate is shown as its mark.
* `Value.displayed`, `utf8Of`: what can fail about any text.
-/

namespace ServiceClient

/-- A value of the wrong type, by the operation that refused it. -/
inductive OperandFault
  /-- A value without a length. -/
  | noLength (typeName : String)
  /-- A list or tuple that cannot be padded like a text. -/
  | noPadding (typeName : String)
  /-- A value that is neither bytes nor ASCII text. -/
  | notEncodedText (typeName : String)
  /-- A value that is no byte string. -/
  | notBytes (typeName : String)
  /-- A text where bytes were meant. -/
  | textWithoutCharset
  /-- A value that cannot become bytes. -/
  | notConvertible (typeName : String)
  /-- An item that is no integer. -/
  | notInteger (typeName : String)
  | notIterable (typeName : String)
  /-- An operator without a meaning for two types. -/
  | unsupported (operator left right : String)
deriving DecidableEq, Repr

def OperandFault.message : OperandFault → String
  | .noLength t => "object of type '" ++ t ++ "' has no len()"
  | .noPadding t => "can only concatenate " ++ t ++ " (not \"str\") to " ++ t
  | .notEncodedText t =>
    "argument should be a bytes-like object or ASCII string, not '" ++ t ++ "'"
  | .notBytes t => "a bytes-like object is required, not '" ++ t ++ "'"
  | .textWithoutCharset => "string argument without an encoding"
  | .notConvertible t => "cannot convert '" ++ t ++ "' object to bytes"
  | .notInteger t => "'" ++ t ++ "' object cannot be interpreted as an integer"
  | .notIterable t => "'" ++ t ++ "' object is not iterable"
  | .unsupported op l r => "unsupported operand type(s) for " ++ op ++ ": '" ++ l ++ "' and '" ++
      r ++ "'"

/-- What is wrong with a URL or with the parts of a request. -/
inductive UrlFault
  /-- A query in the path beside a query of its own. -/
  | queryTwice
  /-- A port, as it is shown, that is no number. -/
  | portText (shown : String)
  | portRange
  /-- A port with so many digits, too many to be read. -/
  | longPort (digits : Nat)
  | bracketMismatch
  /-- A bracketed host, as it is shown, that is no address. -/
  | address (shown : String)
  /-- An address of version 4 between brackets. -/
  | bracketedIpv4
  /-- A bracketed host that starts like an address of a future version and is none. -/
  | futureAddress
  /-- An authority with a character that stands for one that ends authorities. -/
  | compatibility (authority : String)
  /-- A base URL with a query or a fragment. -/
  | baseQuery
  | label (fault : LabelFault)
deriving DecidableEq, Repr

def UrlFault.message : UrlFault → String
  | .queryTwice => "Query string is defined in the path and as an argument"
  | .portText shown => "Port could not be cast to integer value as " ++ shown
  | .portRange => "Port out of range 0-65535"
  | .longPort digits => longDigitsText digits
  | .bracketMismatch => "Invalid IPv6 URL"
  | .baseQuery => "base url must not contain a query string or fragment"
  | .label fault => fault.message
  | .bracketedIpv4 => "An IPv4 address cannot be in brackets"
  | .futureAddress => "IPvFuture address is invalid"
  | .compatibility authority =>
    "netloc '" ++ authority ++ "' contains invalid characters under NFKC normalization"
  | .address shown => shown ++ " does not appear to be an IPv4 or IPv6 address"

/-- What is wrong with a profile file. -/
inductive ProfileFault
  | noProfile
  | noEqualsSign
  | duplicateProperty (name profile : String)
  | header (line : String)
deriving DecidableEq, Repr

/-- A place in a file. -/
structure Place where
  source : String
  line : Nat
deriving DecidableEq, Repr

def Place.text (p : Place) : String := "(" ++ p.source ++ ":" ++ toString p.line ++ ")"

def ProfileFault.message (place : Place) : ProfileFault → String
  | .noProfile => "Property is defined without a preceding profile name " ++ place.text
  | .noEqualsSign => "Invalid property format, no '=' found " ++ place.text
  | .duplicateProperty name profile =>
    "Duplicate property " ++ quoteText name ++ " in profile " ++ quoteText profile ++ " " ++
      place.text
  | .header line => "Invalid profile name declaration " ++ quoteText line ++ " " ++ place.text

/-- Why an operation cannot be called with as many arguments. -/
inductive ArgumentFault
  | missing (operation name : String)
  /-- More arguments than `most`; the object that is called counts as one. -/
  | surplus (operation : String) (least most given : Nat)
deriving DecidableEq, Repr

def ArgumentFault.message : ArgumentFault → String
  | .missing operation name =>
    operation ++ "() missing 1 required positional argument: '" ++ name ++ "'"
  | .surplus operation least most given =>
    operation ++ "() takes " ++
      (if least = most then "" else "from " ++ toString least ++ " to ") ++ toString most ++
      " positional arguments but " ++ toString given ++ " were given"

/-- Everything that can go wrong. -/
inductive Failure
  /-- A call that a document under construction refuses. -/
  | misuse (m : Document.Misuse)
  /-- A member bound to a place that does not exist. -/
  | unsupportedLocation (name : String)
  | emptyPathParameter (name : String)
  | missingPathParameter (name : String)
  | missingRequest
  /-- A request that cannot be marshalled. -/
  | marshalling (cause : Failure)
  /-- A response that cannot be read, with the start of its body. -/
  | unmarshalling (cause : Failure) (excerpt : String)
  /-- A request that could not be sent. -/
  | transport (reason : String)
  | noRegion
  | blankProfileName (place : Place)
  /-- A failure of the client's own making with a given text. -/
  | reported (text : String)
  /-- A response whose checksum is not that of its body. -/
  | checksum (expected : String) (actual : Nat)
  | unsupportedEncoding (name : String)
  | gatewayProtocol
  | decoding (e : DecodeError)
  | encoding (e : EncodeError)
  | base64 (e : Base64.Error)
  | json (e : Json.Error)
  | jsonValue (e : Json.PrintError)
  /-- A refusal by the CBOR or Ion codec. -/
  | codec
  | operand (fault : OperandFault)
  /-- A value without an attribute. -/
  | attribute (typeName name : String)
  | stringIndex
  | negativeCount
  /-- A count that no address can reach. -/
  | hugeCount
  | byteRange
  | headerLineBreak
  | url (fault : UrlFault)
  | timestamp (fault : TimestampFault)
  | profile (place : Place) (fault : ProfileFault)
  /-- A text that is no number. -/
  | number (shown : String)
  /-- A failure of an error reader that the caller supplied, in its own words. -/
  | reader (text : String)
  /-- Arguments that do not fit a template. -/
  | format (fault : FormatFault)
  /-- Arguments that do not fit an operation. -/
  | arguments (fault : ArgumentFault)
  /-- A value in text with an integer that is too long to be written. -/
  | longInteger
  /-- A failure of the library that writes forms in parts, in its own words. -/
  | formPart (text : String)
deriving Repr

def Failure.message : Failure → String
  | .misuse m => m.message
  | .unsupportedLocation name => "Unsupported marshall location " ++ name
  | .emptyPathParameter name => "Path parameter " ++ name ++ " must not be empty"
  | .missingPathParameter name => "Missing required path parameter " ++ name
  | .missingRequest => "Invalid argument passed to marshall(...)"
  | .marshalling cause => "Unable to marshall request to JSON: " ++ cause.message
  | .unmarshalling cause excerpt =>
    "Unable to unmarshall response (" ++ cause.message ++ "). Response body: " ++ excerpt
  | .transport reason => "Unable to execute HTTP request: " ++ reason
  | .noRegion =>
    "Unable to find a region via the region provider chain. " ++
      "Must provide an explicit region or endpoint."
  | .blankProfileName place => "Profile name must not be blank " ++ place.text
  | .reported text => text
  | .checksum expected actual =>
    "Client calculated crc32 checksum didn't match that calculated by server side (expected " ++
      expected ++ ", got " ++ toString actual ++ ")"
  | .unsupportedEncoding name => "Unsupported protocol variant: " ++ quoteText name
  | .gatewayProtocol =>
    "Detected the API_GATEWAY protocol which should not be used with this protocol factory."
  | .decoding e => e.message
  | .encoding e => e.message
  | .base64 e => e.message
  | .json e => e.message
  | .jsonValue e => e.message
  | .codec => "<cause>"
  | .operand fault => fault.message
  | .attribute type name => "'" ++ type ++ "' object has no attribute '" ++ name ++ "'"
  | .stringIndex => "string index out of range"
  | .negativeCount => "negative count"
  | .hugeCount => "cannot fit 'int' into an index-sized integer"
  | .byteRange => "bytes must be in range(0, 256)"
  | .headerLineBreak => "Header values must not contain newline characters."
  | .url fault => fault.message
  | .timestamp fault => fault.message
  | .profile place fault => fault.message place
  | .number shown => "could not convert string to float: " ++ shown
  | .reader text => text
  | .format fault => fault.message
  | .arguments fault => fault.message
  | .longInteger => longIntegerText
  | .formPart text => text

/-- A text in UTF-8; none for one that is no string. -/
def utf8Of (t : Text) : Except Failure Bytes :=
  (Charset.utf8.encode .refuse t).mapError .encoding

@[simp] theorem utf8Of_ofString (s : String) : utf8Of (Text.ofString s) = .ok (Utf8.encode s) := by
  unfold utf8Of
  rw [Charset.encode_utf8]
  rfl

/-- The texts with bytes in UTF-8 are the strings. -/
theorem utf8Of_eq_ok {t : Text} {bytes : Bytes} :
    utf8Of t = .ok bytes ↔ ∃ s : String, t = s ∧ bytes = Utf8.encode s := by
  rw [← Charset.encode_utf8_eq_ok]
  unfold utf8Of
  cases Charset.utf8.encode .refuse t with
  | error e => exact ⟨fun h => (by cases h), fun h => (by cases h)⟩
  | ok s => exact ⟨fun h => congrArg _ (Except.ok.inj h), fun h => congrArg _ (Except.ok.inj h)⟩

/-- A value by itself, or the failure to write it. -/
def Value.displayed (v : Value) : Except Failure Text :=
  match v.display? with
  | some t => .ok t
  | none => .error .longInteger

end ServiceClient
