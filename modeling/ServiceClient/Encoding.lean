import ServiceClient.Cbor.Read
import ServiceClient.Failure
import ServiceClient.Ion.Object
import ServiceClient.Ion.ReadText

/-!
# Wire encodings

A client writes and reads bodies in one of four encodings. They differ in how they hold binary
data and timestamps: JSON has base 64 and seconds, CBOR byte strings and milliseconds, Ion both
natively.

* `Encoding.select`: the encoding that a service and the switches of a client lead to.
* `Encoding.convert`: a scalar as the encoding holds it.
* `Encoding.encode`, `Encoding.parse`: between documents and bodies.
* `Encoding.decodeBlob`, `Encoding.decodeTimestamp`: reading members of a parsed body.
-/

namespace ServiceClient

/-- A wire encoding. -/
inductive Encoding
  | json
  | cbor
  | ionText
  | ionBinary
deriving DecidableEq, Repr, Inhabited

namespace Encoding

def name : Encoding → String
  | json => "json"
  | cbor => "cbor"
  | ionText => "ion-text"
  | ionBinary => "ion-binary"

/-- The encoding of a name. -/
def ofName (name : String) : Except Failure Encoding :=
  match name with
  | "json" => .ok json
  | "cbor" => .ok cbor
  | "ion-text" => .ok ionText
  | "ion-binary" => .ok ionBinary
  | other => .error (.unsupportedEncoding other)

/-- CBOR if the service knows it and it is not disabled, else Ion if the service knows it, in
binary unless that is disabled, else JSON. -/
def select (supportsCbor cborDisabled supportsIon ionBinaryDisabled : Bool) : Encoding :=
  if supportsCbor && !cborDisabled then cbor
  else if supportsIon then (if ionBinaryDisabled then ionText else ionBinary)
  else json

/-- What the content type of bodies starts with; the protocol version completes it. -/
def mediaType : Encoding → String
  | json => "application/x-amz-json-"
  | cbor => "application/x-amz-cbor-"
  | ionText => "text/x-amz-ion-"
  | ionBinary => "application/x-amz-ion-"

/-- A scalar as the encoding holds it. -/
def convert (encoding : Encoding) (v : Value) : Value :=
  match encoding, v with
  | json, .bytes _ s => .text (Base64.encode s)
  | json, .timestamp t => .double t.epochSeconds
  | json, .decimal d => .double d.toDouble
  | cbor, .timestamp t => .int t.milliseconds
  | ionText, .timestamp t | ionBinary, .timestamp t => .timestamp t.aware
  | _, .bytes _ s => .blob s
  | _, v => v

/-- An optional result of the codecs. -/
def codecResult (r : Option α) : Except Failure α :=
  match r with
  | some x => .ok x
  | none => .error .codec

/-- The body of a finished document. -/
def encode (encoding : Encoding) (v : Value) : Except Failure Bytes :=
  match encoding with
  | json => do
    let chars ← (Json.print Json.compact v).mapError .jsonValue
    return Utf8.encodeChars chars
  | cbor => codecResult (Cbor.write v)
  | ionText => do
    let text ← codecResult (Ion.writeText v)
    return Utf8.encode text
  | ionBinary => codecResult (Ion.writeBinary v)

/-- The only value of a stream; null for an empty one. -/
def single (values : List Value) : Except Failure Value :=
  match values with
  | [] => .ok .null
  | [v] => .ok v
  | _ => .error .codec

/-- The value of an Ion body, in either form whichever one the client writes. -/
def readIon (body : Bytes) : Except Failure Value := do
  if Ion.versionMarker.isPrefixOf body then
    single (← codecResult (Ion.readBinary body))
  else
    match Utf8.decode body with
    | .error _ => .error .codec
    | .ok text => single (← codecResult (Ion.readText text))

/-- The document of an Ion body, without the types of the reader. -/
def parseIon (body : Bytes) : Except Failure Value := do
  return (Ion.Object.ofValue (← readIon body)).plain

/-- The document of a body. -/
def parse (encoding : Encoding) (body : Bytes) : Except Failure Value :=
  match encoding with
  | json => do
    let text ← (Utf8.decode body).mapError .decoding
    (Json.read text).mapError .json
  | cbor => codecResult (Cbor.read body)
  | ionText | ionBinary => parseIon body

/-- Where the values of a parsed body come from. -/
def origin : Encoding → Value.Origin
  | json | cbor => .memory
  | ionText | ionBinary => .ion

end Encoding

/-- The text of a byte string, and any other value as it is. -/
def toText (charset : Charset) (policy : OnInvalid) (v : Value) : Except Failure Value :=
  match v with
  | .bytes .view _ => .ok v
  | .bytes _ s => ((charset.decode policy s).map .text).mapError .decoding
  | v => .ok v

/-- The bytes of a text, and any other value as it is. -/
def toBytes (charset : Charset) (policy : OnInvalid) (v : Value) : Except Failure Value :=
  match v.text? with
  | some t => ((charset.encode policy t).map .blob).mapError .encoding
  | none => .ok v

/-- The base 64 text of a text or byte string. -/
def base64Encode (v : Value) : Except Failure String :=
  match v with
  | .text s => .ok (Base64.encode (Utf8.encode s))
  | .loose t => (utf8Of t.text).map Base64.encode
  | .bytes _ s => .ok (Base64.encode s)
  | v => .error (.operand (.notBytes (v.typeName .memory)))

/-- The number of items of a value that has items. -/
def length? : Value → Option Nat
  | .text s => some s.length
  | .loose t => some t.text.length
  | .bytes _ s => some s.length
  | .list xs | .tuple xs | .set xs => some xs.length
  | .map fs => some fs.length
  | _ => none

/-- The bytes of base 64 text, given as text or as bytes. -/
def base64Decode (origin : Value.Origin) (v : Value) : Except Failure Bytes := do
  let v ← toText .utf8 .refuse v
  let type := v.typeName origin
  match v with
  | .text s => (Base64.decodeText s.toList).mapError .base64
  | .loose _ => .error (.base64 .notAscii)
  | v =>
    match length? v with
    | none => .error (.operand (.noLength type))
    | some n =>
      if n % 4 = 0 then
        match v with
        | .bytes _ s =>
          (Base64.decodeFrom .start 0 (s.map fun b => Char.ofNat b.toNat)).mapError .base64
        | _ => .error (.operand (.notEncodedText type))
      else
        match v with
        | .list _ | .tuple _ => .error (.operand (.noPadding type))
        | _ => .error (.operand (.unsupported "+" type "str"))

/-- The bytes that the items of a container are. -/
def bytesOfItems (origin : Value.Origin) : List Value → Except Failure Bytes
  | [] => .ok []
  | x :: xs =>
    let n? : Option Int := match x with
      | .int n => some n
      | .bool b => some (if b then 1 else 0)
      | _ => none
    match n? with
    | none => .error (.operand (.notInteger (x.typeName origin)))
    | some n =>
      if n < 0 ∨ 255 < n then .error .byteRange
      else do return UInt8.ofNat n.toNat :: (← bytesOfItems origin xs)

/-- The largest count that an address can reach. -/
def maxCount : Int := 2 ^ 63 - 1

/-- A value as bytes: a byte string as it is, a number as that many zero bytes, a container as
the bytes that its items are. -/
def bytesOf (origin : Value.Origin) (v : Value) : Except Failure Bytes :=
  let zeros (n : Int) : Except Failure Bytes :=
    if n < -maxCount - 1 ∨ maxCount < n then .error .hugeCount
    else if n < 0 then .error .negativeCount
    else .ok (List.replicate n.toNat 0)
  match v with
  | .bytes _ s => .ok s
  | .bool b => zeros (if b then 1 else 0)
  | .int n => zeros n
  | .list xs | .tuple xs | .set xs => bytesOfItems origin xs
  | .map fs => bytesOfItems origin (fs.map (·.1))
  | .text _ | .loose _ => .error (.operand .textWithoutCharset)
  | v => .error (.operand (.notConvertible (v.typeName origin)))

namespace Encoding

/-- The bytes of a member of a body; null stays null. -/
def decodeBlob (encoding : Encoding) (origin : Value.Origin) (v : Value) :
    Except Failure Value :=
  match encoding, v with
  | _, .null => .ok .null
  | json, v => (base64Decode origin v).map .blob
  | _, v => (bytesOf origin v).map .blob

/-- The timestamp of a member of a body; null and timestamps stay as they are. -/
def decodeTimestamp (encoding : Encoding) (origin : Value.Origin) (v : Value) :
    Except Failure Value :=
  let seconds := (Timestamp.ofSeconds origin v).mapError .timestamp
  match encoding, v with
  | _, .null => .ok .null
  | _, .timestamp t => .ok (.timestamp t)
  | cbor, v =>
    match Timestamp.ofMilliseconds? v with
    | some r => (r.mapError .timestamp).map .timestamp
    | none => seconds.map .timestamp
  | _, _ => seconds.map .timestamp

end Encoding

end ServiceClient
