import ServiceClient.Encoding
import ServiceClient.Http.Headers
import ServiceClient.Http.Query

/-!
# Forms

A body that is given by its fields is a form. It is written like a query string, or in parts
between boundaries if a field is a file or the content type says so. How parts are written and
where files come from is left to a library: `Multipart` is what a request needs of it.

* `Form.entries`: the fields of a form with a list taken apart.
* `Form.encode`: entries like a query string.
* `Multipart`: the writer of a form in parts, with the boundary that it draws.
* `Form.write`: the body of a form, and the headers that it adds.
-/

namespace ServiceClient

/-- The writer of a form in parts, for one request. Nothing is known of its bodies but that a
form without entries has one, and nothing of its failures but their texts. -/
structure Multipart where
  /-- What stands between the parts. It is drawn by chance for each request. -/
  boundary : String
  /-- Takes the file that an entry stands for. -/
  attach : Value × Value → Except String Unit
  /-- The body of entries. -/
  body : List (Value × Value) → Except String Bytes
  /-- The body without entries. -/
  emptyBody : Bytes
  body_nil : body [] = .ok emptyBody

namespace Form

/-- The media type of forms that are written like query strings. -/
def urlType : String := "application/x-www-form-urlencoded"

/-- The media type of forms in parts. -/
def partsType : String := "multipart/form-data"

/-- The media type of a content type, without parameters. -/
def mediaTypeOf (contentType : Text) : String :=
  trim (String.ofList (contentType.replaced.toList.takeWhile (· != ';')))

/-- The entries of a form: a list has one for each item. -/
def entries (fields : Fields) : List (Value × Value) :=
  fields.flatMap fun (k, v) =>
    match v with
    | .list xs => xs.map fun x => (k, x)
    | v => [(k, v)]

/-- Whether an entry is a file, given by its name and type or by its properties. -/
def isFile (entry : Value × Value) : Bool :=
  match entry.2 with
  | .tuple _ | .map _ => true
  | _ => false

def isNull (entry : Value × Value) : Bool :=
  match entry.2 with
  | .null => true
  | _ => false

def safe (c : Char) : Bool := "!$'()*,/:;?@".toList.contains c

/-- A name or value of an entry: a blank becomes `+`. -/
def component (v : Value) : Except Failure (List Char) := do
  let bytes ← match v with
    | .bytes .fixed s => pure s
    | v => utf8Of (← v.displayed)
  return bytes.flatMap fun b => if b = 32 then ['+'] else Percent.encodeByte safe b

/-- The names and values of entries with `=` between them. -/
def pairs : List (Value × Value) → Except Failure (List String)
  | [] => .ok []
  | (k, v) :: rest => do
    let name ← component k
    let value ← component v
    return String.ofList (name ++ '=' :: value) :: (← pairs rest)

/-- Entries like a query string. Null has no entry. -/
def encode (entries : List (Value × Value)) : Except Failure Bytes := do
  return Utf8.encode ("&".intercalate (← pairs (entries.filter fun e => !isNull e)))

/-- Takes the files of entries. -/
def attachAll (parts : Multipart) : List (Value × Value) → Except Failure Unit
  | [] => .ok ()
  | e :: rest => do
    (parts.attach e).mapError .formPart
    attachAll parts rest

/-- The media type of a form under headers: that of the content type if there is one. -/
def mediaType (entries : List (Value × Value)) (headers : Headers) : String :=
  match headers.get? "content-type" with
  | some type => mediaTypeOf type
  | none =>
    if entries.any isFile then partsType else if entries.isEmpty then "" else urlType

/-- The headers with a content length, unless there is one. -/
def withLength (length : Nat) (headers : Headers) : Headers :=
  if headers.contains "content-length" then headers
  else headers ++ ([("content-length", toString length)] : Headers)

/-- The headers with a content type, unless there is one. -/
def withType (type : String) (headers : Headers) : Headers :=
  if headers.contains "content-type" then headers
  else headers ++ ([("content-type", type)] : Headers)

/-- The body of a form, and the headers with its length and its type unless they are there. With
another content type nothing is sent. -/
def write (parts : Multipart) (entries : List (Value × Value)) (headers : Headers) :
    Except Failure (Bytes × Headers) := do
  attachAll parts (entries.filter isFile)
  let fields := entries.filter fun e => !isFile e
  let type := mediaType entries headers
  if type = partsType then
    let bytes ← (parts.body (fields ++ entries.filter isFile)).mapError .formPart
    let written := partsType ++ "; boundary=\"" ++ parts.boundary ++ "\""
    return (bytes, withType written (withLength bytes.length headers))
  else if type = urlType then
    let bytes ← encode fields
    return (bytes, withType urlType (withLength bytes.length headers))
  else return ([], headers)

end Form

namespace Multipart

/-- The part of an entry that is no file. -/
def fieldPart (boundary : String) (entry : Value × Value) : Except Failure Bytes := do
  let name ← utf8Of (← entry.1.displayed)
  let value ← utf8Of (← entry.2.displayed)
  return Utf8.encode ("\r\n--" ++ boundary ++ "\r\nContent-Disposition: form-data; name=\"") ++
    name ++ Utf8.encode "\"\r\n\r\n" ++ value

/-- A writer for forms without files. -/
def withoutFiles (boundary : String) : Multipart where
  boundary := boundary
  attach _ := .error "no files"
  body entries := do
    let parts ← (entries.mapM (fieldPart boundary)).mapError Failure.message
    return parts.flatten ++ Utf8.encode ("\r\n--" ++ boundary ++ "--\r\n")
  emptyBody := Utf8.encode ("\r\n--" ++ boundary ++ "--\r\n")
  body_nil := rfl

end Multipart

end ServiceClient
