import ServiceClient.Http.Form

/-!
# Requests

An HTTP request with its path both decoded and as it was written. A body is bytes, text or the
fields of a form; an empty one is the form without fields, of which something is sent under the
content type of a form.

* `Request.make`: a request from its parts.
* `Request.host`: the host that the request goes to.
* `Request.rawPath`, `Request.rawBaseUrl`: path and URL with the escapes as written.
-/

namespace ServiceClient

/-- An HTTP request. -/
structure Request where
  /-- The method in upper case. -/
  method : String
  scheme : String
  serverName : String
  serverPort : Nat
  /-- The decoded path. -/
  path : String
  /-- Path and query string as they were written. -/
  rawUri : String
  /-- The decoded parameters of the query string, those of a name together. -/
  args : List (String × String)
  headers : Headers
  /-- The body; one that is announced in chunks is not read. -/
  body : Bytes
deriving Repr, Inhabited

/-- What a request is made from. -/
structure RequestParts where
  method : String
  path : String
  headers : Headers
  /-- The body: text, bytes, or the fields of a form. -/
  body : Value
  scheme : String
  query : String
  host : String
  port : Option Nat
  /-- The path to keep as the written one, if it is not empty. -/
  rawPath : String

namespace Request

/-- The bytes of a body, and the headers that it adds: a content length unless there is one,
and the type of a form. A falsy body is a form without entries, which is written in parts if the
headers say so, and fields are a form; of the other bodies only bytes are taken. -/
def bodyOf (parts : Multipart) (body : Value) (headers : Headers) :
    Except Failure (Bytes × Headers) :=
  if body.isFalsy then Form.write parts [] headers
  else
    match body with
    | .bytes .fixed s => .ok (s, Form.withLength s.length headers)
    | .map fields => Form.write parts (Form.entries fields) headers
    | v => .error (.attribute (v.typeName .memory) "items")

/-- Whether the headers announce a body in chunks, whose end is not known. A name may have
underscores for its hyphens. -/
def isChunked (headers : Headers) : Bool :=
  let named (e : Text × Text) : Bool :=
    (upperChars e.1.replaced.toList).map (fun c => if c = '-' then '_' else c) ==
      "TRANSFER_ENCODING".toList
  Text.intercalate ", " ((headers.filter named).map (·.2)) == ("chunked" : Text)

/-- The text without slashes at its front. -/
def dropSlashes (s : String) : String := String.ofList (s.toList.dropWhile (· == '/'))

/-- Host and port of an authority. -/
def serverOf (scheme authority : String) : String × Nat :=
  let default : Nat := if scheme = "https" then 443 else 80
  let (name, port) := splitFirst (· = ':') authority.toList
  let port := match port with
    | some digits =>
      if !digits.isEmpty && digits.all Char.isDigit then Nat.ofDigitChars 10 digits 0 else default
    | none => default
  (String.ofList name, port)

/-- A request from its parts. -/
def make (p : RequestParts) (parts : Multipart) : Except Failure Request := do
  let headers ← p.headers.check
  let data ← toBytes .utf8 .refuse p.body
  if p.path.toList.contains '?' then throw (.url .queryTwice)
  let target ← Url.parse p.path
  let path ← Url.normalize target.path
  let port := match p.port with
    | some n => if n = 0 then "" else ":" ++ toString n
    | none => ""
  let base ← Url.parse (← Url.normalize (p.scheme ++ "://" ++ p.host ++ port))
  if base.query ≠ "" ∨ base.fragment ≠ "" then throw (.url .baseQuery)
  let (body, headers) ← bodyOf parts data headers
  let (name, port) := serverOf base.scheme base.authority
  let written := if p.rawPath = "" then p.path else p.rawPath
  return {
    method := upper p.method
    scheme := base.scheme
    serverName := name
    serverPort := port
    path := "/" ++ dropSlashes (Utf8.decodeLossy (Percent.decodeBytes path.toList))
    rawUri := if p.query = "" then written else written ++ "?" ++ p.query
    args := Query.grouped (Query.parse p.query)
    headers := headers
    body := if isChunked headers then [] else body }

/-- Whether a text is a host with an optional port. -/
def isHost (s : String) : Bool :=
  let isPort (s : List Char) : Bool := match s with
    | [] => true
    | ':' :: digits => !digits.isEmpty && digits.all Char.isDigit
    | _ => false
  match s.toList with
  | '[' :: rest =>
    match splitFirst (· = ']') rest with
    | (address, some port) =>
      !address.isEmpty && address.all (fun c => (hexValue? c).isSome || c = ':' || c = '.') &&
        isPort port
    | _ => false
  | chars =>
    let isNameChar (c : Char) : Bool := c.isAlphanum || c = '.' || c = '-'
    let name := chars.takeWhile isNameChar
    !name.isEmpty && isPort (chars.dropWhile isNameChar)

/-- A text without a given end. -/
def dropEnd (tail s : String) : String :=
  if tail.toList.isSuffixOf s.toList then String.ofList (s.toList.take (s.length - tail.length))
  else s

/-- The host header if there is one, else the server and its port; the port that the scheme
implies is left out. Empty if the result is no host. -/
def host (r : Request) : String :=
  let host := ((r.headers.get? "host").map Text.replaced).getD
    (r.serverName ++ ":" ++ toString r.serverPort)
  let host :=
    if r.scheme = "http" ∨ r.scheme = "ws" then dropEnd ":80" host
    else if r.scheme = "https" ∨ r.scheme = "wss" then dropEnd ":443" host
    else host
  if isHost host then host else ""

/-- The path as it was written. -/
def rawPath (r : Request) : Except Failure String := do
  let u ← Url.parse r.rawUri
  return u.pathOnly

/-- The URL without its query string, as it was written. -/
def rawBaseUrl (r : Request) : Except Failure String := do
  return r.scheme ++ "://" ++ r.host ++ (← r.rawPath)

end Request

end ServiceClient
