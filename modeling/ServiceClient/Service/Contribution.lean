import ServiceClient.Encoding
import ServiceClient.Json.Print
import ServiceClient.Service.Operation
import ServiceClient.Text.Percent

/-!
# What a member contributes to a request

A bound member becomes a series of parts: calls to the writer of the body, the body itself,
headers, query parameters, path parameters. The parts depend on the value and its binding alone.

* `memberText`: a value in a header, a query string or a path.
* `Binding.contribution`: the parts of a member.
-/

namespace ServiceClient

/-- One part of a request. -/
inductive Part
  /-- A call to the writer of the body. -/
  | call (c : Document.Call)
  /-- The whole body, past the writer. -/
  | body (v : Value)
  | header (name value : Text)
  | query (name : Value) (value : Text)
  | path (name value : String)
deriving Repr, Inhabited

/-- The parts of a member in order, and the failure after them if there is one. -/
structure Contribution where
  parts : List Part
  failure : Option Failure
deriving Repr

namespace Contribution

/-- No part. -/
def none : Contribution := ⟨[], .none⟩

/-- Exactly one part. -/
def one (p : Part) : Contribution := ⟨[p], .none⟩

/-- No part, but a failure. -/
def fail (f : Failure) : Contribution := ⟨[], some f⟩

/-- The second contribution after the first, unless the first fails. -/
def append (a b : Contribution) : Contribution :=
  match a.failure with
  | .none => ⟨a.parts ++ b.parts, b.failure⟩
  | some _ => a

/-- The contributions of items in order. -/
def concat : List Contribution → Contribution
  | [] => none
  | c :: rest => c.append (concat rest)

/-- One part, or the failure to make it. -/
def ofExcept (p : Except Failure Part) : Contribution :=
  match p with
  | .ok p => one p
  | .error f => fail f

end Contribution

/-- The formats of timestamps in text. -/
inductive TimestampFormat
  | iso8601
  | rfc822
  | unixTimestamp
deriving DecidableEq, Repr, Inhabited

namespace TimestampFormat

/-- The format of a name; unknown names stand for ISO 8601. -/
def ofName (name : String) : TimestampFormat :=
  match name with
  | "rfc822" => rfc822
  | "unixTimestamp" => unixTimestamp
  | _ => iso8601

/-- The text of a timestamp on the clock of UTC. -/
def text (format : TimestampFormat) (t : Timestamp) : String :=
  match format with
  | iso8601 => t.milliText
  | rfc822 => t.httpText
  | unixTimestamp => t.epochSeconds.text

end TimestampFormat

/-- The format of a binding's timestamps, in a location with a format of its own. -/
def Binding.timestampFormat (b : Binding) (default : TimestampFormat) : TimestampFormat :=
  match b.format with
  | none | some "" => default
  | some name => .ofName name

/-- A value in a header, a query string or a path. -/
def memberText (format : TimestampFormat) (v : Value) : Except Failure Text :=
  match v with
  | .bool b => .ok (if b then "true" else "false" : String)
  | .timestamp t =>
    let utc := t.toUtc
    if utc.inRange then .ok (format.text utc) else .error (.timestamp .outOfRange)
  | .bytes .fixed s | .bytes .array s => .ok (Base64.encode s)
  | v => v.displayed

/-- The items of a value that has items: the code points of a text, the numbers of a byte string,
the keys of a map. -/
def itemsOf (v : Value) : Except Failure (List Value) :=
  match v with
  | .list xs | .tuple xs | .set xs => .ok xs
  | .map fs => .ok (fs.map (·.1))
  | .text s => .ok (s.toList.map fun c => .text (String.singleton c))
  | .loose t => .ok (t.text.points.map fun p => .ofText ⟨[p]⟩)
  | .bytes _ s => .ok (s.map fun b => .int b.toNat)
  | v => .error (.operand (.notIterable (v.typeName .memory)))

/-- The fields of a map. -/
def fieldsOf (v : Value) : Except Failure Fields :=
  match v with
  | .map fs => .ok fs
  | v => .error (.attribute (v.typeName .memory) "items")

/-- The texts of items. -/
def memberTexts (format : TimestampFormat) : List Value → Except Failure (List Text)
  | [] => .ok []
  | v :: rest => do
    let text ← memberText format v
    return text :: (← memberTexts format rest)

/-- The text of a document in a header: base 64 of its JSON text. -/
def documentText (v : Value) : Except Failure String :=
  match v with
  | .text s => .ok (Base64.encode (Utf8.encode s))
  | .loose t => (utf8Of t.text).map Base64.encode
  | v => do
    let chars ← (Json.print Json.spaced v).mapError .jsonValue
    return Base64.encode (Utf8.encodeChars chars)

namespace Binding

/-- A member that is the whole body: bytes and text go past the writer. -/
def bodyContribution (b : Binding) (v : Value) : Contribution :=
  match b.type with
  | .blob => .ofExcept do return .body (.blob (← bytesOf .memory v))
  | .string => .ofExcept do return .body (← toBytes .utf8 .refuse v)
  | _ => .one (.call (.value v))

/-- A field of the body. A document that is given as text is written as what it says. -/
def payloadContribution (b : Binding) (v : Value) : Contribution :=
  let name : Contribution := .one (.call (.fieldName (.text b.name)))
  let value : Except Failure Value :=
    match b.type, v.text? with
    | .jsonValue, some document => (Json.read document).mapError .json
    | _, _ => .ok v
  name.append (.ofExcept do return .call (.value (← value)))

/-- A header, or a header for each field of a map. -/
def headerContribution (b : Binding) (v : Value) : Contribution :=
  let format := b.timestampFormat .rfc822
  let header (name : Except Failure Text) (text : Except Failure Text) : Contribution :=
    .ofExcept do
      let value ← text
      return .header (← name) value
  match b.type with
  | .jsonValue => header (.ok b.name) ((documentText v).map Text.ofString)
  | .map =>
    match fieldsOf v with
    | .error f => .fail f
    | .ok fields =>
      .concat (fields.map fun (k, v) =>
        header (k.displayed.map fun key => b.name ++ key) (memberText format v))
  | .list => header (.ok b.name) do
    return .intercalate "," (← memberTexts format (← itemsOf v))
  | _ => header (.ok b.name) (memberText format v)

/-- Query parameters: one for each item of a list, and for each field of a map or each item of
the field. -/
def queryContribution (b : Binding) (v : Value) : Contribution :=
  let format := b.timestampFormat .iso8601
  let parameter (name : Value) (v : Value) : Contribution :=
    .ofExcept do return .query name (← memberText format v)
  match b.type with
  | .map =>
    match fieldsOf v with
    | .error f => .fail f
    | .ok fields => .concat (fields.map fun (k, v) =>
        match v with
        | .list xs | .tuple xs => .concat (xs.map (parameter k))
        | v => parameter k v)
  | .list =>
    match itemsOf v with
    | .error f => .fail f
    | .ok xs => .concat (xs.map (parameter (.text b.name)))
  | _ => parameter (.text b.name) v

/-- The characters besides the unreserved ones that a path parameter keeps. -/
def keepsInPath (greedy : Bool) (c : Char) : Bool := greedy && c = '/'

/-- A parameter of the path, which cannot be empty and must have a form in UTF-8. -/
def pathContribution (b : Binding) (greedy : Bool) (v : Value) : Contribution :=
  .ofExcept do
    let text ← memberText (b.timestampFormat .iso8601) v
    if text.isEmpty then throw (.emptyPathParameter b.name)
    return .path b.name (String.ofList (Percent.encodeBytes (keepsInPath greedy) (← utf8Of text)))

/-- The parts of a member that is set. -/
def contribution (b : Binding) (v : Value) : Contribution :=
  match b.location with
  | .payload => b.payloadContribution v
  | .header => b.headerContribution v
  | .query => b.queryContribution v
  | .path => b.pathContribution false v
  | .greedyPath => b.pathContribution true v
  | .unknown name => .fail (.unsupportedLocation name)

end Binding

end ServiceClient
