import ServiceClient.Failure
import ServiceClient.Log
import ServiceClient.Service.ServiceError

/-!
# Error readers

An error response is read by the first reader that is bound to its error code. The last reader
of a service is bound to no code and reads every error.

* `errorCode`, `errorMessage`: what a response says about its error.
* `ErrorReader`: makes an error out of the fields of a body.
* `ErrorReader.ofShapes`: the readers of a service.
* `ErrorReader.find?`: the reader of a code.
-/

namespace ServiceClient

/-- The part of a text before the first of a character. -/
def before (mark : Char) (t : Text) : Text := ⟨t.points.takeWhile (· != .char mark)⟩

/-- The part of a text after the last of a character; all of it if there is none. -/
def afterLast (mark : Char) (t : Text) : Text :=
  ⟨(t.points.reverse.takeWhile (· != .char mark)).reverse⟩

/-- A header that is there and not empty. -/
def filledHeader? (name : Text) (h : Headers) : Option Text :=
  (h.get? name).filter fun v => !v.isEmpty

/-- A field that is there and not null. -/
def filledField? (name : String) (fields : Fields) : Option Value :=
  match Fields.get? (.text name) fields with
  | some .null | none => none
  | some v => some v

/-- The field that holds the error code unless a service names another one. -/
def codeField : String := "__type"

/-- The fields that can hold the message of an error, in the order in which they count. -/
def messageFields : List String := ["message", "Message", "errorMessage"]

/-- The text of a value that is there. -/
def displayedOf (v : Option Value) : Except Failure (Option Text) :=
  match v with
  | some v => v.displayed.map some
  | none => .ok none

/-- The error code of a response. The header counts first and ends at a colon; a code in the
body starts after its namespace. -/
def errorCode (h : Headers) (fields : Fields) (field : Option String) :
    Except Failure (Option Text) :=
  match filledHeader? "x-amzn-ErrorType" h with
  | some v => .ok (some (before ':' v))
  | none =>
    let field := (field.filter fun f => !f.isEmpty).getD codeField
    (displayedOf (filledField? field fields)).map (Option.map (afterLast '#'))

/-- The message of an error: that of the header, or else that of the body. -/
def errorMessage (h : Headers) (fields : Fields) : Except Failure (Option Text) :=
  match filledHeader? "x-amzn-error-message" h with
  | some v => .ok (some v)
  | none => displayedOf (messageFields.findSome? fun name => filledField? name fields)

/-- Makes an error out of the fields of a body. -/
structure ErrorReader where
  errorClass : ErrorClass
  /-- The code that the reader is bound to; without one it reads every error. -/
  code : Option Text
  /-- The error for the fields of a body and a message. -/
  read : Fields → Option Text → Except Failure ServiceError

namespace ErrorReader

/-- Sets the members of an error that the fields of a body name. A name must be a text; one with a
surrogate names no member, and neither does a byte string. -/
def setMembers : Fields → ServiceError → Except Failure ServiceError
  | [], e => .ok e
  | (k, v) :: rest, e =>
    match k with
    | .text name =>
      match e.errorClass.member? name with
      | some m => setMembers rest (e.setMember m v)
      | none => setMembers rest e
    | .loose _ | .bytes .fixed _ | .bytes .array _ => setMembers rest e
    | k => .error (.attribute (k.typeName .memory) "lower")

/-- The reader that sets the message and the modelled members. -/
def standard (c : ErrorClass) (code : Option Text) : ErrorReader where
  errorClass := c
  code := code
  read fields message := setMembers fields (.new c message)

/-- Whether the reader reads errors of a code. -/
def accepts (r : ErrorReader) (code : Option Text) : Bool :=
  r.code.isNone || r.code == code

/-- The reader as log records name it. -/
def label (r : ErrorReader) : String :=
  "JsonErrorUnmarshaller(" ++ r.errorClass.name ++ ", error_code=" ++
    (r.code.map quoteText).getD "None" ++ ")"

/-- The first reader that reads errors of a code. -/
def find? (readers : List ErrorReader) (code : Option Text) : Option ErrorReader :=
  readers.find? fun r => r.accepts code

end ErrorReader

/-- An error that a service models. -/
structure ErrorShape where
  code : Text
  errorClass : Option ErrorClass
  /-- A reader to use instead of the standard one. -/
  custom : Option ErrorReader

namespace ErrorShape

/-- The reader of a shape, if it has one. -/
def reader? (s : ErrorShape) : Option ErrorReader :=
  match s.custom, s.errorClass with
  | some r, _ => some r
  | none, some c => some (.standard c (some s.code))
  | none, none => none

end ErrorShape

namespace ErrorReader

/-- The readers of the shapes that have one, in order, and the reader of all other errors. A
shape without a reader is reported. -/
def ofShapes (shapes : List ErrorShape) (base : ErrorClass) : Logged (List ErrorReader) :=
  match shapes with
  | [] => return [standard base none]
  | s :: rest =>
    match s.reader? with
    | some r => do return r :: (← ofShapes rest base)
    | none => do
      Logged.report (.warning .errors
        ("Error shape " ++ s.code.replaced ++ " has neither an exception type nor an unmarshaller"))
      ofShapes rest base

end ErrorReader

end ServiceClient
