import ServiceClient.Failure
import ServiceClient.Text.Case

/-!
# Headers

An ordered list of headers. Names compare without case and keep their spelling; values hold no
line breaks. Names and values are texts, as a member of a request can set them.

* `Headers.get?`: the value of the first header of a name.
* `Headers.set`: the only header of a name from now on, at the place of the first one.
* `Headers.add`: one more header, at the end.
-/

namespace ServiceClient

/-- Headers in order, each with its name as it is spelled. -/
abbrev Headers := List (Text × Text)

namespace Headers

/-- Whether a text can be the value of a header. -/
def isValue (t : Text) : Bool := !t.points.any fun p => p = .char '\n' || p = .char '\r'

def contains (name : Text) (h : Headers) : Bool := h.any fun e => sameName e.1 name

/-- The value of the first header of a name. -/
def get? (name : Text) (h : Headers) : Option Text :=
  (h.find? fun e => sameName e.1 name).map (·.2)

/-- Drops all headers of a name. -/
def erase (name : Text) (h : Headers) : Headers := h.filter fun e => !sameName e.1 name

/-- Puts a header at the place of the first one of its name, and drops the others. -/
def put (name value : Text) : Headers → Headers
  | [] => [(name, value)]
  | (n, v) :: rest =>
    if sameName n name then (name, value) :: erase name rest else (n, v) :: put name value rest

/-- As `put`, for a value that can be one. -/
def set (name value : Text) (h : Headers) : Except Failure Headers :=
  if isValue value then .ok (h.put name value) else .error .headerLineBreak

/-- Checks the values of headers that come from outside. -/
def check (h : Headers) : Except Failure Headers :=
  if h.all fun e => isValue e.2 then .ok h else .error .headerLineBreak

/-- Each spelling of a name once, at its first place, with the value of the first header that
has the name in any spelling. -/
def spellings (h : Headers) : Headers :=
  let names := h.foldl (fun (seen : List Text) e =>
    if seen.contains e.1 then seen else seen ++ [e.1]) []
  names.map fun name => (name, (get? name h).getD "")

end Headers

end ServiceClient
