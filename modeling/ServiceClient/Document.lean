import ServiceClient.ValueText

/-!
# Documents under construction

A document is written call by call: objects and arrays are opened and closed, fields are named,
values are written. The state holds the open containers, the innermost first, and at most one
pending field name, which the next value takes. A call that is refused leaves the state that
stands in the refusal.

* `Document`: the state.
* `Document.add`: one complete value at the current place.
* `Document.write`: a whole value, its containers included.
* `Document.perform`: any call.
* `Document.finished?`: the root value once every container is closed.
-/

namespace ServiceClient

/-- An open container with its content so far. -/
inductive Frame
  | object (fields : Fields)
  | array (items : List Value)
deriving Repr, Inhabited

/-- The state of a document. -/
structure Document where
  /-- The root value, once it is complete. -/
  root : Option Value
  /-- The open containers, the innermost first, each with the field name that its value will
  take in the container around it. -/
  frames : List (Option Value × Frame)
  /-- The field name that waits for its value. -/
  pending : Option Value
deriving Repr, Inhabited

namespace Document

/-- Why a call is refused. -/
inductive Misuse
  | secondRoot
  | missingName
  | endOfObject
  | endOfArray
  | nameOutside (name : Text)
  /-- A field name outside of an object that cannot be shown, since an integer in it is too
  long. -/
  | longNameOutside
  | incomplete
  /-- A field name of a type that cannot be one. -/
  | unusableName (typeName : String)
deriving DecidableEq, Repr

def Misuse.message : Misuse → String
  | .secondRoot => "Cannot write more than one root value to a document"
  | .missingName => "Cannot write a value to an object without a field name"
  | .endOfObject => "Cannot end an object outside of an object"
  | .endOfArray => "Cannot end an array outside of an array"
  | .nameOutside name => "Cannot write field name '" ++ name.replaced ++ "' outside of an object"
  | .longNameOutside => longIntegerText
  | .incomplete =>
    "Cannot encode an incomplete document, not all objects/arrays have been closed"
  | .unusableName type => "unhashable type: '" ++ type ++ "'"

/-- A refused call, with the state that it leaves. -/
structure Refusal where
  cause : Misuse
  state : Document

abbrev Outcome := Except Refusal Document

/-- The document before the first call. -/
def empty : Document := ⟨none, [], none⟩

/-- The number of open containers. -/
def depth (d : Document) : Nat := d.frames.length

def refuse (cause : Misuse) (d : Document) : Outcome := .error ⟨cause, d⟩

/-- Checks that a value may be written here; gives the field name that it takes, and the state
without that name. -/
def place (d : Document) : Except Refusal (Option Value × Document) :=
  match d.frames with
  | [] => if d.root.isSome then .error ⟨.secondRoot, d⟩ else .ok (none, d)
  | (_, .array _) :: _ => .ok (none, d)
  | (_, .object _) :: _ =>
    match d.pending with
    | none => .error ⟨.missingName, d⟩
    | some name =>
      match name.changeable? with
      | none => .ok (some name, { d with pending := none })
      | some part => .error ⟨.unusableName (part.typeName .memory), d⟩

/-- Puts a value with its field name into the innermost container. -/
def attach (name : Option Value) (v : Value) (d : Document) : Document :=
  match d.frames with
  | [] => { d with root := some v }
  | (outer, .array items) :: rest => { d with frames := (outer, .array (items ++ [v])) :: rest }
  | (outer, .object fields) :: rest =>
    { d with frames := (outer, .object (Fields.put (name.getD .null) v fields)) :: rest }

/-- Writes one complete value. -/
def add (v : Value) (d : Document) : Outcome := do
  let (name, d) ← d.place
  return d.attach name v

def startObject (d : Document) : Outcome := do
  let (name, d) ← d.place
  return { d with frames := (name, .object []) :: d.frames }

def startArray (d : Document) : Outcome := do
  let (name, d) ← d.place
  return { d with frames := (name, .array []) :: d.frames }

def endObject (d : Document) : Outcome :=
  match d.frames with
  | (name, .object fields) :: rest => .ok ({ d with frames := rest }.attach name (.map fields))
  | _ => d.refuse .endOfObject

def endArray (d : Document) : Outcome :=
  match d.frames with
  | (name, .array items) :: rest => .ok ({ d with frames := rest }.attach name (.list items))
  | _ => d.refuse .endOfArray

/-- Names the next field. Null takes a pending name away. -/
def fieldName (name : Value) (d : Document) : Outcome :=
  match d.frames with
  | (_, .object _) :: _ =>
    .ok { d with pending := match name with
      | .null => none
      | name => some name }
  | _ => d.refuse (name.display?.elim .longNameOutside .nameOutside)

mutual

/-- Writes a whole value: maps become objects without their null fields, lists and tuples
become arrays, and all else is converted and written as it is. -/
def write (convert : Value → Value) : Value → Document → Outcome
  | .map fields, d => do
    let d ← d.startObject
    let d ← writeFields convert fields d
    d.endObject
  | .list items, d => do
    let d ← d.startArray
    let d ← writeItems convert items d
    d.endArray
  | .tuple items, d => do
    let d ← d.startArray
    let d ← writeItems convert items d
    d.endArray
  | .null, d => d.add .null
  | v, d => d.add (convert v)

def writeItems (convert : Value → Value) : List Value → Document → Outcome
  | [], d => .ok d
  | v :: rest, d => do
    let d ← write convert v d
    writeItems convert rest d

def writeFields (convert : Value → Value) : List (Value × Value) → Document → Outcome
  | [], d => .ok d
  | (_, .null) :: rest, d => writeFields convert rest d
  | (k, v) :: rest, d => do
    let d ← d.fieldName k
    let d ← write convert v d
    writeFields convert rest d

end

/-- The root value, if every container is closed. -/
def finished? (d : Document) : Except Misuse (Option Value) :=
  if d.frames.isEmpty then .ok d.root else .error .incomplete

/-- The calls that write a document. -/
inductive Call
  | startObject
  | endObject
  | startArray
  | endArray
  | fieldName (name : Value)
  | value (v : Value)
deriving Repr

/-- Performs one call. -/
def perform (d : Document) (convert : Value → Value) (call : Call) : Outcome :=
  match call with
  | .startObject => d.startObject
  | .endObject => d.endObject
  | .startArray => d.startArray
  | .endArray => d.endArray
  | .fieldName name => d.fieldName name
  | .value v => d.write convert v

end Document

end ServiceClient
