import ServiceClient.Value

/-!
# Objects of the Ion reader

The reader of both Ion forms hands values over in types of its own: its containers are no plain
lists and maps, and its nulls, which have a type, are not the plain null.

* `Ion.Object`: a value as the reader hands it over.
* `Ion.Object.plain`: the plain value that it stands for.
-/

namespace ServiceClient.Ion

/-- A value as the reader hands it over. -/
inductive Object
  | null
  | list (items : List Object)
  | struct (fields : List (Value × Object))
  | scalar (v : Value)

namespace Object

mutual

/-- A value that was read, in the types of the reader. -/
def ofValue : Value → Object
  | .null => null
  | .list items => list (ofItems items)
  | .map fields => struct (ofFields fields)
  | v => scalar v

def ofItems : List Value → List Object
  | [] => []
  | v :: rest => ofValue v :: ofItems rest

def ofFields : List (Value × Value) → List (Value × Object)
  | [] => []
  | (k, v) :: rest => (k, ofValue v) :: ofFields rest

end

mutual

/-- The plain value that an object stands for, to any depth. -/
def plain : Object → Value
  | null => .null
  | list items => .list (plainItems items)
  | struct fields => .map (Fields.ofPairs (plainFields fields))
  | scalar v => v

def plainItems : List Object → List Value
  | [] => []
  | x :: rest => plain x :: plainItems rest

def plainFields : List (Value × Object) → List (Value × Value)
  | [] => []
  | (k, x) :: rest => (k, plain x) :: plainFields rest

end

end Object

end ServiceClient.Ion
