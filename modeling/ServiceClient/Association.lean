/-!
# Ordered associations

Pairs of a key and a value in the order in which the keys first came.

* `Association.put`: a key that is there keeps its place and gets the new value.
* `List.lookup`, of the library, reads one back: `Association.lookup_put`.
-/

namespace ServiceClient.Association

variable {κ α : Type} [DecidableEq κ]

/-- Writes a pair: a key that is there keeps its place, a new one goes last. -/
def put (key : κ) (value : α) : List (κ × α) → List (κ × α)
  | [] => [(key, value)]
  | (k, v) :: rest => if k = key then (k, value) :: rest else (k, v) :: put key value rest

/-- Drops a key. -/
def erase (key : κ) (pairs : List (κ × α)) : List (κ × α) :=
  pairs.filter fun p => p.1 ≠ key

/-- The keys, each with its last value, in the order of their first pairs. -/
def ofPairs (pairs : List (κ × α)) : List (κ × α) :=
  pairs.foldl (fun found p => put p.1 p.2 found) []

/-- A pair that is written is read back, and no other key changes. -/
theorem lookup_put (key other : κ) (value : α) (pairs : List (κ × α)) :
    (put key value pairs).lookup other =
      if other = key then some value else pairs.lookup other := by
  induction pairs with
  | nil => grind [put]
  | cons p rest ih => grind [put]

end ServiceClient.Association
