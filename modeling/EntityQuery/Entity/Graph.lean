import EntityQuery.Entity.Catalog
/-!
# Entity graphs

The graph of a root entity lists the root and every entity reachable from it, depth first in
relationship order, each once. A relationship of a listed entity points at a position of the
list.
-/

set_option autoImplicit false

namespace EntityQuery.Catalog

variable {K : Type} [DecidableEq K]

/-- The descriptors of the graph of a root, root first. -/
def graph (c : Catalog K) (root : Descriptor K) : List (Descriptor K) :=
  (c.reachable root.key).filterMap c.descriptor?

/-- The position in a graph of the entity related through a field. -/
def relatedPosition (graph : List (Descriptor K)) (d : Descriptor K) (fieldName : String) :
    Option Nat :=
  (d.related? fieldName).bind fun k => graph.findIdx? (·.key = k)

/-- The related entities' names by field name, sorted by field name. -/
def relatedNames (c : Catalog K) (d : Descriptor K) : List (String × String) :=
  let named := d.related.filterMap fun p => (c.descriptor? p.2).map fun r => (p.1, r.name)
  named.mergeSort fun a b => decide (a.1 ≤ b.1)

end EntityQuery.Catalog
