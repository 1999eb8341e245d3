import EntityQuery.Entity.Descriptor
/-!
# The published catalog

A catalog binds keys to what is known about them: a descriptor for an entity, `none` for a key
that is known to be no entity. Bindings are only ever added, at the end; a look-up finds the
first binding of a key.

`reachable` lists the keys of the entities reachable from a root through relationships, depth
first in relationship order, each once: the order in which graphs are shown and in which a
qualified wildcard looks for its entity.
-/

set_option autoImplicit false

namespace EntityQuery

/-- Published knowledge about keys, in the order it was published. -/
structure Catalog (K : Type) where
  entries : List (K × Option (Descriptor K)) := []

namespace Catalog

variable {K : Type} [DecidableEq K]

/-- What the catalog knows about a key: `none` when nothing, `some none` for a non-entity. -/
def find? (c : Catalog K) (k : K) : Option (Option (Descriptor K)) := c.entries.lookup k

/-- The descriptor published for a key. -/
def descriptor? (c : Catalog K) (k : K) : Option (Descriptor K) := (c.find? k).join

/-- The number of keys bound to a descriptor. -/
def size (c : Catalog K) : Nat := (c.entries.filter (·.2.isSome)).length

/-- Adds bindings for keys that are not yet bound. -/
def extend (c : Catalog K) (more : List (K × Option (Descriptor K))) : Catalog K :=
  ⟨c.entries ++ more⟩

/-- The descriptor reached through a field of a descriptor. -/
def relatedOf? (c : Catalog K) (d : Descriptor K) (fieldName : String) : Option (Descriptor K) :=
  (d.related? fieldName).bind c.descriptor?

/-- A bound on the number of steps of a walk over the catalog: one per key it can push. -/
def walkBound (c : Catalog K) : Nat :=
  c.entries.foldl (fun n e => n + (e.2.map (·.related.length)).getD 0) 1

/-- Depth-first walk: `stack` holds the keys still to visit, front first. -/
def walk (c : Catalog K) : Nat → List K → List K → List K
  | 0, _, seen => seen
  | _ + 1, [], seen => seen
  | n + 1, k :: stack, seen =>
    if seen.contains k then walk c n stack seen
    else match c.descriptor? k with
      | some d => walk c n (d.related.map (·.2) ++ stack) (seen ++ [k])
      | none => walk c n stack seen

/-- The keys of the entities reachable from a root, depth first in relationship order. -/
def reachable (c : Catalog K) (root : K) : List K :=
  c.walk c.walkBound [root] []

/-- The first entity reachable from the root whose entity name is the given one. -/
def findByName? (c : Catalog K) (root : K) (name : String) : Option (Descriptor K) :=
  ((c.reachable root).filterMap c.descriptor?).find? (·.name == name)

end Catalog

end EntityQuery
