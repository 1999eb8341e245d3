import EntityQuery.Entity.Catalog
import EntityQuery.Entity.Problem
/-!
# The registry

A registry builds descriptors on demand. Asked for a key, it answers from its catalog when the
key is published; otherwise it asks its introspector about the key and, depth first, about the
candidate key of every non-scalar field of each new entity, in field order. Within one request
a key is inspected at most once: a key still under construction stands for its descriptor, and a
key found to be no entity stays one. A relationship is recorded for every field whose candidate
turns out to be an entity.

When any inspection fails the request fails and nothing it found is published. Otherwise
everything it found, entities and non-entities, is added to the catalog in one step; earlier
bindings are never changed. The registry also keeps, in call order, every key it asked the
introspector about.

An introspector may map keys to a canonical form first (for instance by removing pointers);
both the catalog and the build use canonical keys. Its `reach` bounds how deeply the new
entities of one request may nest: every entity on a chain of relationships that a request
builds is a new key, so a reach above the number of entity keys the request can come to never
runs out. A request that would inspect a key below that depth fails like a failed inspection,
and publishes nothing. The introspectors over types reach as deep as a run's stack holds, past
which the library's own recursion does not return either.
-/

set_option autoImplicit false

namespace EntityQuery

/-- Something that reports the shape of the entity a key stands for. -/
structure Introspector (K : Type) where
  /-- The key that stands for the same type. -/
  canonical : K → K := id
  /-- The shape of the entity, `none` for a key that is no entity, or why it cannot be mapped. -/
  inspect : K → Except ConfigError (Option (Shape K))
  /-- A bound on how deeply the new entities of one request nest. -/
  reach : Nat

/-- What one request has found so far. -/
structure Build (K : Type) where
  /-- Entities under construction or built, in the order they were first inspected. -/
  staged : List (K × Descriptor K) := []
  /-- Keys found to be no entity. -/
  absent : List K := []
  /-- Every key inspected, in call order. -/
  inspected : List K := []

namespace Build

variable {K : Type} [DecidableEq K]

/-- The bindings a successful request publishes: its entities, then its non-entities. -/
def bindings (b : Build K) : List (K × Option (Descriptor K)) :=
  b.staged.map (fun p => (p.1, some p.2)) ++ b.absent.map (fun k => (k, none))

/-- Records the relationships of a staged entity. -/
def setRelated (b : Build K) (k : K) (rels : List (String × K)) : Build K :=
  { b with staged := b.staged.map fun p => if p.1 = k then (p.1, { p.2 with related := rels }) else p }

end Build

variable {K : Type} [DecidableEq K]

/-- Adds one field of a new entity to its relationships: a field that is not a scalar and whose
candidate `sub` resolves to an entity relates to it. The first failure stops the request. -/
def relateField (sub : K → Build K → Build K × Except ConfigError (Option K))
    (acc : Build K × Except ConfigError (List (String × K))) (f : FieldSpec K) :
    Build K × Except ConfigError (List (String × K)) :=
  match acc with
  | (b, .error e) => (b, .error e)
  | (b, .ok rels) =>
    if f.field.kind = .scalar then (b, .ok rels)
    else match sub f.candidate b with
      | (b, .error e) => (b, .error e)
      | (b, .ok none) => (b, .ok rels)
      | (b, .ok (some r)) => (b, .ok (Descriptor.relate rels f.field.name r))

/-- Builds the descriptor of a key (`some` its canonical key) or finds it to be no entity
(`none`); `fuel` bounds how deeply new entities may still nest. -/
def resolve (I : Introspector K) (published : Catalog K) (fuel : Nat) (key : K) (b : Build K) :
    Build K × Except ConfigError (Option K) :=
  let k := I.canonical key
  match published.find? k with
  | some (some _) => (b, .ok (some k))
  | some none => (b, .ok none)
  | none =>
    if b.staged.any (·.1 = k) then (b, .ok (some k))
    else if b.absent.contains k then (b, .ok none)
    else match fuel with
      | 0 => (b, .error { entity := "", problem := .tooDeep })
      | fuel + 1 =>
        let b := { b with inspected := b.inspected ++ [k] }
        match I.inspect k with
        | .error e => (b, .error e)
        | .ok none => ({ b with absent := b.absent ++ [k] }, .ok none)
        | .ok (some shape) =>
          let b := { b with staged := b.staged ++ [(k, Descriptor.ofShape k shape)] }
          match shape.fields.foldl (relateField (resolve I published fuel)) (b, .ok []) with
          | (b, .error e) => (b, .error e)
          | (b, .ok rels) => (b.setRelated k rels, .ok (some k))

/-- A catalog of descriptors built on demand by an introspector. -/
structure Registry (K : Type) where
  introspector : Introspector K
  catalog : Catalog K := {}
  /-- Every key the introspector was asked about, in call order. -/
  inspected : List K := []

namespace Registry

/-- The descriptor of a key, building and publishing it and everything it reaches when it is
not yet published. -/
def get (r : Registry K) (key : K) :
    Except ConfigError (Option (Descriptor K)) × Registry K :=
  let k := r.introspector.canonical key
  match r.catalog.find? k with
  | some d => (.ok d, r)
  | none =>
    let (b, result) := resolve r.introspector r.catalog r.introspector.reach k {}
    let r := { r with inspected := r.inspected ++ b.inspected }
    match result with
    | .error e => (.error e, r)
    | .ok found =>
      let r := { r with catalog := r.catalog.extend b.bindings }
      (.ok (found.bind r.catalog.descriptor?), r)

/-- The number of published entities. -/
def size (r : Registry K) : Nat := r.catalog.size

end Registry

end EntityQuery
