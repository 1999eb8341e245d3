/-!
# Query files

A query file names queries over entities. Each query has a name, the qualified type of its
root entity, either a template or an id to look the entity up by, paging, and optionally its
own relationship depth. The file has a version, the packages its entities come from, and a
default depth for queries that do not set one.

Reading a file fills in defaults: a missing version is `"1"`, and when the file sets a depth,
every query without one takes it. A caller may supply a depth for files that set none.
-/

set_option autoImplicit false

namespace EntityQuery

/-- One named query. -/
structure QueryDefinition where
  name : String := ""
  /-- The qualified type of the root entity, such as `store.Account`. -/
  entity : String := ""
  template : String := ""
  id : String := ""
  offset : Int := 0
  limit : Int := 0
  depth : Option Int := none
deriving Repr, Inhabited, DecidableEq

/-- A file of queries. `packages` is absent when the file does not list any. -/
structure QueryFile where
  version : String := ""
  packages : Option (List String) := none
  depth : Option Int := none
  queries : List QueryDefinition := []
deriving Repr, Inhabited, DecidableEq

namespace QueryDefinition

/-- The query's own depth, or `fallback` when it sets none. -/
def effectiveDepth (q : QueryDefinition) (fallback : Int) : Int := q.depth.getD fallback

/-- How the query at position `i` is named in messages: its name, or its position. -/
def label (q : QueryDefinition) (i : Nat) : String :=
  if q.name != "" then q.name else "queries[" ++ toString i ++ "]"

end QueryDefinition

namespace QueryFile

/-- Give every query without a depth the file's depth, first setting the file's depth to
`fallback` when it has none. -/
def setDefaultDepth (qf : QueryFile) (fallback : Int) : QueryFile :=
  let depth := qf.depth.getD fallback
  { qf with depth := some depth,
            queries := qf.queries.map fun q => { q with depth := some (q.depth.getD depth) } }

/-- The defaults a file gets when it is read. -/
def withDefaults (qf : QueryFile) : QueryFile :=
  let qf := if qf.version == "" then { qf with version := "1" } else qf
  match qf.depth with
  | some d => qf.setDefaultDepth d
  | none => qf

/-- The first query with this name, and its position. -/
def find (qf : QueryFile) (name : String) : Option (Nat × QueryDefinition) :=
  (qf.queries.zipIdx.find? fun p => p.1.name == name).map fun p => (p.2, p.1)

end QueryFile

end EntityQuery
