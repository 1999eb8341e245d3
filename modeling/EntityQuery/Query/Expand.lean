import EntityQuery.Entity.Problem
import EntityQuery.Query.FieldList
import EntityQuery.Query.Literal
import EntityQuery.Query.Marker
/-!
# Expanding templates

`expand` turns a template into a query for a root entity. It needs a root and a template that
is not blank. The part of the template before its first literal is cut into plain text and
markers; each marker is replaced by the field list, at the requested depth and with the
marker's lead, of the root or, when it is qualified, of the first entity reachable from the
root (depth first) with that entity name; the first qualifier that names no reachable entity
fails the expansion. The literal part follows unchanged, then ` LIMIT n` for a positive limit
and ` OFFSET n` for a positive offset.

`findById` queries one record: the template `SELECT * FROM <entity> WHERE <id wire name> =
'<escaped id>'` expanded with limit one; the root must have an identifier field.

Both ask an expander for the field lists, marker after marker, so the map behind it is read
and filled in the order of the markers; a failure at a marker keeps what earlier markers
stored. `expand` and `findById` without an expander use a new one.
-/

set_option autoImplicit false

namespace EntityQuery

/-- Why a query cannot be built. -/
inductive QueryError where
  /-- No root entity was given. -/
  | noDescriptor
  /-- The template is blank. -/
  | emptyTemplate
  /-- A qualifier names no entity reachable from the root. -/
  | unresolved (entity : String) (root : String)
  /-- The root entity cannot serve the request. -/
  | config (e : ConfigError)
deriving DecidableEq, Repr

/-- The wording of a query error. -/
def QueryError.message : QueryError → String
  | .noDescriptor => "no root entity descriptor was specified"
  | .emptyTemplate => "no query template was specified"
  | .unresolved e r => "wildcard substitution for '" ++ e ++ "' cannot be resolved from " ++ r
  | .config e => e.message

namespace Query

/-- The number of relationship levels a query follows unless told otherwise. -/
def defaultDepth : Int := 5

variable {K : Type} [DecidableEq K]

/-- The entity a qualifier names: the root for an empty one, else the first reachable entity
with that name. -/
def target (c : Catalog K) (root : Descriptor K) (qualifier : String) :
    Except QueryError (Descriptor K) :=
  if qualifier == "" then .ok root
  else match c.findByName? root.key qualifier with
    | some d => .ok d
    | none => .error (.unresolved qualifier root.name)

/-- A template has a wildcard when the part before its first literal has a star: every star
there starts a marker. -/
def hasWildcard (template : String) : Bool := (splitAtLiteral template.toList).1.contains '*'

/-- The paging clauses after a query. -/
def paging (offset limit : Int) : String :=
  (if limit > 0 then " LIMIT " ++ toString limit else "") ++
    (if offset > 0 then " OFFSET " ++ toString offset else "")

/-- The template that selects one record of an entity by its identifier. -/
def findByIdTemplate (d : Descriptor K) (idWire id : String) : String :=
  "SELECT * FROM " ++ d.name ++ " WHERE " ++ idWire ++ " = '" ++ escapeLiteral id ++ "'"

/-- The text that replaces the pieces of a template's scanned part, each marker's field list
asked of the map in turn; the first qualifier that names no reachable entity stops it. -/
def renderOf (c : Catalog K) (root : Descriptor K) (depth : Int) :
    List Piece → Cached K (Except QueryError String)
  | [] => pure (.ok "")
  | .text cs :: rest => do
    let tail ← renderOf c root depth rest
    pure (tail.map (String.ofList cs ++ ·))
  | .marker lead q :: rest =>
    match target c root (String.ofList (q.getD [])) with
    | .error e => pure (.error e)
    | .ok d => do
      let list ← fieldListOf c d (String.ofList lead) depth
      let tail ← renderOf c root depth rest
      pure (tail.map (list ++ ·))

/-- Expands a template for a root entity, asking the map for the field lists. -/
def expandOf (c : Catalog K) (root : Option (Descriptor K)) (template : String)
    (offset limit depth : Int) : Cached K (Except QueryError String) :=
  match root with
  | none => pure (.error .noDescriptor)
  | some d =>
    if Text.isBlank template then pure (.error .emptyTemplate)
    else do
      let parts := splitAtLiteral template.toList
      let body ← renderOf c d depth (pieces parts.1)
      pure (body.map (· ++ String.ofList parts.2 ++ paging offset limit))

/-- The query for one record of the root entity by its identifier, asking the map for the field
lists. -/
def findByIdOf (c : Catalog K) (root : Option (Descriptor K)) (id : String) (depth : Int) :
    Cached K (Except QueryError String) :=
  match root with
  | none => pure (.error .noDescriptor)
  | some d =>
    match d.idField? with
    | none => pure (.error (.config { entity := d.name, problem := .noIdentifier }))
    | some f => expandOf c (some d) (findByIdTemplate d f.wire id) 0 1 depth

namespace Expander

/-- Expands a template for a root entity with the expander's field lists. -/
def expand (e : Expander K) (c : Catalog K) (root : Option (Descriptor K)) (template : String)
    (offset limit depth : Int) : Except QueryError String × Expander K :=
  (expandOf c root template offset limit depth).run e

/-- The query for one record of the root entity, with the expander's field lists. -/
def findById (e : Expander K) (c : Catalog K) (root : Option (Descriptor K)) (id : String)
    (depth : Int) : Except QueryError String × Expander K :=
  (findByIdOf c root id depth).run e

/-- The query for one record of the root entity at the default depth. -/
def findByIdDefault (e : Expander K) (c : Catalog K) (root : Option (Descriptor K)) (id : String) :
    Except QueryError String × Expander K :=
  e.findById c root id defaultDepth

end Expander

/-- Expands a template for a root entity with a new expander. -/
def expand (c : Catalog K) (root : Option (Descriptor K)) (template : String)
    (offset limit depth : Int) : Except QueryError String :=
  (({} : Expander K).expand c root template offset limit depth).1

/-- The query for one record of the root entity by its identifier, with a new expander. -/
def findById (c : Catalog K) (root : Option (Descriptor K)) (id : String) (depth : Int) :
    Except QueryError String :=
  (({} : Expander K).findById c root id depth).1

end Query

end EntityQuery
