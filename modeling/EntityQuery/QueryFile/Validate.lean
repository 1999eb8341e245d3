import EntityQuery.QueryFile.Basic
import EntityQuery.Query.Expand
import EntityQuery.Diagnostic
import EntityQuery.Text.Quoted

/-!
# Checking a query file

Validation reports, for a file and each of its queries, what would stop the query from being
built or what is likely a mistake:

* the file: an unsupported version (error), no queries (warning);
* each query, named by its label: a missing or repeated name; its shape (a missing entity, a
  template and an id both or neither, negative paging or depth, paging ignored by an id
  lookup, a template without wildcard, a depth past the default, no limit);
* then, when the shape allows, its entity is looked up and the query is built, and the
  failures of both are reported.

Looking an entity up may change the lookup's state (a registry learns the entities it
inspects), so validation threads that state through.
-/

set_option autoImplicit false

namespace EntityQuery

/-- Why an entity could not be looked up by name. -/
inductive LookupFailure where
  /-- The entity, or one reachable from it, cannot be described. -/
  | config (e : ConfigError)
  /-- The name does not lead to a type. -/
  | other (text : String)
deriving Repr

def LookupFailure.message : LookupFailure → String
  | .config e => e.message
  | .other text => text

/-- Looking up the descriptor of a qualified type name, with a state. A type that is not an
entity has no descriptor. -/
abbrev EntityLookup (σ K : Type) := String → σ → Except LookupFailure (Option (Descriptor K)) × σ

namespace QueryDefinition

variable {K : Type} [DecidableEq K]

/-- The query built against its root entity by an expander: by id when it has one, else from its
template; at its own depth or the default one. -/
def renderWith (q : QueryDefinition) (e : Query.Expander K) (c : Catalog K)
    (d : Option (Descriptor K)) : Except QueryError String × Query.Expander K :=
  let depth := q.effectiveDepth Query.defaultDepth
  if q.id != "" then e.findById c d q.id depth
  else e.expand c d q.template q.offset q.limit depth

/-- The query built against its root entity by a new expander. -/
def render (q : QueryDefinition) (c : Catalog K) (d : Option (Descriptor K)) :
    Except QueryError String :=
  (q.renderWith {} c d).1

/-- A finding about a query, before the query's label is put on it: its severity, code and
message, and the key of the query it concerns. -/
structure Finding where
  severity : Severity
  code : String
  message : String
  field : String
deriving DecidableEq, Repr

/-- The finding about the query labelled `label`. -/
def Finding.diagnostic (f : Finding) (label : String) : Diagnostic :=
  ⟨f.severity, f.code, f.message, label, f.field⟩

/-- What is wrong with a query, or likely a mistake, seen without its entity, in the order it is
reported: the entity, the template and the id, the paging, the depth, the limit. -/
def shapeFindings (q : QueryDefinition) : List Finding :=
  (if q.entity == "" then [⟨.error, "missing_entity", "query has no entity", "entity"⟩] else []) ++
  (if q.template == "" && q.id == "" then
      [⟨.error, "missing_template", "query has neither a template nor an id", "template"⟩]
    else if q.template != "" && q.id != "" then
      [⟨.error, "template_and_id", "query has both a template and an id", "id"⟩]
    else if q.id != "" && (q.offset != 0 || q.limit != 0) then
      [⟨.warning, "paging_ignored", "offset and limit are ignored for a query by id", "id"⟩]
    else if q.template != "" && !Query.hasWildcard q.template then
      [⟨.warning, "no_wildcard", "template has no wildcard to expand", "template"⟩]
    else []) ++
  (if q.offset < 0 then
      [⟨.error, "invalid_offset", "offset " ++ toString q.offset ++ " is negative", "offset"⟩]
    else []) ++
  (if q.limit < 0 then
      [⟨.error, "invalid_limit", "limit " ++ toString q.limit ++ " is negative", "limit"⟩]
    else []) ++
  (match q.depth with
    | some d =>
      if d < 0 then [⟨.error, "invalid_depth", "depth " ++ toString d ++ " is negative", "depth"⟩]
      else if d > Query.defaultDepth then
        [⟨.warning, "deep_expansion", "depth " ++ toString d ++ " exceeds the " ++
          toString Query.defaultDepth ++ " relationship levels a query may traverse", "depth"⟩]
      else []
    | none => []) ++
  (if q.id == "" && q.limit == 0 && q.template != "" then
      [⟨.info, "no_limit", "query returns every matching record", "limit"⟩]
    else [])

/-- Report what is wrong with a query without looking at its entity; false when the query
cannot be built, that is when one of the findings is an error. -/
def checkShape (q : QueryDefinition) (label : String) (r : Report) : Report × Bool :=
  (r.addAll (q.shapeFindings.map (·.diagnostic label)),
    q.shapeFindings.all fun f => f.severity != .error)

/-- Report a query without a name, or with the name of a query before it (`seen`). -/
def checkName (q : QueryDefinition) (seen : List String) (label : String) (r : Report) : Report :=
  if q.name == "" then r.addError "missing_name" "query has no name" label "name"
  else if seen.contains q.name then
    r.addError "duplicate_query" ("duplicate query " ++ Text.quote q.name) label "name"
  else r

/-- Report why a query could not be built. -/
def renderProblem (q : QueryDefinition) (label : String) (r : Report) : QueryError → Report
  | e@(.unresolved ..) => r.addError "unknown_qualifier" e.message label "template"
  | .config e =>
    r.addError "no_identifier" (q.entity ++ " cannot be queried by id: " ++ e.message) label "id"
  | e => r.addError "expansion_failed" e.message label "template"

end QueryDefinition

namespace QueryFile

variable {σ K : Type} [DecidableEq K]

/-- Look up a query's entity and build the query, reporting failures. -/
def checkQuery (lookup : Option (EntityLookup σ K)) (catalog : σ → Catalog K)
    (q : QueryDefinition) (label : String) (r : Report) (st : σ) : Report × σ :=
  match lookup with
  | none => (r.addError "no_resolver" "no entity resolver configured" label "entity", st)
  | some look =>
    match look q.entity st with
    | (.error (.config e), st) => (r.addError "invalid_entity" e.message label "entity", st)
    | (.error (.other text), st) =>
      (r.addError "unknown_entity" ("entity " ++ Text.quote q.entity ++ " not found: " ++ text)
        label "entity", st)
    | (.ok none, st) =>
      (r.addError "not_an_entity" (Text.quote q.entity ++ " is not an entity type") label "entity", st)
    | (.ok (some d), st) =>
      match q.render (catalog st) (some d) with
      | .ok _ => (r, st)
      | .error e => (q.renderProblem label r e, st)

/-- Check the query at position `i`, given the names of the queries before it: its name, its
shape and, when the shape allows, its entity and the query built. -/
def checkEntry (lookup : Option (EntityLookup σ K)) (catalog : σ → Catalog K)
    (acc : Report × σ × List String) (p : QueryDefinition × Nat) : Report × σ × List String :=
  let (r, st, seen) := acc
  let (q, i) := p
  let label := q.label i
  let r := q.checkName seen label r
  let seen := q.name :: seen
  let (r, valid) := q.checkShape label r
  if !valid then (r, st, seen)
  else
    let (r, st) := checkQuery lookup catalog q label r st
    (r, st, seen)

/-- Report what is wrong with a file as a whole: an unsupported version, no queries. -/
def checkFile (qf : QueryFile) (r : Report) : Report :=
  let r := if qf.version != "1" then
      r.addError "unsupported_version" ("unsupported version " ++ Text.quote qf.version) "" "version"
    else r
  if qf.queries.isEmpty then r.addWarning "no_queries" "file defines no queries" "" "queries"
  else r

/-- The diagnostics of a query file (of a missing one: a single error). -/
def validate (qf : Option QueryFile) (lookup : Option (EntityLookup σ K))
    (catalog : σ → Catalog K) (st : σ) : Report × σ :=
  match qf with
  | none => (({} : Report).addError "file_is_nil" "query file is nil" "" "", st)
  | some qf =>
    let (r, st, _) := qf.queries.zipIdx.foldl (checkEntry lookup catalog) (qf.checkFile {}, st, [])
    (r, st)

end QueryFile

end EntityQuery
