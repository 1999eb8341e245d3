import EntityQuery.Declared.Lookup
import EntityQuery.QueryFile.Validate

/-!
# Workspaces

A workspace is the set of packages a command works on: some of the packages that can be loaded,
chosen by patterns, with the registry of entities read from their declarations. A pattern
names a package by its path or by a final part of it (`./` in front is left out); the packages
not chosen stay visible to the types that use them but are never entities.

A type name is qualified by its package (`store.Account`); a bare name is looked up in the
loaded package when there is exactly one.
-/

set_option autoImplicit false

namespace EntityQuery

/-- The patterns without blanks and repeats, each first occurrence kept in order. -/
def distinctPatterns (patterns : List String) : List String :=
  patterns.foldl (fun acc p => if p == "" || acc.contains p then acc else acc ++ [p]) []

/-- The final part of a pattern, after its last slash. -/
def patternBase (pattern : String) : String :=
  ((pattern.splitOn "/").filter (· != "")).getLast?.getD "."

/-- The pattern names the package: its path, or a final part of the path. -/
def Package.matchesPattern (p : Package) (pattern : String) : Bool :=
  let part := if pattern.startsWith "./" then String.ofList (pattern.toList.drop 2) else pattern
  p.path == part || p.path.endsWith ("/" ++ part)

/-- The packages a command works on, and the entities read from them so far. -/
structure Workspace where
  analyzer : Analyzer
  /-- The patterns the packages were chosen by, in order. -/
  patterns : List String
  registry : Registry TypeExpr

namespace Workspace

/-- The error of a command that has no package to work on. -/
def noPackages : String := "no packages to load: pass -p or set packages in the config file"

/-- The workspace of the packages that `patterns` name, out of `available`. -/
def load (available : List Package) (patterns opaquePaths : List String) :
    Except String Workspace :=
  let patterns := distinctPatterns patterns
  if patterns.isEmpty then .error noPackages
  else
    match patterns.find? (fun pat => !available.any (·.matchesPattern pat)) with
    | some pat => .error ("failed to load packages: no package matches " ++ pat)
    | none =>
      let chosen := available.map fun pkg =>
        { pkg with hidden := pkg.hidden || !patterns.any pkg.matchesPattern }
      let a : Analyzer := { scope := ⟨chosen⟩, opaquePaths }
      .ok { analyzer := a, patterns, registry := { introspector := a.introspector } }

/-- A type name qualified by its package; a bare name belongs to the only loaded package. -/
def qualify (w : Workspace) (name : String) : Except String String :=
  if name.contains '.' then .ok name
  else
    match w.patterns with
    | [p] => .ok (patternBase p ++ "." ++ name)
    | _ => .error ("type " ++ Text.quote name ++ " must be qualified with its package")

/-- The descriptor of the type a name names, `none` for a type that is no entity. -/
def resolve (w : Workspace) (name : String) :
    Except LookupFailure (Option (Descriptor TypeExpr)) × Workspace :=
  match w.qualify name >>= w.analyzer.lookup with
  | .error text => (.error (.other text), w)
  | .ok key =>
    match w.registry.get key with
    | (.error e, r) => (.error (.config e), { w with registry := r })
    | (.ok d, r) => (.ok d, { w with registry := r })

/-- Looking up entities by name, the workspace being the state. -/
def entityLookup : EntityLookup Workspace TypeExpr := fun name w => w.resolve name

/-- The descriptor of an entity type by name; a type that is no entity is an error. -/
def entity (w : Workspace) (name : String) : Except String (Descriptor TypeExpr) × Workspace :=
  match w.resolve name with
  | (.error f, w) => (.error f.message, w)
  | (.ok none, w) => (.error (name ++ " is not an entity type"), w)
  | (.ok (some d), w) => (.ok d, w)

/-- The diagnostics of a query file against the workspace. -/
def validate (w : Workspace) (qf : QueryFile) : Report :=
  (QueryFile.validate (some qf) (some entityLookup) (·.registry.catalog) w).1

end Workspace

end EntityQuery
