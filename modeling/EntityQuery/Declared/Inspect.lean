import EntityQuery.Universe.Select
import EntityQuery.Universe.Show
import EntityQuery.Entity.Registry
import EntityQuery.Entity.Library
import EntityQuery.Entity.Namer
import EntityQuery.Tag

/-!
# Reading entities from declarations

An analyzer reads entity shapes from the declarations of a universe. Keys are types; a key
stands for the type with its pointers and aliases removed.

An entity is a named type whose underlying type is a struct, declared by a package that is
neither a library package nor opaque. Its fields are those of the struct in order, with the
fields of embedded structs (reached through pointers too, exported or not) put in place of the
embedding field; of several fields with one name only the shallowest is kept, the first of
those on a tie. Unexported fields and fields whose tag skips them are left out.

A field is classified by its type with pointers removed: booleans, numbers, strings and maps are
scalars, as are byte slices; other slices are collections and arrays are arrays, of their
element type with pointers removed (the element is classified first, so that its problems are
reported); a named struct type is nested when it is an entity and a scalar otherwise; a struct
type without a name and every other type cannot be mapped. Classification follows element types
as far as they go, so for a type that contains itself through its elements (`type L []L`) it does
not end; so does the collection of fields for a struct that embeds itself (`type N struct{ *N }`).
Both are followed for `stackLevels` levels, which no run's stack holds, and give `endless` past
them. The new entities of one request nest as deep as the stack holds too: the analyzer's reach.

The entity name is the string constant returned by an `EntityName` method selected on a
pointer to the type, when that method is declared (not through an instance of a generic type)
in a registered package and its body is a single return of a string constant. A field has a
setter when `Set<Field>` selects a method of one parameter on a pointer to the type.
-/

set_option autoImplicit false

namespace EntityQuery

/-- Reads entity shapes from the declarations of a universe. -/
structure Analyzer where
  /-- The declarations read. -/
  scope : Universe
  /-- Package paths whose types are never entities. -/
  opaquePaths : List String := []
  namer : FieldNamer := FieldNamer.byDefault

namespace Analyzer

variable (a : Analyzer)

/-- A type with its pointers and aliases removed: the key it stands for. -/
def canonical (t : TypeExpr) : TypeExpr := a.scope.deref t

/-- A named struct type of a package that is neither a library package nor opaque. -/
def isEntityType (t : TypeExpr) : Bool :=
  match t with
  | .named p _ _ => p != "" && (a.scope.structFields? t).isSome && !isOpaquePackage a.opaquePaths p
  | _ => false

/-- The package of the path is one of the registered ones. -/
def isRegistered (path : String) : Bool := a.scope.registered.any (·.path == path)

/-- The entity name a type declares through its `EntityName` method, empty for none. -/
def entityName (t : TypeExpr) : String :=
  match a.scope.select (.pointer t) "EntityName" with
  | .method (.named p _ .nil) m _ => if a.isRegistered p then m.constantResult?.getD "" else ""
  | _ => ""

/-- The type has a `Set<field>` method of one parameter. -/
def hasSetter (t : TypeExpr) (field : String) : Bool :=
  match a.scope.select (.pointer t) ("Set" ++ field) with
  | .method _ m _ => m.params.length == 1
  | _ => false

/-- The underlying type is a byte: the element of a slice that is a scalar. -/
def isByteType (t : TypeExpr) : Bool :=
  match a.scope.underlying t with
  | .basic b => b.kind == .uint8
  | _ => false

/-- The kind of a field of type `t` and the key it may relate to, following at most `fuel`
element levels; a type whose elements never end is `endless`. -/
def classifyWith : Nat → TypeExpr → Except Problem (FieldKind × TypeExpr)
  | 0, _ => .error .endless
  | fuel + 1, t =>
    let base := a.scope.deref t
    match a.scope.underlying base with
    | .basic b =>
      if b.isOrdinary then .ok (.scalar, base) else .error (.unmappableType b.name)
    | .map _ _ => .ok (.scalar, base)
    | .slice e =>
      if a.isByteType e then .ok (.scalar, base)
      else do
        let _ ← classifyWith fuel e
        return (.collection, a.scope.deref e)
    | .array _ e => do
      let _ ← classifyWith fuel e
      return (.array, a.scope.deref e)
    | .struct _ =>
      match base with
      | .named .. => .ok (if a.isEntityType base then .nested else .scalar, base)
      | _ => .error .anonymousStruct
    | _ => .error (.unmappableType (a.scope.typeString base))

def classify (t : TypeExpr) : Except Problem (FieldKind × TypeExpr) :=
  a.classifyWith stackLevels t

/-- The wire name of a string-keyed map field: the attributes carrier. -/
def isStringKeyedMap (t : TypeExpr) : Bool :=
  match a.scope.underlying (a.scope.deref t) with
  | .map k _ =>
    match a.scope.underlying k with
    | .basic b => b.isString
    | _ => false
  | _ => false

/-- The fields of an entity and of the structs it embeds, each with its depth of embedding,
following at most `fuel` levels of embedding; a struct that embeds itself is `endless`.
`owner` is the entity, `ownerId` how problems name it. -/
def collectWith (owner : TypeExpr) (ownerName ownerId : String) :
    Nat → Nat → List Member → Except ConfigError (List (FieldSpec TypeExpr × Nat))
  | 0, _, _ => .error { entity := ownerId, problem := .endless }
  | fuel + 1, depth, fields =>
    fields.foldlM (fun acc f =>
      match (if f.embedded then a.scope.structFields? (a.scope.deref f.type) else none) with
      | some inner => do
        let more ← collectWith owner ownerName ownerId fuel (depth + 1) inner
        return acc ++ more
      | none =>
        if !isExported f.name then .ok acc
        else
          let tag := FieldTag.parse f.tag
          if tag.skip then .ok acc
          else
            match a.classify f.type with
            | .error p => .error { entity := ownerId, field := f.name, problem := p }
            | .ok (kind, candidate) =>
              let wire := a.namer ownerName f.name tag.name
              let field : Field := {
                name := f.name, wire, kind, isIdentifier := tag.isIdentifier,
                isAttributes := wire == "attributes" && a.isStringKeyedMap f.type,
                hasSetter := a.hasSetter owner f.name }
              .ok (acc ++ [(⟨field, candidate⟩, depth)])) []

end Analyzer

/-- Keeps, of the fields of one name, the first of the shallowest. -/
def dropShadowed {K : Type} (fields : List (FieldSpec K × Nat)) : List (FieldSpec K) :=
  let shallowest (name : String) : Nat :=
    ((fields.filter (·.1.field.name == name)).map (·.2)).min?.getD 0
  let step (acc : List (FieldSpec K) × List String) (p : FieldSpec K × Nat) :=
    let (kept, seen) := acc
    let name := p.1.field.name
    if p.2 != shallowest name || seen.contains name then (kept, seen)
    else (kept ++ [p.1], seen ++ [name])
  (fields.foldl step ([], [])).1

namespace Analyzer

variable (a : Analyzer)

/-- The shape of the entity a key stands for; `none` for a key that is no entity. -/
def inspect (key : TypeExpr) : Except ConfigError (Option (Shape TypeExpr)) :=
  let t := a.canonical key
  match t with
  | .named p n args =>
    if !a.isEntityType t then .ok none
    else do
      let ownerId := (a.scope.typeIdOf p n args).render
      let fields := (a.scope.structFields? t).getD []
      let collected ← a.collectWith t n ownerId stackLevels 0 fields
      return some { typeName := n, entityName := a.entityName t, fields := dropShadowed collected }
  | _ => .ok none

/-- The introspector over the analyzer's declarations, reaching as deep as a run's stack. -/
def introspector : Introspector TypeExpr where
  canonical := a.canonical
  inspect := a.inspect
  reach := stackLevels

end Analyzer

end EntityQuery
