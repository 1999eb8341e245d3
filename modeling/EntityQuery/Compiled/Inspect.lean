import EntityQuery.Compiled.Visible
import EntityQuery.Universe.Select
import EntityQuery.Entity.Registry
import EntityQuery.Entity.Library
import EntityQuery.Entity.Namer
import EntityQuery.Tag

/-!
# Reading entities from compiled types

A reflector reads entity shapes the way a compiled program sees its types: by kinds, names and
visible fields. A key is a compiled type, or no type at all; it stands for the type with every
pointer followed and its aliases gone.

An entity is a named struct type of a package that is neither a library package nor opaque.
Its fields are its visible fields that are exported, leaving out embedded fields of struct
kind (their fields are visible on their own) and fields whose tag skips them; each keeps its
index path.

A field is classified by its kind after following pointers: booleans, numbers, strings and maps
are scalars, as are slices of bytes; other slices are collections and arrays arrays of their
element type with pointers followed (the element is classified first); a named struct is a
scalar when its package is a library package or opaque and nested otherwise; a struct without
a name and every other kind cannot be mapped. Classification follows element types as far as they
go, so for a type that contains itself through its elements it does not end: it is followed for
`stackLevels` levels, which no run's stack holds, and gives `endless` past them. The new entities
of one request nest as deep as the stack holds too: the reflector's reach.

The entity name is what an `EntityName` method of a pointer to the type returns, when the
method takes nothing and returns a string. A field has a setter when a pointer to the type has
a `Set<Field>` method of one parameter.
-/

set_option autoImplicit false

namespace EntityQuery

/-- Reads entity shapes from compiled types. -/
structure Reflector where
  /-- The declarations the types were compiled from. -/
  scope : Universe
  /-- Package paths whose types are never entities. -/
  opaquePaths : List String := []
  namer : FieldNamer := FieldNamer.byDefault

namespace Reflector

variable (r : Reflector)

/-- A type with pointers followed and aliases gone. -/
def base (t : TypeExpr) : TypeExpr := r.scope.erase (r.scope.derefKind t)

/-- The key a key stands for. -/
def canonical : Option TypeExpr → Option TypeExpr := Option.map r.base

/-- The package of a named type, empty for other types. -/
def pkgPathOf (t : TypeExpr) : String :=
  match r.scope.unalias t with
  | .named p _ _ => p
  | _ => ""

/-- The type has a name (aliases unfolded). -/
def isNamed (t : TypeExpr) : Bool :=
  match r.scope.unalias t with
  | .named .. => true
  | _ => false

def isOpaque (path : String) : Bool := isOpaquePackage r.opaquePaths path

/-- A named struct type of a package that is neither a library package nor opaque. -/
def isEntityType (t : TypeExpr) : Bool :=
  r.scope.kindOf t == .struct && r.isNamed t && !r.isOpaque (r.pkgPathOf t)

/-- The name an `EntityName` method of a pointer to the type returns, empty for none. -/
def entityName (t : TypeExpr) : String :=
  match r.scope.method? (.pointer t) "EntityName" with
  | some (_, m, _) =>
    if m.params.isEmpty && m.results == [.basic .string] then m.callResult else ""
  | none => ""

/-- A pointer to the type has a `Set<field>` method of one parameter. -/
def hasSetter (t : TypeExpr) (field : String) : Bool :=
  match r.scope.method? (.pointer t) ("Set" ++ field) with
  | some (_, m, _) => m.params.length == 1
  | none => false

/-- The kind of a field of type `t` and the key it may relate to, following at most `fuel`
element levels; a type whose elements never end is `endless`. -/
def classifyWith : Nat → TypeExpr → Except Problem (FieldKind × TypeExpr)
  | 0, _ => .error .endless
  | fuel + 1, t =>
    let b := r.base t
    match r.scope.kindOf b with
    | .basic k =>
      if k.isOrdinary then .ok (.scalar, b) else .error (.unmappableKind k.name)
    | .map => .ok (.scalar, b)
    | .slice =>
      let e := (r.scope.elem? b).getD .interface
      if r.scope.kindOf e == .basic .uint8 then .ok (.scalar, b)
      else do
        let _ ← classifyWith fuel e
        return (.collection, r.base e)
    | .array => do
      let e := (r.scope.elem? b).getD .interface
      let _ ← classifyWith fuel e
      return (.array, r.base e)
    | .struct =>
      if !r.isNamed b then .error .anonymousStruct
      else if r.isOpaque (r.pkgPathOf b) then .ok (.scalar, b)
      else .ok (.nested, b)
    | k => .error (.unmappableKind k.name)

def classify (t : TypeExpr) : Except Problem (FieldKind × TypeExpr) :=
  r.classifyWith stackLevels t

/-- A map with string keys, after following pointers. -/
def isStringKeyedMap (t : TypeExpr) : Bool :=
  let b := r.base t
  r.scope.kindOf b == .map &&
    match r.scope.key? b with
    | some k => r.scope.kindOf k == .basic .string
    | none => false

/-- The shape of the entity a key stands for; `none` for a key that is no entity. -/
def inspect : Option TypeExpr → Except ConfigError (Option (Shape (Option TypeExpr)))
  | none => .ok none
  | some key =>
    let t := r.base key
    if !r.isEntityType t then .ok none
    else
      let typeName := Universe.compiledName t
      let shown := r.scope.compiledString t
      let step (acc : List (FieldSpec (Option TypeExpr))) (sf : VisibleField) :
          Except ConfigError (List (FieldSpec (Option TypeExpr))) :=
        if !isExported sf.name then .ok acc
        else if sf.embedded && r.scope.kindOf (r.base sf.type) == .struct then .ok acc
        else
          let tag := FieldTag.parse sf.tag
          if tag.skip then .ok acc
          else
            match r.classify sf.type with
            | .error p => .error { entity := shown, field := sf.name, problem := p }
            | .ok (kind, candidate) =>
              let wire := r.namer typeName sf.name tag.name
              let field : Field := {
                name := sf.name, wire, kind, isIdentifier := tag.isIdentifier,
                isAttributes := wire == "attributes" && r.isStringKeyedMap sf.type,
                hasSetter := r.hasSetter t sf.name, index := sf.index }
              .ok (acc ++ [⟨field, some candidate⟩])
      do
        let fields ← (r.scope.visibleFields t).foldlM step []
        return some { typeName, entityName := r.entityName t, fields }

/-- The introspector over compiled types, reaching as deep as a run's stack. -/
def introspector : Introspector (Option TypeExpr) where
  canonical := r.canonical
  inspect := r.inspect
  reach := stackLevels

end Reflector

end EntityQuery
