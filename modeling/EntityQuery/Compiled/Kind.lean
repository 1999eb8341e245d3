import EntityQuery.Universe.Show

/-!
# Kinds

A compiled program knows a type by its kind: the basic type it is built on (`byte` counts as
`uint8`), or the composite form of its underlying type. A named type has the kind of its
underlying type; a type parameter only exists inside declarations and counts as an interface.
-/

set_option autoImplicit false

namespace EntityQuery

/-- The kind of a compiled type. -/
inductive Kind where
  | invalid
  | basic (b : BasicType)
  | array | chan | func | interface | map | pointer | slice | struct
deriving DecidableEq, Repr

/-- How a kind is written. -/
def Kind.name : Kind → String
  | .invalid => "invalid"
  | .basic b => b.kind.name
  | .array => "array"
  | .chan => "chan"
  | .func => "func"
  | .interface => "interface"
  | .map => "map"
  | .pointer => "ptr"
  | .slice => "slice"
  | .struct => "struct"

namespace Universe

variable (u : Universe)

/-- The kind of a type. -/
def kindOf (t : TypeExpr) : Kind :=
  match u.underlying t with
  | .basic b => .basic b.kind
  | .named .. => .invalid
  | .param _ => .interface
  | .pointer _ => .pointer
  | .slice _ => .slice
  | .array .. => .array
  | .map .. => .map
  | .chan _ => .chan
  | .func => .func
  | .interface => .interface
  | .struct _ => .struct

/-- The element type of a pointer, slice, array, channel or map type. -/
def elem? (t : TypeExpr) : Option TypeExpr :=
  match u.underlying t with
  | .pointer e | .slice e | .array _ e | .chan e | .map _ e => some e
  | _ => none

/-- The key type of a map type. -/
def key? (t : TypeExpr) : Option TypeExpr :=
  match u.underlying t with
  | .map k _ => some k
  | _ => none

/-- Follow pointers, named or not, at most `fuel` times. -/
def derefKindWith : Nat → TypeExpr → TypeExpr
  | 0, t => t
  | fuel + 1, t =>
    match u.underlying t with
    | .pointer e => derefKindWith fuel e
    | _ => u.unalias t

/-- The type a value is reached through after following every pointer. -/
def derefKind (t : TypeExpr) : TypeExpr := u.derefKindWith (u.unfoldLimit t) t

end Universe

end EntityQuery
