import EntityQuery.Universe.Decl

/-!
# Unfolding named types

A named type stands for its declaration's type with the declaration's parameters replaced by
the type arguments. An alias is the type it names; unfolding the aliases at the top of a type
(`unalias`) and also its pointers (`deref`) gives the type a value of it is read through. The
underlying type of a named type is the underlying type of what it declares; composite types
are their own underlying types.

Declarations of a checked universe do not refer to themselves through aliases or defined types
alone, so unfolding stops. It may still take many steps: an alias that names another twice,
`type A1[T any] = A0[A0[T]]`, doubles the steps of the one it names, so a chain of such aliases
takes a number of steps exponential in its length. Each declaration refers only to declarations
below it, each unfolding of a declaration costs at most its size in steps of the ones below,
and so `unfoldLimit`, the size times a power of the weight with the number of declarations as
exponent, bounds the steps for every type.
-/

set_option autoImplicit false

namespace EntityQuery

namespace Universe

variable (u : Universe)

/-- The declaration of a named type and the type it stands for, parameters replaced by the
arguments. -/
def expand? (pkg name : String) (args : TypeArgs) : Option (TypeDecl × TypeExpr) :=
  (u.decl? pkg name).map fun d => (d, d.type.subst (d.params.zip args.toList))

/-- A bound on the unfolding steps of a type, at its top or along any path into it: its size,
multiplied by `weight + 1` once for each declaration. -/
def unfoldLimit (t : TypeExpr) : Nat :=
  let factor := u.weight + 1
  Nat.repeat (· * factor) u.declCount t.size

theorem unfoldLimit_pos (t : TypeExpr) : 0 < u.unfoldLimit t := by
  show 0 < Nat.repeat (· * (u.weight + 1)) u.declCount t.size
  generalize u.declCount = k
  induction k with
  | zero => exact t.size_pos
  | succ k ih => exact Nat.mul_pos ih (Nat.succ_pos _)

/-- Unfold aliases at the top, at most `fuel` times. -/
def unaliasWith : Nat → TypeExpr → TypeExpr
  | 0, t => t
  | fuel + 1, t@(.named p n args) =>
    match u.expand? p n args with
    | some (d, body) => if d.isAlias then unaliasWith fuel body else t
    | none => t
  | _, t => t

/-- The type with the aliases at its top unfolded. -/
def unalias (t : TypeExpr) : TypeExpr := u.unaliasWith (u.unfoldLimit t) t

/-- One step of removal at the top of a type: a pointer gives way to its element type, an alias
to the type it stands for. -/
def stripStep? : TypeExpr → Option TypeExpr
  | .pointer e => some e
  | .named p n args =>
    match u.expand? p n args with
    | some (d, body) => if d.isAlias then some body else none
    | none => none
  | _ => none

/-- Remove aliases and pointers at the top, at most `fuel` of them. -/
def derefWith : Nat → TypeExpr → TypeExpr
  | 0, t => t
  | fuel + 1, t =>
    match u.stripStep? t with
    | some t' => derefWith fuel t'
    | none => t

/-- The type with its pointers and aliases at the top removed. -/
def deref (t : TypeExpr) : TypeExpr := u.derefWith (u.unfoldLimit t) t

/-- The type with aliases and one pointer at the top removed. -/
def derefOnce (t : TypeExpr) : TypeExpr × Bool :=
  match u.unalias t with
  | .pointer e => (e, true)
  | t' => (t', false)

/-- The underlying type, unfolding at most `fuel` named types. -/
def underlyingWith : Nat → TypeExpr → TypeExpr
  | 0, t => t
  | fuel + 1, t@(.named p n args) =>
    match u.expand? p n args with
    | some (_, body) => underlyingWith fuel body
    | none => t
  | _, t => t

/-- The underlying type: never a named type of a declaration. -/
def underlying (t : TypeExpr) : TypeExpr := u.underlyingWith (u.unfoldLimit t) t

/-- The fields of a type whose underlying type is a struct. -/
def structFields? (t : TypeExpr) : Option (List Member) :=
  match u.underlying t with
  | .struct fs => some fs.toList
  | _ => none

/-- The type is a named type (after aliases) declared as a type, not an alias. -/
def definedName? (t : TypeExpr) : Option (String × String × TypeArgs) :=
  match u.unalias t with
  | .named p n args => some (p, n, args)
  | _ => none

/-- The methods declared on the named type a type is. -/
def methodsOf (t : TypeExpr) : List Method :=
  match u.definedName? t with
  | some (p, n, _) => ((u.decl? p n).map (·.methods)).getD []
  | none => []

end Universe

end EntityQuery
