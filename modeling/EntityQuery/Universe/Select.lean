import EntityQuery.Universe.Underlying

/-!
# Selectors

What a name selects in a type: a field or a method, of the type itself or promoted from the
fields it embeds. The search goes by depth of embedding. At each depth every type met there is
looked at: a named type's declared methods first, then the fields of its underlying struct,
whose embedded fields make the types of the next depth. A named type met at a shallower depth
is not looked at again. The first depth with a match decides; two matches at that depth, or a
match inside a type that was embedded more than once at that depth, make the selector
ambiguous, and it selects nothing.

Selecting on a pointer looks through the pointer: every method of the named type is reached,
whatever its receiver.
-/

set_option autoImplicit false

namespace EntityQuery

/-- What a selector names. -/
inductive Selection where
  | notFound
  | field
  /-- A method declared on the named type `owner`, which lies at `path` (the positions of the
  embedded fields leading to it, empty for the type itself). -/
  | method (owner : TypeExpr) (m : Method) (path : List Nat)
  | ambiguous

/-- A type met while searching, with the embedded fields that lead to it. -/
structure Embedding where
  type : TypeExpr
  path : List Nat
  /-- The type was embedded more than once at this depth. -/
  multiples : Bool := false

/-- The search at one depth. -/
structure SelectScan where
  found : Option Selection := none
  next : List Embedding := []
  seen : List TypeExpr

namespace Universe

variable (u : Universe)

/-- Look for the name among the fields of a struct reached through `e`; `none` when the name
turns out ambiguous. -/
def scanMembers (name : String) (e : Embedding) :
    List (Member × Nat) → SelectScan → Option SelectScan
  | [], s => some s
  | (f, i) :: rest, s =>
    if f.name == name then
      if s.found.isSome || e.multiples then none
      else scanMembers name e rest { s with found := some .field }
    else
      let s :=
        if s.found.isNone && f.embedded then
          { s with next := s.next ++ [⟨(u.derefOnce f.type).1, e.path ++ [i], e.multiples⟩] }
        else s
      scanMembers name e rest s

/-- Look for the name in one type met at the current depth. -/
def scanEmbedding (name : String) (s : SelectScan) (e : Embedding) : Option SelectScan :=
  let t := u.unalias e.type
  let named := match t with
    | .named .. => true
    | _ => false
  if named && s.seen.contains t then some s
  else
    let s := if named then { s with seen := s.seen ++ [t] } else s
    match (u.methodsOf t).find? (·.name == name) with
    | some m =>
      if s.found.isSome || e.multiples then none
      else some { s with found := some (.method t m e.path) }
    | none =>
      match u.structFields? t with
      | some fs => u.scanMembers name e fs.zipIdx s
      | none => some s

/-- Keep one entry per type, marking a type met more than once. -/
def consolidate (es : List Embedding) : List Embedding :=
  es.foldl (fun kept e =>
    let t := u.unalias e.type
    if kept.any (fun k => u.unalias k.type == t) then
      kept.map fun k => if u.unalias k.type == t then { k with multiples := true } else k
    else kept ++ [e]) []

/-- Search depth after depth, at most `fuel` depths. -/
def selectWith (name : String) : Nat → List Embedding → List TypeExpr → Selection
  | 0, _, _ => .notFound
  | _ + 1, [], _ => .notFound
  | fuel + 1, current, seen =>
    let scan := current.foldl (fun (acc : Option SelectScan) e =>
      acc.bind fun s => u.scanEmbedding name s e) (some { seen })
    match scan with
    | none => .ambiguous
    | some s =>
      match s.found with
      | some sel => sel
      | none => selectWith name fuel (u.consolidate s.next) s.seen

/-- What a name selects in a value of type `t`, looking through one pointer. -/
def select (t : TypeExpr) (name : String) : Selection :=
  u.selectWith name (u.weight + 1) [⟨(u.derefOnce t).1, [], false⟩] []

/-- The method a name selects in a type. -/
def method? (t : TypeExpr) (name : String) : Option (TypeExpr × Method × List Nat) :=
  match u.select t name with
  | .method owner m path => some (owner, m, path)
  | _ => none

end Universe

end EntityQuery
