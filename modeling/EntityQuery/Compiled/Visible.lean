import EntityQuery.Compiled.Kind

/-!
# Visible fields

The fields a struct type shows: its own fields in order, each followed by the fields of the
struct it embeds (through a pointer too), depth first. Each field carries its index path, the
positions leading to it. Of two fields with one name the shallower hides the deeper, and two at
the same depth hide each other (and every deeper field of that name). A struct embedded in
itself is not entered again.
-/

set_option autoImplicit false

namespace EntityQuery

/-- A field as a struct type shows it. -/
structure VisibleField where
  name : String
  type : TypeExpr
  tag : String
  embedded : Bool
  /-- The positions of the field and of the embedded fields leading to it. -/
  index : List Nat

/-- Fields found so far; a hidden field keeps its place with an empty name. -/
structure FieldWalk where
  fields : Array VisibleField := #[]
  /-- The position of the latest field of each name. -/
  byName : List (String × Nat) := []

namespace FieldWalk

/-- Hide the field at a position. -/
def hide (w : FieldWalk) (i : Nat) : FieldWalk :=
  { w with fields := w.fields.modify i fun f => { f with name := "" } }

/-- Meet a field: keep it, hide it, or let it hide the one met before. -/
def meet (w : FieldWalk) (f : VisibleField) : FieldWalk :=
  let keep (w : FieldWalk) : FieldWalk :=
    { fields := w.fields.push f, byName := (f.name, w.fields.size) :: w.byName }
  match w.byName.lookup f.name with
  | none => keep w
  | some old =>
    let depth := (w.fields[old]?.map (·.index.length)).getD 0
    if f.index.length == depth then w.hide old
    else if f.index.length < depth then keep (w.hide old)
    else w

end FieldWalk

namespace Universe

variable (u : Universe)

/-- Walk a struct type at most `fuel` levels deep; `visiting` holds the structs being walked,
with their aliases unfolded. -/
def walkFields : Nat → TypeExpr → List Nat → List TypeExpr → FieldWalk → FieldWalk
  | 0, _, _, _, w => w
  | fuel + 1, t, pre, visiting, w =>
    let key := u.unalias t
    if visiting.contains key then w
    else
      ((u.structFields? t).getD []).zipIdx.foldl (fun w p =>
        let (f, i) := p
        let w := w.meet ⟨f.name, f.type, f.tag, f.embedded, pre ++ [i]⟩
        if f.embedded then
          let inner := if u.kindOf f.type == .pointer then (u.elem? f.type).getD f.type else f.type
          if u.kindOf inner == .struct then walkFields fuel inner (pre ++ [i]) (key :: visiting) w
          else w
        else w) w

/-- The visible fields of a struct type, in order. -/
def visibleFields (t : TypeExpr) : List VisibleField :=
  (u.walkFields (u.weight + 1) t [] [] {}).fields.toList.filter (·.name != "")

/-- The visible field of a name. -/
def visibleField? (t : TypeExpr) (name : String) : Option VisibleField :=
  (u.visibleFields t).find? (·.name == name)

end Universe

end EntityQuery
