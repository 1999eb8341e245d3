import EntityQuery.Text.Quoted
/-!
# Qualified type names

A type is named by its package path and its name, written `path.Name`. Reading splits at the
last dot; a text without a dot, or whose last dot is its first or last character, names no
type. For a path and a name without dots, writing and reading agree (`parse_render`).
-/

set_option autoImplicit false

namespace EntityQuery

/-- A package path and a type name. -/
structure TypeId where
  pkgPath : String
  name : String
deriving DecidableEq, Repr

namespace TypeId

/-- `path.Name`, or the bare name for an empty path. -/
def render (t : TypeId) : String :=
  if t.pkgPath == "" then t.name else t.pkgPath ++ "." ++ t.name

/-- The position of the last dot of a text. -/
def lastDot? (cs : List Char) : Option Nat :=
  (cs.zipIdx.filter (·.1 == '.')).getLast?.map (·.2)

/-- Reads `path.Name`, splitting at the last dot. -/
def parse? (q : String) : Option TypeId :=
  let cs := q.toList
  match lastDot? cs with
  | some i => if i == 0 || i + 1 == cs.length then none
    else some ⟨String.ofList (cs.take i), String.ofList (cs.drop (i + 1))⟩
  | none => none

/-- A text with no dot has a dot at no position, whichever position it starts at. -/
theorem zipIdx_filter_dot_eq_nil {cs : List Char} (h : '.' ∉ cs) (k : Nat) :
    (cs.zipIdx k).filter (·.1 == '.') = [] := by
  rw [List.filter_eq_nil_iff]
  intro x hx
  have hmem := List.fst_mem_of_mem_zipIdx hx
  simp only [beq_iff_eq]
  intro hdot
  exact h (hdot ▸ hmem)

/-- The last dot of a path, a dot and a name without dots is the one between them. -/
theorem lastDot?_append_dot {pre post : List Char} (h : '.' ∉ post) :
    lastDot? (pre ++ '.' :: post) = some pre.length := by
  simp [lastDot?, List.zipIdx_append, List.filter_append, zipIdx_filter_dot_eq_nil h]

/-- A path and a name without dots are read back from their qualified name. -/
theorem parse_render {id : TypeId} (hpath : id.pkgPath ≠ "") (hname : id.name ≠ "")
    (hdot : '.' ∉ id.name.toList) : parse? id.render = some id := by
  have hrender : id.render.toList = id.pkgPath.toList ++ '.' :: id.name.toList := by
    simp [render, hpath]
  have hpath' : id.pkgPath.toList ≠ [] := by simpa using hpath
  have hname' : id.name.toList ≠ [] := by simpa using hname
  unfold parse?
  simp only [hrender, lastDot?_append_dot hdot]
  simp [hpath', hname']

/-- Qualified names tell apart the types whose paths and names are written with no dot in the
name. -/
theorem render_injective {x y : TypeId} (hx : x.pkgPath ≠ "" ∧ x.name ≠ "" ∧ '.' ∉ x.name.toList)
    (hy : y.pkgPath ≠ "" ∧ y.name ≠ "" ∧ '.' ∉ y.name.toList) (h : x.render = y.render) :
    x = y := by
  have hparse := parse_render hx.1 hx.2.1 hx.2.2
  rw [h, parse_render hy.1 hy.2.1 hy.2.2] at hparse
  exact (Option.some.inj hparse).symm

/-- Why a qualified name names no type. -/
def parseError (q : String) : String :=
  "invalid type name " ++ Text.quote q ++ ": expected package.Type"

end TypeId

end EntityQuery
