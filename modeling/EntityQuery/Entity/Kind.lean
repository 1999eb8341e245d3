/-!
# Field kinds

How a field holds its value: a scalar (text, number, flag, map, an opaque value), a fixed-size
array, a collection, or one nested record. Arrays and collections are multi-valued: a
relationship through one of them is queried as a sub-select. Kinds are numbered 0 to 3 in that
order; any other number is an unknown kind, which is neither scalar nor multi-valued.
-/

set_option autoImplicit false

namespace EntityQuery

/-- How a field holds its value. -/
inductive FieldKind where
  | scalar
  | array
  | collection
  | nested
  /-- A kind number outside the four known kinds. -/
  | unknown (code : Int) (outside : code < 0 ∨ 3 < code)
deriving DecidableEq, Repr

namespace FieldKind

/-- The kind with a given number. -/
def ofCode (n : Int) : FieldKind :=
  if h : n < 0 ∨ 3 < n then .unknown n h
  else if n = 0 then .scalar
  else if n = 1 then .array
  else if n = 2 then .collection
  else .nested

/-- The number of a kind. -/
def code : FieldKind → Int
  | .scalar => 0
  | .array => 1
  | .collection => 2
  | .nested => 3
  | .unknown n _ => n

/-- The name of a kind as it is shown. -/
def text : FieldKind → String
  | .scalar => "scalar"
  | .array => "array"
  | .collection => "collection"
  | .nested => "nested"
  | .unknown _ _ => "unknown"

/-- Arrays and collections hold many values. -/
def isMultiValued : FieldKind → Bool
  | .array | .collection => true
  | _ => false

/-- The kind of a given name (the names that `text` shows for the four known kinds). -/
def ofName? : String → Option FieldKind
  | "scalar" => some .scalar
  | "array" => some .array
  | "collection" => some .collection
  | "nested" => some .nested
  | _ => none

@[simp] theorem ofCode_code (k : FieldKind) : ofCode k.code = k := by
  cases k with
  | unknown n h => simp [code, ofCode, h]
  | _ => simp [code, ofCode]

@[simp] theorem code_ofCode (n : Int) : (ofCode n).code = n := by
  unfold ofCode
  split
  · rfl
  · repeat' split
    all_goals simp [code]; omega

end FieldKind

end EntityQuery
