import EntityQuery.Compiled.Visible
import EntityQuery.Number.Format

/-!
# Values

Values of compiled types, kept as far as reading and setting identifiers and attributes needs:
strings, integers, doubles and booleans; nil; pointers to values; structs (and arrays) as the
positions that were set, every other position holding the zero value of its type; maps with
string keys.

Loose data (as a request carries it) becomes a value of a given type the way a decoder fills a
field: strings into string kinds, numbers into number kinds, booleans into booleans, objects
into maps, through pointers that are allocated on the way, and anything into an interface
(numbers written without a fraction that fit in 64 bits as integers, other numbers as
doubles). Other combinations leave the zero value.

`Value.display` writes a value the way default formatting prints it: doubles in their shortest
form, nil as `<nil>`. Default formatting calls a value's `Error` method, or else its `String`
method, when its type has one; `display` writes the value itself, as default formatting does for
every type without them. The compiled sample types, the ones read here, declare neither.
-/

set_option autoImplicit false

namespace EntityQuery

open Number

/-- Loose data: null, booleans, decimal numbers (`mantissa / 10 ^ exponent`), strings and
objects. -/
inductive Datum where
  | null
  | bool (b : Bool)
  | number (mantissa : Int) (exponent : Nat)
  | text (s : String)
  | object (entries : List (String × Datum))
deriving Inhabited

/-- A value of a compiled type. -/
inductive Value where
  | text (s : String)
  | int (n : Int)
  | float (x : Binary64)
  | bool (b : Bool)
  /-- A nil pointer, map, slice or interface. -/
  | nil
  /-- A pointer to a value. -/
  | ptr (target : Value)
  /-- A struct or array: the positions set, the others hold their zero value. -/
  | record (fields : List (Nat × Value))
  /-- A map with string keys. -/
  | dict (entries : List (String × Value))
deriving Inhabited

namespace Value

/-- The value at a position of a struct. -/
def field? (v : Value) (i : Nat) : Option Value :=
  match v with
  | .record fs => fs.lookup i
  | _ => none

/-- The struct with the value at a position replaced. -/
def setField (v : Value) (i : Nat) (x : Value) : Value :=
  match v with
  | .record fs => .record (fs.filter (·.1 != i) ++ [(i, x)])
  | _ => .record [(i, x)]

/-- The value as default formatting prints it when its type has no `Error` or `String` method,
which default formatting would call instead. -/
def display : Value → String
  | .text s => s
  | .int n => toString n
  | .float x => x.format
  | .bool b => if b then "true" else "false"
  | .nil => "<nil>"
  | _ => ""

end Value

/-- A whole number within 64 bits. -/
def Datum.wholeValue? (mantissa : Int) (exponent : Nat) : Option Int :=
  let scale : Int := Int.pow 10 exponent
  if mantissa % scale == 0 && -Int.pow 2 63 ≤ mantissa / scale && mantissa / scale < Int.pow 2 63 then
    some (mantissa / scale)
  else none

/-- A number as a value of an interface: an integer when it is written without a fraction and
lies within 64 bits, a double otherwise. -/
def Datum.numberValue (mantissa : Int) (exponent : Nat) : Value :=
  match exponent, Datum.wholeValue? mantissa exponent with
  | 0, some n => .int n
  | _, _ => .float (Binary64.ofDecimal (mantissa < 0) mantissa.natAbs (-(exponent : Int)))

mutual

/-- Loose data as the value of an interface. -/
def Datum.loose : Datum → Value
  | .null => .nil
  | .bool b => .bool b
  | .number m e => Datum.numberValue m e
  | .text s => .text s
  | .object es => .dict (Datum.looseEntries es)

def Datum.looseEntries : List (String × Datum) → List (String × Value)
  | [] => []
  | (k, d) :: rest => (k, d.loose) :: Datum.looseEntries rest

end

namespace Universe

variable (u : Universe)

/-- The zero value of a type. -/
def zeroOf (t : TypeExpr) : Value :=
  match u.kindOf t with
  | .basic b =>
    if b.isString then .text ""
    else if b.isBoolean then .bool false
    else if b.isFloat then .float (.finite false 0 0)
    else .int 0
  | .struct | .array => .record []
  | _ => .nil

/-- The type of the field at a position of a struct type. -/
def fieldType (t : TypeExpr) (i : Nat) : TypeExpr :=
  (((u.structFields? t).getD [])[i]?.map (·.type)).getD .interface

/-- The element type, for types that have one. -/
def elemOf (t : TypeExpr) : TypeExpr := (u.elem? t).getD .interface

/-- Loose data as a value of a type, at most `fuel` levels deep. -/
def decode : Nat → TypeExpr → Datum → Value
  | 0, t, _ => u.zeroOf t
  | fuel + 1, t, d =>
    match u.kindOf t, d with
    | .pointer, .null => .nil
    | .pointer, d => .ptr (decode fuel (u.elemOf t) d)
    | .interface, d => d.loose
    | .map, .null => .nil
    | .map, .object es => .dict (es.map fun p => (p.1, decode fuel (u.elemOf t) p.2))
    | .basic b, .text s => if b.isString then .text s else u.zeroOf t
    | .basic b, .bool x => if b.isBoolean then .bool x else u.zeroOf t
    | .basic b, .number m e =>
      if b.isInteger then
        match Datum.wholeValue? m e with
        | some n => .int n
        | none => u.zeroOf t
      else if b.isFloat then .float (Binary64.ofDecimal (m < 0) m.natAbs (-(e : Int)))
      else u.zeroOf t
    | _, _ => u.zeroOf t

mutual

/-- Set the field that a path of field names leads to in a value of type `t`, allocating
pointers on the way. -/
def assignPath : Nat → TypeExpr → Value → List String → Datum → Value
  | 0, _, v, _, _ => v
  | fuel + 1, t, v, names, d =>
    match names with
    | [] => u.decode (fuel + 1) t d
    | n :: rest =>
      if u.kindOf t == .pointer then
        let e := u.elemOf t
        let inner := match v with
          | .ptr x => x
          | _ => u.zeroOf e
        .ptr (assignPath fuel e inner names d)
      else
        match u.visibleField? t n with
        | some f => assignIndex fuel t v f.index rest d
        | none => v

/-- Follow the positions of an index path from a struct value, then the remaining names. -/
def assignIndex : Nat → TypeExpr → Value → List Nat → List String → Datum → Value
  | 0, _, v, _, _, _ => v
  | fuel + 1, t, v, index, names, d =>
    match index with
    | [] => assignPath fuel t v names d
    | i :: more =>
      let ft := u.fieldType t i
      let fv := (v.field? i).getD (u.zeroOf ft)
      let fv' :=
        if more.isEmpty then assignPath fuel ft fv names d
        else if u.kindOf ft == .pointer then
          let e := u.elemOf ft
          let inner := match fv with
            | .ptr x => x
            | _ => u.zeroOf e
          .ptr (assignIndex fuel e inner more names d)
        else assignIndex fuel ft fv more names d
      v.setField i fv'

end

/-- A new value of type `t` with the fields at the given dotted paths set. -/
def build (t : TypeExpr) (sets : List (String × Datum)) : Value :=
  sets.foldl (fun v p =>
    u.assignPath (t.size + u.weight + p.1.length + 8) t v (p.1.splitOn ".") p.2) (u.zeroOf t)

end Universe

end EntityQuery
