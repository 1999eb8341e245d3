import EntityQuery.Compiled.Value
import EntityQuery.Universe.Select
import EntityQuery.Entity.Descriptor
import EntityQuery.Entity.Problem

/-!
# Reading and setting through a descriptor

An instance is a value together with its type; a missing type stands for no value at all.

Reading a field (the identifier, the attributes) follows the instance's pointers to a struct
(a nil pointer is an error, as is a value that is not a struct), then the field's index path;
a nil pointer to an embedded struct on the way, or a nil pointer in the field, reads as
nothing. The identifier is then written in default formatting, nothing being the empty text; the
formatting is that of a type without `Error` or `String` methods (`Value.display`), which default
formatting would call, and which no compiled sample type declares.

Setting the identifier needs a non-nil pointer. When the field has a setter and the pointer's
type has a `Set<Field>` method of one parameter, the identifier is converted to the parameter's
type and the method is called; otherwise the field is assigned directly through its index
path. The identifier converts to string kinds and to pointers to them. Descriptors read from
declarations have no index paths: both reading and assigning fail for them.
-/

set_option autoImplicit false

namespace EntityQuery

/-- A value with its type; no type for no value at all. -/
structure Instance where
  type : Option TypeExpr
  value : Value

/-- Why reading or setting through a descriptor failed. -/
inductive AccessError where
  | config (e : ConfigError)
  | failed (text : String)
  /-- The operation stopped the program. -/
  | panicked (text : String)

namespace AccessError

def message : AccessError → String
  | .config e => e.message
  | .failed text => text
  | .panicked text => text

end AccessError

/-- The error of a pointer that is nil or missing. -/
def notAddressable : String := "entity instance must be a non-nil pointer"

/-- The error of a call through a nil pointer. -/
def nilDereference : String := "runtime error: invalid memory address or nil pointer dereference"

namespace Universe

variable (u : Universe)

/-- Follow the pointers of an instance to the struct it holds. `what` names the operation in
errors. -/
def structOf (what : String) : Nat → TypeExpr → Value → Except AccessError (TypeExpr × Value)
  | 0, t, v => .ok (t, v)
  | fuel + 1, t, v =>
    match u.kindOf t with
    | .pointer =>
      match v with
      | .ptr x => structOf what fuel (u.elemOf t) x
      | _ => .error (.failed (what ++ ": " ++ notAddressable))
    | .struct => .ok (t, v)
    | k => .error (.failed (what ++ ": instance is a " ++ k.name))

/-- The value at an index path of a struct; `none` past a nil pointer to an embedded struct. -/
def fieldAt : Nat → TypeExpr → Value → List Nat → Option (TypeExpr × Value)
  | 0, _, _, _ => none
  | _ + 1, t, v, [] => some (t, v)
  | fuel + 1, t, v, i :: rest =>
    let ft := u.fieldType t i
    let fv := (v.field? i).getD (u.zeroOf ft)
    match rest with
    | [] => some (ft, fv)
    | _ =>
      if u.kindOf ft == .pointer && u.kindOf (u.elemOf ft) == .struct then
        match fv with
        | .ptr x => fieldAt fuel (u.elemOf ft) x rest
        | _ => none
      else fieldAt fuel ft fv rest

/-- Follow pointers of a field's value; `none` at a nil one. -/
def derefValue : Nat → TypeExpr → Value → Option (TypeExpr × Value)
  | 0, t, v => some (t, v)
  | fuel + 1, t, v =>
    if u.kindOf t == .pointer then
      match v with
      | .ptr x => derefValue fuel (u.elemOf t) x
      | _ => none
    else some (t, v)

/-- A bound on the steps through an instance of type `t`. -/
def stepsFor (t : TypeExpr) : Nat := t.size + u.weight + 8

/-- Read a field of an instance through the descriptor `d`. -/
def readField {K : Type} (d : Descriptor K) (f : Field) (inst : Instance) :
    Except AccessError (Option (TypeExpr × Value)) :=
  if f.index.isEmpty then
    .error (.config { entity := d.name, field := f.name, problem := .noRuntimeIndex })
  else
    let what := "read " ++ f.name ++ " of " ++ d.name
    match inst.type with
    | none => .error (.failed (what ++ ": instance is a " ++ Kind.invalid.name))
    | some t => do
      let n := u.stepsFor t
      let (st, sv) ← u.structOf what n t inst.value
      return (u.fieldAt n st sv f.index).bind fun (ft, fv) => u.derefValue n ft fv

/-- The identifier of an instance, in default formatting of a type without `Error` or `String`
methods; empty when nothing is there. -/
def readId {K : Type} (d : Descriptor K) (inst : Instance) : Except AccessError String :=
  match d.idField? with
  | none => .error (.config { entity := d.name, problem := .noIdentifier })
  | some f => do
    let r ← u.readField d f inst
    return (r.map fun p => p.2.display).getD ""

/-- The attributes map of an instance; `none` for a nil map. -/
def readAttributes {K : Type} (d : Descriptor K) (inst : Instance) :
    Except AccessError (Option (List (String × String))) :=
  match d.attributesField? with
  | none => .error (.config { entity := d.name, problem := .noAttributes })
  | some f => do
    match ← u.readField d f inst with
    | some (_, .dict es) => return some (es.map fun p => (p.1, p.2.display))
    | _ => return none

/-- The identifier as a value of type `t`. -/
def convertId (id : String) (t : TypeExpr) : Except String Value :=
  match u.kindOf t with
  | .basic .string => .ok (.text id)
  | .pointer =>
    if u.kindOf (u.elemOf t) == .basic .string then .ok (.ptr (.text id))
    else .error ("id of type " ++ u.compiledString (u.erase t) ++ " cannot hold a string")
  | _ => .error ("id of type " ++ u.compiledString (u.erase t) ++ " cannot hold a string")

/-- Apply `k` to the struct that the embedded fields at `path` lead to; a nil pointer on the
way stops with `stop`. -/
def alongPath (stop : TypeExpr → AccessError) :
    Nat → TypeExpr → Value → List Nat → (TypeExpr → Value → Except AccessError Value) →
    Except AccessError Value
  | 0, t, v, _, k => k t v
  | _ + 1, t, v, [], k => k t v
  | fuel + 1, t, v, i :: rest, k =>
    let ft := u.fieldType t i
    let fv := (v.field? i).getD (u.zeroOf ft)
    if u.kindOf ft == .pointer then
      match fv with
      | .ptr x => do
        let x' ← alongPath stop fuel (u.elemOf ft) x rest k
        return v.setField i (.ptr x')
      | _ => .error (stop (u.elemOf ft))
    else do
      let fv' ← alongPath stop fuel ft fv rest k
      return v.setField i fv'

/-- An index path split into the embedded fields leading to the struct that holds the field,
and the field's position there. -/
def splitLast : List Nat → Option (List Nat × Nat)
  | [] => none
  | [i] => some ([], i)
  | i :: rest => (splitLast rest).map fun (front, j) => (i :: front, j)

/-- Assign a string to the named field of a struct, through a new pointer when the field is
one. -/
def assignNamed (name s : String) (t : TypeExpr) (v : Value) : Except AccessError Value :=
  match (u.visibleField? t name).bind (splitLast ·.index) with
  | some (front, i) =>
    let n := u.stepsFor t
    u.alongPath (fun _ => .panicked nilDereference) n t v front fun st sv =>
      let ft := u.fieldType st i
      .ok (sv.setField i (if u.kindOf ft == .pointer then .ptr (.text s) else .text s))
  | none => .ok v

/-- Call a method found at `path` from the struct `v` of type `t` with argument `arg`. -/
def callMethod (t : TypeExpr) (v : Value) (m : Method) (path : List Nat) (arg : Value) :
    Except AccessError Value :=
  let n := u.stepsFor t
  let argText := match arg with
    | .text s => s
    | .ptr (.text s) => s
    | _ => ""
  let body (rt : TypeExpr) (rv : Value) : Except AccessError Value :=
    match m.body with
    | .assigns field pfx =>
      if m.pointerReceiver then u.assignNamed field (pfx ++ argText) rt rv else .ok rv
    | .panics => .error (.panicked "unreachable")
    | _ => .ok rv
  u.alongPath (fun _ => .panicked nilDereference) n t v path body

/-- Assign the identifier through the index path of the field. -/
def assignId (what : String) (id : String) (t : TypeExpr) (v : Value) (index : List Nat) :
    Except AccessError Value :=
  let n := u.stepsFor t
  let stop (e : TypeExpr) : AccessError :=
    .failed (what ++ ": reflect: indirection through nil pointer to embedded struct field " ++
      Universe.compiledName (u.erase e))
  match splitLast index with
  | none => .ok v
  | some (front, i) =>
    u.alongPath stop n t v front fun st sv => do
      let ft := u.fieldType st i
      match u.convertId id ft with
      | .error text => .error (.failed (what ++ ": " ++ text))
      | .ok x => return sv.setField i x

/-- Set the identifier of an instance through the descriptor `d`; the instance afterwards. -/
def writeId {K : Type} (d : Descriptor K) (inst : Instance) (id : String) :
    Except AccessError Instance :=
  match d.idField? with
  | none => .error (.config { entity := d.name, problem := .noIdentifier })
  | some f =>
    let what := "set id of " ++ d.name
    match inst.type, inst.value with
    | some t, .ptr x =>
      if u.kindOf t != .pointer then .error (.failed (what ++ ": " ++ notAddressable))
      else
        let e := u.elemOf t
        let setter := if f.hasSetter then u.method? t ("Set" ++ f.name) else none
        match setter.filter (fun s => s.2.1.params.length == 1) with
        | some (_, m, path) =>
          match u.convertId id (m.params.headD .interface) with
          | .error text => .error (.failed (what ++ ": " ++ text))
          | .ok arg => do
            let x' ← u.callMethod e x m path arg
            return { inst with value := .ptr x' }
        | none =>
          if f.index.isEmpty then
            .error (.config { entity := d.name, field := f.name, problem := .noRuntimeIndex })
          else if u.kindOf e != .struct then
            let op := if f.index.length == 1 then "Field" else "FieldByIndexErr"
            .error (.panicked ("reflect: call of reflect.Value." ++ op ++ " on " ++
              (u.kindOf e).name ++ " Value"))
          else do
            let x' ← u.assignId what id e x f.index
            return { inst with value := .ptr x' }
    | _, _ => .error (.failed (what ++ ": " ++ notAddressable))

end Universe

end EntityQuery
