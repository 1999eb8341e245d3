/-!
# Types of a universe of declarations

A universe is a set of packages that declare named types. A type is built from predeclared
basic types, named types (a declared type or alias of a package, applied to type arguments
when it is generic), type parameters, and the composite forms: pointers, slices, arrays, maps,
channels, the function type `func()`, the empty interface and struct types.

Two predeclared names are not basic: `error`, a defined interface, and `any`, an alias of
the empty interface. They are named types of the package with the empty path.

The argument lists of instances and the fields of struct types are written out as their own
inductive types, so that equality of types is decided structurally: two types are equal when
they are written the same way, which is what the identity of a named instance (its package,
name and written arguments) asks for.
-/

set_option autoImplicit false

namespace EntityQuery

/-- The predeclared basic types. `byte` and `rune` are other names of `uint8` and `int32`,
kept apart because types are shown under the name they were written with. -/
inductive BasicType where
  | bool | string
  | int | int8 | int16 | int32 | int64
  | uint | uint8 | uint16 | uint32 | uint64 | uintptr
  | float32 | float64 | complex64 | complex128
  | byte | rune
  /-- The untyped pointer of the `unsafe` package. -/
  | unsafePointer
deriving DecidableEq, Repr

namespace BasicType

/-- Every basic type, in declaration order. -/
def all : List BasicType :=
  [.bool, .string, .int, .int8, .int16, .int32, .int64, .uint, .uint8, .uint16, .uint32,
   .uint64, .uintptr, .float32, .float64, .complex64, .complex128, .byte, .rune, .unsafePointer]

/-- The name a declaration uses for the type. -/
def name : BasicType → String
  | .bool => "bool" | .string => "string"
  | .int => "int" | .int8 => "int8" | .int16 => "int16" | .int32 => "int32" | .int64 => "int64"
  | .uint => "uint" | .uint8 => "uint8" | .uint16 => "uint16" | .uint32 => "uint32"
  | .uint64 => "uint64" | .uintptr => "uintptr"
  | .float32 => "float32" | .float64 => "float64"
  | .complex64 => "complex64" | .complex128 => "complex128"
  | .byte => "byte" | .rune => "rune"
  | .unsafePointer => "unsafe.Pointer"

/-- The basic type a name denotes. -/
def ofName? (n : String) : Option BasicType := all.find? (·.name == n)

/-- The type itself, with `byte` and `rune` replaced by what they stand for. -/
def kind : BasicType → BasicType
  | .byte => .uint8
  | .rune => .int32
  | b => b

def isBoolean (b : BasicType) : Bool := b.kind == .bool

def isString (b : BasicType) : Bool := b.kind == .string

def isInteger (b : BasicType) : Bool :=
  [BasicType.int, .int8, .int16, .int32, .int64, .uint, .uint8, .uint16, .uint32, .uint64,
   .uintptr].contains b.kind

def isFloat (b : BasicType) : Bool := b.kind == .float32 || b.kind == .float64

/-- Booleans, integers, floats and strings: the basic types a field may hold. -/
def isOrdinary (b : BasicType) : Bool := b.isBoolean || b.isInteger || b.isFloat || b.isString

end BasicType

mutual

/-- A type of a universe. -/
inductive TypeExpr where
  | basic (b : BasicType)
  /-- A declared type or alias of the package with the given path, with its type arguments
  (none for a type that is not generic, or a generic type not instantiated). -/
  | named (pkg name : String) (args : TypeArgs)
  /-- A type parameter of the enclosing generic declaration. -/
  | param (name : String)
  | pointer (elem : TypeExpr)
  | slice (elem : TypeExpr)
  | array (length : Nat) (elem : TypeExpr)
  | map (key value : TypeExpr)
  | chan (elem : TypeExpr)
  /-- The function type without parameters or results. -/
  | func
  /-- The interface without methods. -/
  | interface
  | struct (fields : Members)

/-- The type arguments of an instance, in order. -/
inductive TypeArgs where
  | nil
  | cons (head : TypeExpr) (tail : TypeArgs)

/-- The fields of a struct type, in order. An embedded field is named after its type. -/
inductive Members where
  | nil
  | cons (name : String) (type : TypeExpr) (tag : String) (embedded : Bool) (tail : Members)

end

deriving instance DecidableEq for TypeExpr, TypeArgs, Members

instance : Inhabited TypeExpr := ⟨.interface⟩

/-- One field of a struct type. -/
structure Member where
  name : String
  type : TypeExpr
  /-- The field's tag, `key:"value"` pairs; empty for none. -/
  tag : String := ""
  embedded : Bool := false
deriving DecidableEq, Inhabited

namespace TypeArgs

def toList : TypeArgs → List TypeExpr
  | .nil => []
  | .cons t rest => t :: rest.toList

def ofList : List TypeExpr → TypeArgs
  | [] => .nil
  | t :: ts => .cons t (ofList ts)

@[simp] theorem toList_ofList (ts : List TypeExpr) : (ofList ts).toList = ts := by
  induction ts with
  | nil => rfl
  | cons t ts ih => simp [ofList, toList, ih]

end TypeArgs

namespace Members

def toList : Members → List Member
  | .nil => []
  | .cons n t g e rest => ⟨n, t, g, e⟩ :: rest.toList

def ofList : List Member → Members
  | [] => .nil
  | m :: ms => .cons m.name m.type m.tag m.embedded (ofList ms)

@[simp] theorem toList_ofList (ms : List Member) : (ofList ms).toList = ms := by
  induction ms with
  | nil => rfl
  | cons m ms ih => simp [ofList, toList, ih]

end Members

namespace TypeExpr

/-- The predeclared `error` interface. -/
def error : TypeExpr := .named "" "error" .nil

/-- The predeclared alias `any` of the empty interface. -/
def any : TypeExpr := .named "" "any" .nil

/-- The name of a field that embeds the type: the type's name without package or arguments,
through a pointer. -/
def embeddedName : TypeExpr → String
  | .named _ n _ => n
  | .pointer e => embeddedName e
  | .basic b => ((b.name.splitOn ".").getLast?).getD b.name
  | .param n => n
  | _ => ""

/-- A named type without arguments. -/
def plain (pkg name : String) : TypeExpr := .named pkg name .nil

mutual

/-- Replace type parameters by the types a substitution gives them; parameters it does not
mention stay. -/
def subst (σ : List (String × TypeExpr)) : TypeExpr → TypeExpr
  | .named p n args => .named p n (substArgs σ args)
  | .param n => (σ.lookup n).getD (.param n)
  | .pointer e => .pointer (subst σ e)
  | .slice e => .slice (subst σ e)
  | .array k e => .array k (subst σ e)
  | .map k v => .map (subst σ k) (subst σ v)
  | .chan e => .chan (subst σ e)
  | .struct fs => .struct (substMembers σ fs)
  | t => t

def substArgs (σ : List (String × TypeExpr)) : TypeArgs → TypeArgs
  | .nil => .nil
  | .cons t rest => .cons (subst σ t) (substArgs σ rest)

def substMembers (σ : List (String × TypeExpr)) : Members → Members
  | .nil => .nil
  | .cons n t g e rest => .cons n (subst σ t) g e (substMembers σ rest)

end

mutual

/-- The number of constructors in a type, a measure for recursions over it. -/
def size : TypeExpr → Nat
  | .named _ _ args => 1 + argsSize args
  | .pointer e | .slice e | .array _ e | .chan e => 1 + size e
  | .map k v => 1 + size k + size v
  | .struct fs => 1 + membersSize fs
  | _ => 1

def argsSize : TypeArgs → Nat
  | .nil => 0
  | .cons t rest => size t + argsSize rest

def membersSize : Members → Nat
  | .nil => 0
  | .cons _ t _ _ rest => size t + membersSize rest

end

theorem size_pos (t : TypeExpr) : 0 < t.size := by
  cases t <;> simp only [size] <;> omega

mutual

theorem subst_nil : (t : TypeExpr) → subst [] t = t
  | .basic _ | .func | .interface | .param _ => rfl
  | .named p n args => by simp only [subst, substArgs_nil args]
  | .pointer e => by simp only [subst, subst_nil e]
  | .slice e => by simp only [subst, subst_nil e]
  | .array k e => by simp only [subst, subst_nil e]
  | .chan e => by simp only [subst, subst_nil e]
  | .map k v => by simp only [subst, subst_nil k, subst_nil v]
  | .struct fs => by simp only [subst, substMembers_nil fs]

theorem substArgs_nil : (args : TypeArgs) → substArgs [] args = args
  | .nil => rfl
  | .cons t rest => by simp only [substArgs, subst_nil t, substArgs_nil rest]

theorem substMembers_nil : (fs : Members) → substMembers [] fs = fs
  | .nil => rfl
  | .cons n t g e rest => by simp only [substMembers, subst_nil t, substMembers_nil rest]

end

end TypeExpr

/-- Names the predeclared scope gives a meaning: types, constants and built-in functions. -/
def predeclaredNames : List String :=
  BasicType.all.filter (· != .unsafePointer) |>.map BasicType.name |>.append
    ["any", "comparable", "error", "true", "false", "iota", "nil", "append", "cap", "clear",
     "close", "complex", "copy", "delete", "imag", "len", "make", "max", "min", "new", "panic",
     "print", "println", "real", "recover"]

end EntityQuery
