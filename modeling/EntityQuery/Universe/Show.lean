import EntityQuery.Universe.Underlying
import EntityQuery.Text.Quoted
import EntityQuery.Universe.TypeId

/-!
# Writing types

Two ways of writing a type.

As declared (`typeString`): named types carry their package path (`acme/crm.Account`), type
arguments follow in brackets separated by commas (`Box[int]`), and a generic type that is not
instantiated lists its parameters with their constraint (`Pair[K, V any]`). Aliases are written
under their own name, `byte` and `rune` too. A type parameter that has the name of a
predeclared object is marked as a parameter. Struct types list their fields separated by
`; `, each with its quoted tag.

As the compiled program writes it (`compiledString`): aliases are gone (`byte` is `uint8`, `any`
the empty interface), a named type is prefixed with its package's name instead of its path
(`fixtures.Bad`), and the type arguments inside its name (`compiledName`) are written with
full package paths. Composite types are spaced the compiled way (`interface {}`,
`struct { X int }`).
-/

set_option autoImplicit false

namespace EntityQuery

namespace Universe

variable (u : Universe)

/-- `path.Name`, or the bare name in the predeclared scope. -/
def qualify (pkg name : String) : String := if pkg == "" then name else pkg ++ "." ++ name

/-- The parameter list of a generic declaration: each parameter is constrained by `any`. -/
def paramList (params : List String) : String := "[" ++ ", ".intercalate params ++ " any]"

mutual

/-- A type written as declared. -/
def typeString : TypeExpr → String
  | .basic b => b.name
  | .named p n args =>
    qualify p n ++
      match args with
      | .nil =>
        match u.decl? p n with
        | some d => if d.params.isEmpty then "" else paramList d.params
        | none => ""
      | args => "[" ++ ",".intercalate (argStrings args) ++ "]"
  | .param n => if predeclaredNames.contains n then n ++ "/* type parameter */" else n
  | .pointer e => "*" ++ typeString e
  | .slice e => "[]" ++ typeString e
  | .array k e => "[" ++ toString k ++ "]" ++ typeString e
  | .map k v => "map[" ++ typeString k ++ "]" ++ typeString v
  | .chan e => "chan " ++ typeString e
  | .func => "func()"
  | .interface => "interface\x7b\x7d"
  | .struct fs => "struct\x7b" ++ "; ".intercalate (memberStrings fs) ++ "\x7d"

def argStrings : TypeArgs → List String
  | .nil => []
  | .cons t rest => typeString t :: argStrings rest

def memberStrings : Members → List String
  | .nil => []
  | .cons n t g e rest =>
    ((if e then "" else n ++ " ") ++ typeString t ++ (if g == "" then "" else " " ++ Text.quote g))
      :: memberStrings rest

end

/-- The identity of a named type: its package path and its name, followed by its type
arguments written as declared. -/
def typeIdOf (pkg name : String) (args : TypeArgs) : TypeId :=
  match args with
  | .nil => ⟨pkg, name⟩
  | args => ⟨pkg, name ++ "[" ++ ",".intercalate (u.argStrings args) ++ "]"⟩

mutual

/-- The type with every alias unfolded, at most `fuel` levels deep. -/
def eraseWith : Nat → TypeExpr → TypeExpr
  | 0, t => t
  | fuel + 1, .named p n args =>
    match u.expand? p n args with
    | some (d, body) => if d.isAlias then eraseWith fuel body else .named p n (eraseArgsWith fuel args)
    | none => .named p n (eraseArgsWith fuel args)
  | fuel + 1, .pointer e => .pointer (eraseWith fuel e)
  | fuel + 1, .slice e => .slice (eraseWith fuel e)
  | fuel + 1, .array k e => .array k (eraseWith fuel e)
  | fuel + 1, .map k v => .map (eraseWith fuel k) (eraseWith fuel v)
  | fuel + 1, .chan e => .chan (eraseWith fuel e)
  | fuel + 1, .struct fs => .struct (eraseMembersWith fuel fs)
  | _ + 1, t => t

def eraseArgsWith : Nat → TypeArgs → TypeArgs
  | 0, args => args
  | _ + 1, .nil => .nil
  | fuel + 1, .cons t rest => .cons (eraseWith fuel t) (eraseArgsWith fuel rest)

def eraseMembersWith : Nat → Members → Members
  | 0, fs => fs
  | _ + 1, .nil => .nil
  | fuel + 1, .cons n t g e rest => .cons n (eraseWith fuel t) g e (eraseMembersWith fuel rest)

end

/-- The type as it exists in a compiled program: without aliases. -/
def erase (t : TypeExpr) : TypeExpr := u.eraseWith (u.unfoldLimit t) t

/-- The name a compiled basic type is written with. -/
def compiledBasicName (b : BasicType) : String := b.kind.name

/-- `struct { A; B }`, `struct {}` without fields. -/
def structString (fields : List String) : String :=
  if fields.isEmpty then "struct \x7b\x7d" else "struct \x7b " ++ "; ".intercalate fields ++ " \x7d"

/-- A struct field as the compiled program writes it. -/
def memberText (name typeText tag : String) (embedded : Bool) : String :=
  (if embedded then "" else name ++ " ") ++ typeText ++ (if tag == "" then "" else " " ++ Text.quote tag)

mutual

/-- A type without aliases, with full package paths: how type arguments are written inside a
compiled instance's name. -/
def fullString : TypeExpr → String
  | .basic b => compiledBasicName b
  | .named p n args => qualify p n ++ fullArgs args
  | .param n => n
  | .pointer e => "*" ++ fullString e
  | .slice e => "[]" ++ fullString e
  | .array k e => "[" ++ toString k ++ "]" ++ fullString e
  | .map k v => "map[" ++ fullString k ++ "]" ++ fullString v
  | .chan e => "chan " ++ fullString e
  | .func => "func()"
  | .interface => "interface \x7b\x7d"
  | .struct fs => structString (fullMembers fs)

/-- `[A,B]` after an instance's name, nothing without arguments. -/
def fullArgs : TypeArgs → String
  | .nil => ""
  | args => "[" ++ ",".intercalate (fullArgList args) ++ "]"

def fullArgList : TypeArgs → List String
  | .nil => []
  | .cons t rest => fullString t :: fullArgList rest

def fullMembers : Members → List String
  | .nil => []
  | .cons n t g e rest => memberText n (fullString t) g e :: fullMembers rest

end

/-- The name of a package, or its path when the universe does not have it. -/
def packageName (path : String) : String := ((u.package? path).map (·.name)).getD path

mutual

/-- A type without aliases as the compiled program writes it. -/
def compiledString : TypeExpr → String
  | .basic b => compiledBasicName b
  | .named p n args => (if p == "" then n else u.packageName p ++ "." ++ n) ++ fullArgs args
  | .param n => n
  | .pointer e => "*" ++ compiledString e
  | .slice e => "[]" ++ compiledString e
  | .array k e => "[" ++ toString k ++ "]" ++ compiledString e
  | .map k v => "map[" ++ compiledString k ++ "]" ++ compiledString v
  | .chan e => "chan " ++ compiledString e
  | .func => "func()"
  | .interface => "interface \x7b\x7d"
  | .struct fs => structString (compiledMembers fs)

def compiledMembers : Members → List String
  | .nil => []
  | .cons n t g e rest => memberText n (compiledString t) g e :: compiledMembers rest

end

/-- The name of a compiled named type (its arguments included), empty for other types. -/
def compiledName : TypeExpr → String
  | .named _ n args => n ++ fullArgs args
  | _ => ""

end Universe

end EntityQuery
