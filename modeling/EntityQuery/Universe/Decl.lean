import EntityQuery.Universe.Type
import EntityQuery.Text.Case

/-!
# Declarations

A package has a path, a name, and named type declarations. A declaration gives a name, the
type parameters of a generic type, the type it declares (for a struct type, its struct; for an
alias, the aliased type) and the methods declared on it.

Method bodies are kept only as far as the library reads them: a single `return` of some
expressions (string literals, literals joined by `+`, package constants, package variables,
integer literals), a local variable returned, an assignment of the argument with a prefix to a
receiver field, a panic, or nothing.

Names written in a declaration are resolved the usual way: a type parameter of the declaration,
else a type declared by its package, else a predeclared type. A package is also known by a
name; by default the last element of its path, with every character other than an ASCII letter,
digit or underscore replaced by `_`, and `p` put in front of a name that is empty or starts
with a digit.
-/

set_option autoImplicit false

namespace EntityQuery

/-- A declared name is exported when it starts with an upper-case letter. -/
def isExported (name : String) : Bool :=
  match name.toList with
  | c :: _ => Text.isUpper c
  | [] => false

/-- An expression a method body returns. -/
inductive ResultExpr where
  /-- A string literal. -/
  | text (s : String)
  /-- String literals joined by `+`: a constant. -/
  | concat (parts : List String)
  /-- A package constant with this string value. -/
  | constant (value : String)
  /-- A package variable holding this string: not a constant. -/
  | variable (value : String)
  /-- An integer literal. -/
  | number (n : Int)
deriving DecidableEq, Repr

namespace ResultExpr

/-- The string constant an expression is, if it is one. -/
def stringConstant? : ResultExpr → Option String
  | .text s => some s
  | .concat parts => some (String.join parts)
  | .constant v => some v
  | _ => none

/-- The string an expression evaluates to when it is one. -/
def stringValue? : ResultExpr → Option String
  | .variable v => some v
  | e => e.stringConstant?

end ResultExpr

/-- What a method body does. -/
inductive MethodBody where
  /-- A single `return` statement with these results. -/
  | returns (results : List ResultExpr)
  /-- A string put in a local variable, then returned: two statements. -/
  | returnsLocal (value : String)
  /-- Assigns the prefix followed by the argument (the string it points to, for a pointer) to
  a field of the receiver, through a new pointer when the field is one. -/
  | assigns (field : String) (pfx : String)
  | panics
  | empty
deriving DecidableEq, Repr

/-- A method declared on a named type. Parameter and result types are resolved in the scope
of the receiver's declaration. -/
structure Method where
  name : String
  pointerReceiver : Bool := false
  params : List TypeExpr := []
  results : List TypeExpr := []
  body : MethodBody := .empty

/-- The string constant a method's body returns, when the body is a single `return` of one
string constant. -/
def Method.constantResult? (m : Method) : Option String :=
  match m.body with
  | .returns [e] => e.stringConstant?
  | _ => none

/-- What a method of no parameters returns when it is called: the string its body returns. -/
def Method.callResult (m : Method) : String :=
  match m.body with
  | .returns [e] => e.stringValue?.getD ""
  | .returnsLocal v => v
  | _ => ""

/-- A named type declaration. -/
structure TypeDecl where
  name : String
  /-- Type parameters, each constrained by `any`. -/
  params : List String := []
  isAlias : Bool := false
  /-- The declared type: the struct of a struct declaration, the aliased type of an alias. -/
  type : TypeExpr
  methods : List Method := []

/-- A package of declarations. -/
structure Package where
  path : String
  name : String
  decls : List TypeDecl
  /-- Compiled for others to use, but not one of the packages registered for reading. -/
  hidden : Bool := false

namespace Package

/-- The package name a path suggests. -/
def defaultName (path : String) : String :=
  let last := (path.splitOn "/").getLast?.getD ""
  let cs := last.toList.map fun c => if c.isAlphanum || c == '_' then c else '_'
  match cs with
  | [] => "p"
  | c :: _ => if c.isDigit then "p" ++ String.ofList cs else String.ofList cs

def decl? (p : Package) (name : String) : Option TypeDecl := p.decls.find? (·.name == name)

end Package

/-- A set of packages that may refer to each other's types. -/
structure Universe where
  packages : List Package

namespace Universe

variable (u : Universe)

def package? (path : String) : Option Package := u.packages.find? (·.path == path)

/-- The packages registered for reading, in order. -/
def registered : List Package := u.packages.filter (!·.hidden)

/-- The declarations of the predeclared scope that are not basic types. -/
def predeclared : List TypeDecl :=
  [{ name := "error", type := .interface },
   { name := "any", isAlias := true, type := .interface }]

/-- The declaration of a named type. -/
def decl? (pkg name : String) : Option TypeDecl :=
  if pkg == "" then (predeclared.find? (·.name == name))
  else (u.package? pkg).bind (·.decl? name)

/-- The type a name written in package `pkg` denotes, inside a declaration with the given
type parameters. -/
def resolveName (pkg : String) (params : List String) (name : String) : TypeExpr :=
  if params.contains name then .param name
  else if ((u.package? pkg).bind (·.decl? name)).isSome then .plain pkg name
  else if name == "any" then .any
  else if name == "error" then .error
  else match BasicType.ofName? name with
    | some b => .basic b
    | none => .plain pkg name

/-- The number of declarations, plus the predeclared ones. -/
def declCount : Nat := (u.packages.map (·.decls.length)).foldr (· + ·) 0 + predeclared.length

/-- The total size of the declared types: with the number of declarations, a bound on how
far types unfold. -/
def weight : Nat :=
  u.declCount + (u.packages.map fun p => (p.decls.map (·.type.size)).foldr (· + ·) 0).foldr (· + ·) 0 + 1

end Universe

end EntityQuery
