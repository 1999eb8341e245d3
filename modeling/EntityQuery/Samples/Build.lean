import EntityQuery.Universe.Decl

/-!
# Writing sample declarations

Short forms for declaring sample types: fields with and without tags, embedded fields (named
after their type), struct and defined types, and the two kinds of methods the mapping reads,
`EntityName` returning a constant and setters assigning their argument with a prefix.
-/

set_option autoImplicit false

namespace EntityQuery.Samples

def str : TypeExpr := .basic .string
def int : TypeExpr := .basic .int

/-- The tag `soql:"v"`. -/
def soql (v : String) : String := "soql:\"" ++ v ++ "\""

/-- The tag `json:"v"`. -/
def json (v : String) : String := "json:\"" ++ v ++ "\""

/-- The identifier tag `soql:"Id,id"`. -/
def idTag : String := soql "Id,id"

/-- A field with a tag. -/
def tagged (name : String) (t : TypeExpr) (tag : String) : Member := { name, type := t, tag }

/-- A field without a tag. -/
def plain (name : String) (t : TypeExpr) : Member := { name, type := t }

/-- An embedded field. -/
def embed (t : TypeExpr) : Member := { name := t.embeddedName, type := t, embedded := true }

/-- A struct type declaration. -/
def structDecl (name : String) (ms : List Member) (methods : List Method) : TypeDecl :=
  { name, type := .struct (Members.ofList ms), methods }

/-- A struct type declaration whose first field is the identifier `ID`. -/
def withId (name : String) (ms : List Member) (methods : List Method) : TypeDecl :=
  structDecl name (tagged "ID" str idTag :: ms) methods

/-- A defined type `type name t`. -/
def defined (name : String) (t : TypeExpr) : TypeDecl := { name, type := t }

/-- `func (T) EntityName() string { return "value" }`, on a pointer receiver when `ptr`. -/
def nameMethod (value : String) (ptr : Bool) : Method :=
  { name := "EntityName", pointerReceiver := ptr, results := [str], body := .returns [.text value] }

/-- A method on a pointer receiver that assigns `pfx` and its argument to a field. -/
def setMethod (name : String) (params : List TypeExpr) (field pfx : String) : Method :=
  { name, pointerReceiver := true, params, body := .assigns field pfx }

end EntityQuery.Samples
