/-!
# Field namers

A field namer chooses the wire name of a field from the name of the type that owns it, the
field's own name, and the name its tag declares (empty when the tag declares none). The
default namer takes the declared name when there is one and the field's name otherwise.
-/

set_option autoImplicit false

namespace EntityQuery

/-- Chooses a field's wire name from its owner's type name, its name and its tagged name. -/
abbrev FieldNamer := String → String → String → String

namespace FieldNamer

/-- The tagged name, else the field's name. -/
def byDefault : FieldNamer := fun _ field tagged => if tagged != "" then tagged else field

end FieldNamer

end EntityQuery
