/-!
# Mapping problems

Why a type cannot be mapped or a descriptor cannot serve a request. A `ConfigError` names the
entity (the type being read, or the descriptor's entity name), the field when the problem is one
field's, and the problem. Its message is `entity <T>: <reason>` or
`entity <T>: field <F>: <reason>`.
-/

set_option autoImplicit false

namespace EntityQuery

/-- What is wrong with a type or a descriptor. -/
inductive Problem where
  /-- A field of a run-time kind that no entity field can have. -/
  | unmappableKind (kind : String)
  /-- A field of a declared type that no entity field can have. -/
  | unmappableType (type : String)
  /-- A field holds a struct type without a name. -/
  | anonymousStruct
  /-- The entity has no identifier field. -/
  | noIdentifier
  /-- The entity has no attributes field. -/
  | noAttributes
  /-- The descriptor was read from declarations and knows no field positions. -/
  | noRuntimeIndex
  /-- The identifier field cannot be assigned. -/
  | notSettable
  /-- A reason that an introspector states in its own words. -/
  | stated (reason : String)
  /-- The new entities of one request nest deeper than the introspector's reach. The
  introspectors over types reach as deep as a run's stack holds, so for them this is a request
  the library itself never returns from. -/
  | tooDeep
  /-- Reading the type never ends: a field's type contains itself through its elements (a slice
  or an array of itself), or a struct embeds itself, so the reading follows element after element,
  or embedded struct after embedded struct. -/
  | endless
deriving DecidableEq, Repr

/-- The wording of a problem. -/
def Problem.reason : Problem → String
  | .unmappableKind k => "cannot map a field of kind " ++ k
  | .unmappableType t => "cannot map a field of type " ++ t
  | .anonymousStruct => "anonymous struct types cannot be entities"
  | .noIdentifier => "entity does not have an id field"
  | .noAttributes => "entity does not have an attributes field"
  | .noRuntimeIndex => "descriptor has no runtime field index"
  | .notSettable => "id field is not settable"
  | .stated r => r
  | .tooDeep => "relationships nest deeper than the introspector reaches"
  | .endless => "the type contains itself through its elements or embedded structs"

/-- How many levels a recursion over types follows (the elements of a field's type, the structs
an entity embeds, the new entities one request nests) before it is taken to run without end:
more than the stack of a run holds, so that a recursion without end exhausts it, as it exhausts
the library's own. -/
def stackLevels : Nat := Nat.pow 2 62

/-- A type or descriptor that cannot be used as an entity, and why. -/
structure ConfigError where
  /-- The type or entity concerned. -/
  entity : String
  /-- The field concerned, empty when the problem is the whole type's. -/
  field : String := ""
  problem : Problem
deriving DecidableEq, Repr

/-- `entity <T>: <reason>`, with `field <F>: ` before the reason when a field is named. -/
def ConfigError.message (e : ConfigError) : String :=
  if e.field == "" then "entity " ++ e.entity ++ ": " ++ e.problem.reason
  else "entity " ++ e.entity ++ ": field " ++ e.field ++ ": " ++ e.problem.reason

end EntityQuery
