import EntityQuery.Entity.Kind
/-!
# Descriptors

A descriptor is what the library knows about one entity: its entity (wire) name, the name of
the type it was read from, its fields in declaration order, and its relationships. A
relationship maps a field name to the key of the related entity's descriptor; the keys are
listed in the order in which their field names were first related, and a later relationship
under the same field name replaces the key in place.

A shape is what an introspector reports for a key: the type name, an explicit entity name
(empty for none), and the fields with, for each, the key of the type it leads to. The
descriptor of a shape (`ofShape`) takes the entity name, or the type name when it is empty, and
the fields as they are; its identifier and attributes fields are the first ones flagged so.
-/

set_option autoImplicit false

namespace EntityQuery

/-- One mapped field of an entity. -/
structure Field where
  /-- The field's name in its type. -/
  name : String
  /-- The name the data service uses for it. -/
  wire : String
  kind : FieldKind
  /-- The field holds the record identifier. -/
  isIdentifier : Bool := false
  /-- The field holds the record's attributes map. -/
  isAttributes : Bool := false
  /-- The type has a method that assigns this field. -/
  hasSetter : Bool := false
  /-- The position path of the field in a run-time value, empty when read from declarations. -/
  index : List Nat := []
deriving DecidableEq, Repr

/-- A field as an introspector reports it, with the key of the type it leads to. -/
structure FieldSpec (K : Type) where
  field : Field
  candidate : K
deriving Repr

/-- What an introspector reports about an entity type. -/
structure Shape (K : Type) where
  typeName : String
  /-- An explicit entity name, empty for none. -/
  entityName : String := ""
  fields : List (FieldSpec K)
deriving Repr

/-- What the library knows about one entity. -/
structure Descriptor (K : Type) where
  /-- The key this descriptor was built for. -/
  key : K
  /-- The entity name used in queries. -/
  name : String
  typeName : String
  fields : List Field
  /-- Relationship field names with the keys of the related descriptors, in first-seen order. -/
  related : List (String × K)
deriving DecidableEq, Repr

namespace Descriptor

variable {K : Type}

/-- The descriptor built from a shape, before any relationship is added. -/
def ofShape (k : K) (s : Shape K) : Descriptor K where
  key := k
  name := if s.entityName == "" then s.typeName else s.entityName
  typeName := s.typeName
  fields := s.fields.map (·.field)
  related := []

/-- The first field flagged as the identifier. -/
def idField? (d : Descriptor K) : Option Field := d.fields.find? (·.isIdentifier)

/-- The first field flagged as the attributes map. -/
def attributesField? (d : Descriptor K) : Option Field := d.fields.find? (·.isAttributes)

/-- The first field with the given name. -/
def field? (d : Descriptor K) (name : String) : Option Field := d.fields.find? (·.name == name)

/-- The key related through the given field name. -/
def related? (d : Descriptor K) (fieldName : String) : Option K := d.related.lookup fieldName

/-- The relationship field names in first-seen order. -/
def relationshipFields (d : Descriptor K) : List String := d.related.map (·.1)

/-- Relationships as a list: a new field name goes to the end, a known one keeps its place and
takes the new key. -/
def relate (rels : List (String × K)) (fieldName : String) (k : K) : List (String × K) :=
  if rels.any (·.1 == fieldName) then rels.map fun p => if p.1 == fieldName then (p.1, k) else p
  else rels ++ [(fieldName, k)]

end Descriptor

end EntityQuery
