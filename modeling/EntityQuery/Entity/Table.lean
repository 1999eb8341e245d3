import EntityQuery.Entity.Registry
/-!
# Shape tables

The plainest introspector: a table that gives, for each key it lists, either the shape of an
entity or the problem that stops the key from being mapped. A key the table does not list, or
lists without an entry, is no entity. Keys are compared as they are: there is no canonical form.
-/

set_option autoImplicit false

namespace EntityQuery

/-- What a shape table says about one key. -/
inductive TableEntry where
  | entity (shape : Shape String)
  | failure (e : ConfigError)

/-- The candidate keys that an entry leads to. -/
def TableEntry.candidates : TableEntry → List String
  | .entity s => s.fields.map (·.candidate)
  | .failure _ => []

/-- The introspector that reads shapes from a table. -/
def Introspector.ofTable (entries : List (String × Option TableEntry)) : Introspector String where
  inspect k :=
    match (entries.lookup k).join with
    | none => .ok none
    | some (.entity s) => .ok (some s)
    | some (.failure e) => .error e
  reach := 1 + entries.length +
    (entries.map fun e => ((e.2.map TableEntry.candidates).getD []).length).foldr (· + ·) 0

end EntityQuery
