import EntityQuery.Entity.Catalog
/-!
# Field lists

The field list of an entity at a depth replaces a wildcard. Every field but the attributes map
gives items, in declaration order: a field without a related entity gives its wire name after
the lead; a relationship gives nothing at depth zero or below; otherwise a multi-valued
relationship gives one sub-select `(SELECT <list of the related entity, no lead, one level
less> FROM <lead><wire>)`, and a single one gives the related entity's items inline, with
`<lead><wire>.` as their lead and one level less. The items are joined by commas.

An expander remembers every field list it computes, under the descriptor, the lead and the
depth it was computed for, in a map shared by all its callers. Asking it for a field list is a
computation over that map (`Cached`): it loads the key and answers with the list stored there;
otherwise it computes the items (sub-selects ask the map for their lists, inline relationships
are expanded in place) and stores the list unless one was stored under the key meanwhile, the
stored one being the answer. A computation only says which operation it makes next and what it
does with the answer, so the same definitions describe one caller alone (`Cached.run`) and
callers that take turns on one map.
-/

set_option autoImplicit false

namespace EntityQuery.Query

variable {K : Type}

/-- What a remembered field list was computed for. -/
structure CacheKey (K : Type) where
  descriptor : Descriptor K
  lead : String
  depth : Int
deriving DecidableEq, Repr

/-- A computation over the map of an expander. Each operation is atomic: `load` reads the list
stored under a key, `loadOrStore` stores a list under a key unless one is there and answers with
the list stored under it afterwards. -/
inductive Cached (K : Type) (α : Type) where
  | pure (a : α)
  | load (key : CacheKey K) (next : Option String → Cached K α)
  | loadOrStore (key : CacheKey K) (list : String) (next : String → Cached K α)

namespace Cached

variable {α β : Type}

/-- Runs one computation, then another on its result. -/
def bind : Cached K α → (α → Cached K β) → Cached K β
  | .pure a, f => f a
  | .load key next, f => .load key fun r => (next r).bind f
  | .loadOrStore key s next, f => .loadOrStore key s fun t => (next t).bind f

instance : Monad (Cached K) where
  pure := .pure
  bind := bind

/-- The list stored under a key. -/
def lookup (key : CacheKey K) : Cached K (Option String) := .load key .pure

/-- The list stored under a key, after storing `s` when there is none. -/
def remember (key : CacheKey K) (s : String) : Cached K String := .loadOrStore key s .pure

end Cached

variable [DecidableEq K]

/-- The items of a field list; `levels` is how many relationship levels may still be followed. -/
def fieldItems (c : Catalog K) : Nat → Descriptor K → String → List String
  | levels, d, lead =>
    d.fields.flatMap fun f =>
      if f.isAttributes then []
      else match c.relatedOf? d f.name with
        | none => [lead ++ f.wire]
        | some r =>
          match levels with
          | 0 => []
          | n + 1 =>
            if f.kind.isMultiValued then
              ["(SELECT " ++ ",".intercalate (fieldItems c n r "") ++ " FROM " ++ lead ++ f.wire ++ ")"]
            else fieldItems c n r (lead ++ f.wire ++ ".")

/-- The field list of an entity at a depth, computed afresh (a depth of zero or below follows no
relationship). -/
def uncachedFieldList (c : Catalog K) (d : Descriptor K) (lead : String) (depth : Int) : String :=
  ",".intercalate (fieldItems c depth.toNat d lead)

mutual

/-- The field list of an entity at a depth, from the map when it is stored there. -/
def fieldListOf (c : Catalog K) (d : Descriptor K) (lead : String) (depth : Int) :
    Cached K String := do
  match ← Cached.lookup ⟨d, lead, depth⟩ with
  | some s => pure s
  | none =>
    let items ← itemsOf c d lead depth
    Cached.remember ⟨d, lead, depth⟩ (",".intercalate items)
termination_by (depth.toNat, 2)

/-- The items of the field list of an entity at a depth, field after field. -/
def itemsOf (c : Catalog K) (d : Descriptor K) (lead : String) (depth : Int) :
    Cached K (List String) :=
  d.fields.foldlM (fun items f => do
    let more ← fieldItemsOf c d lead depth f
    pure (items ++ more)) []
termination_by (depth.toNat, 1)

/-- The items one field of an entity gives at a depth; a sub-select asks the map for its list. -/
def fieldItemsOf (c : Catalog K) (d : Descriptor K) (lead : String) (depth : Int) (f : Field) :
    Cached K (List String) :=
  if f.isAttributes then pure []
  else match c.relatedOf? d f.name with
    | none => pure [lead ++ f.wire]
    | some r =>
      if _ : depth ≤ 0 then pure []
      else if f.kind.isMultiValued then do
        let s ← fieldListOf c r "" (depth - 1)
        pure ["(SELECT " ++ s ++ " FROM " ++ lead ++ f.wire ++ ")"]
      else itemsOf c r (lead ++ f.wire ++ ".") (depth - 1)
termination_by (depth.toNat, 0)

end

/-- An expander: the field lists computed so far, each with what it was computed for. -/
structure Expander (K : Type) where
  cache : List (CacheKey K × String) := []

namespace Expander

/-- The list stored under a key. -/
def load (e : Expander K) (key : CacheKey K) : Option String := e.cache.lookup key

/-- The list stored under a key, after storing `s` when there is none. -/
def loadOrStore (e : Expander K) (key : CacheKey K) (s : String) : String × Expander K :=
  match e.load key with
  | some t => (t, e)
  | none => (s, { cache := e.cache ++ [(key, s)] })

end Expander

namespace Cached

variable {α : Type}

/-- Performs a computation on an expander's map for one caller alone. -/
def run : Cached K α → Expander K → α × Expander K
  | .pure a, e => (a, e)
  | .load key next, e => (next (e.load key)).run e
  | .loadOrStore key s next, e =>
    let (t, e) := e.loadOrStore key s
    (next t).run e

end Cached

/-- The field list of an entity at a depth, remembered by the expander. -/
def Expander.fieldList (e : Expander K) (c : Catalog K) (d : Descriptor K) (lead : String)
    (depth : Int) : String × Expander K :=
  (fieldListOf c d lead depth).run e

/-- The field list of an entity at a depth, from a new expander. -/
def fieldList (c : Catalog K) (d : Descriptor K) (lead : String) (depth : Int) : String :=
  (({} : Expander K).fieldList c d lead depth).1

end EntityQuery.Query
