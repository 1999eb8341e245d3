import EntityQuery.Query.Expand
/-!
# Callers sharing an expander

An expander serves field lists, expansions and record queries (`Call`), each a computation over
its map (`Call.perform`). One caller alone makes its calls one after another (`Expander.serve`).
Many callers may share one expander at the same time: the map is all they share, and each of its
operations is atomic. A caller is then the computation it still has to do, one step of it
performs its next operation on the shared map (`Cached.step`), and an interleaving of the callers
is a schedule, the list of callers in the order their operations happen (`Shared.run`).
-/

set_option autoImplicit false

namespace EntityQuery.Query

variable {K : Type} [DecidableEq K]

/-- A request to an expander. -/
inductive Call (K : Type) where
  /-- The field list of an entity with a lead at a depth. -/
  | fieldList (d : Descriptor K) (lead : String) (depth : Int)
  /-- A template expanded for a root entity, with paging, at a depth. -/
  | expand (root : Option (Descriptor K)) (template : String) (offset limit depth : Int)
  /-- The query for one record of a root entity, at a depth. -/
  | findById (root : Option (Descriptor K)) (id : String) (depth : Int)

/-- The computation a call makes over the expander's map. -/
def Call.perform (c : Catalog K) : Call K → Cached K (Except QueryError String)
  | .fieldList d lead depth => Except.ok <$> fieldListOf c d lead depth
  | .expand root template offset limit depth => expandOf c root template offset limit depth
  | .findById root id depth => findByIdOf c root id depth

/-- One caller's calls, made one after another: their answers and the expander after them. -/
def Expander.serve (e : Expander K) (c : Catalog K) :
    List (Call K) → List (Except QueryError String) × Expander K
  | [] => ([], e)
  | call :: calls =>
    let (a, e) := (call.perform c).run e
    let (as, e) := e.serve c calls
    (a :: as, e)

namespace Cached

variable {α : Type}

/-- The next operation of a computation, performed on the map: what remains of the computation,
and the map after it. A finished computation does nothing. -/
def step : Cached K α → Expander K → Cached K α × Expander K
  | .pure a, e => (.pure a, e)
  | .load key next, e => (next (e.load key), e)
  | .loadOrStore key s next, e =>
    let (t, e) := e.loadOrStore key s
    (next t, e)

end Cached

/-- Callers sharing one expander, each with what remains of its computation. -/
structure Shared (K α : Type) where
  expander : Expander K
  callers : List (Cached K α)

namespace Shared

variable {α : Type}

/-- Callers that start their calls on a new expander. -/
def start (c : Catalog K) (calls : List (Call K)) : Shared K (Except QueryError String) :=
  { expander := {}, callers := calls.map (·.perform c) }

/-- Caller `i` performs its next operation; there is no caller `i`, nothing happens. -/
def step (w : Shared K α) (i : Nat) : Shared K α :=
  match w.callers[i]? with
  | none => w
  | some p =>
    let (p, e) := p.step w.expander
    { expander := e, callers := w.callers.set i p }

/-- The callers take turns in the order of the schedule. -/
def run (w : Shared K α) : List Nat → Shared K α
  | [] => w
  | i :: sched => (w.step i).run sched

end Shared

end EntityQuery.Query
