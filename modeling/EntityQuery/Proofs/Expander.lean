import EntityQuery.Query.Shared
import EntityQuery.Proofs.Relations
/-!
# What an expander answers

Every list in the map of an expander is the field list computed afresh for its key
(`Expander.Sound`), and every call answers what it answers with no map at all
(`Call.reference`), whatever calls came before it and whatever other callers do to the map
meanwhile.

The argument is about computations over a sound map. `Cached.Safe c post p` says that whatever a
sound map answers, `p` offers the map only lists computed afresh for their keys and ends with a
result satisfying `post`. One step of a safe computation on a sound map leaves a sound map and a
safe computation (`Safe.step`); so does a whole run (`Safe.run`) and every interleaving of safe
callers (`Shared.Inv.run`). A computation is faithful when it is safe for the result it gives with
no map (`Cached.uncached`). Faithful computations are closed under sequencing (`Faithful.bind`),
and the field list of an entity is safe for the list computed afresh (`safe_fieldListOf`), by
induction on the depth through the three definitions that call each other. So every call is
faithful, and the rest follows.
-/

set_option autoImplicit false

namespace EntityQuery.Query

variable {K : Type}

namespace Cached

variable {α β : Type}

@[simp] theorem bind_eq_bind (p : Cached K α) (f : α → Cached K β) : p >>= f = p.bind f := rfl

@[simp] theorem pure_eq_pure (a : α) : (Pure.pure a : Cached K α) = .pure a := rfl

@[simp] theorem map_eq_bind (f : α → β) (p : Cached K α) :
    f <$> p = p.bind fun a => .pure (f a) := rfl

@[simp] theorem pure_bind (a : α) (f : α → Cached K β) : (Cached.pure a).bind f = f a := rfl

/-- The result of a computation with no map: nothing is ever found, and every list offered is
the answer. -/
def uncached : Cached K α → α
  | .pure a => a
  | .load _ next => uncached (next none)
  | .loadOrStore _ s next => uncached (next s)

@[simp] theorem uncached_pure (a : α) : (Cached.pure a : Cached K α).uncached = a := rfl

@[simp] theorem uncached_bind (p : Cached K α) (f : α → Cached K β) :
    (p.bind f).uncached = (f p.uncached).uncached := by
  induction p with
  | pure a => rfl
  | load key next ih => exact ih none
  | loadOrStore key s next ih => exact ih s

end Cached

variable [DecidableEq K]

/-- The field list a key of the map stands for: the one computed afresh. -/
def CacheKey.list (c : Catalog K) (key : CacheKey K) : String :=
  uncachedFieldList c key.descriptor key.lead key.depth

/-- Every list in the map of an expander is the one computed afresh for its key. -/
def Expander.Sound (c : Catalog K) (e : Expander K) : Prop :=
  ∀ entry ∈ e.cache, entry.2 = entry.1.list c

namespace Cached

variable {α β : Type} (c : Catalog K)

/-- Whatever a sound map answers, the computation offers it only lists computed afresh for
their keys, and ends with a result that satisfies `post`. -/
def Safe (post : α → Prop) : Cached K α → Prop
  | .pure a => post a
  | .load key next => Safe post (next none) ∧ Safe post (next (some (key.list c)))
  | .loadOrStore key s next => s = key.list c ∧ Safe post (next s)

/-- A computation is faithful when it is safe for the result it gives with no map. -/
def Faithful (p : Cached K α) : Prop := p.Safe c (· = p.uncached)

variable {c}

theorem Safe.mono {Q R : α → Prop} (hQR : ∀ a, Q a → R a) :
    ∀ {p : Cached K α}, p.Safe c Q → p.Safe c R
  | .pure a, h => hQR a h
  | .load _ next, h => ⟨Safe.mono hQR (p := next none) h.1, Safe.mono hQR h.2⟩
  | .loadOrStore _ s next, h => ⟨h.1, Safe.mono hQR (p := next s) h.2⟩

theorem Safe.bind {p : Cached K α} {f : α → Cached K β} {Q : α → Prop} {post : β → Prop}
    (hp : p.Safe c Q) (hf : ∀ a, Q a → (f a).Safe c post) : (p.bind f).Safe c post := by
  induction p with
  | pure a => exact hf a hp
  | load key next ih => exact ⟨ih none hp.1, ih _ hp.2⟩
  | loadOrStore key s next ih => exact ⟨hp.1, ih s hp.2⟩

/-- With no map the answers are ones a sound map may give, so the result satisfies `post`. -/
theorem Safe.uncached {p : Cached K α} {post : α → Prop} (hp : p.Safe c post) :
    post p.uncached := by
  induction p with
  | pure a => exact hp
  | load key next ih => exact ih none hp.1
  | loadOrStore key s next ih => exact ih s hp.2

theorem Safe.faithful {p : Cached K α} {x : α} (hp : p.Safe c (· = x)) : p.Faithful c := by
  have hx : p.uncached = x := hp.uncached
  unfold Faithful
  rw [hx]
  exact hp

theorem faithful_pure (a : α) : (Cached.pure a : Cached K α).Faithful c := rfl

theorem Faithful.bind {p : Cached K α} {f : α → Cached K β} (hp : p.Faithful c)
    (hf : ∀ a, (f a).Faithful c) : (p.bind f).Faithful c := by
  unfold Faithful
  rw [uncached_bind]
  refine Safe.bind hp fun a ha => ?_
  subst ha
  exact hf _

end Cached

namespace Expander

variable {c : Catalog K} {e : Expander K}

theorem sound_empty (c : Catalog K) : ({} : Expander K).Sound c := by
  intro entry hentry
  exact absurd hentry List.not_mem_nil

/-- A sound map has nothing or the list computed afresh under every key. -/
theorem Sound.load (he : e.Sound c) (key : CacheKey K) :
    e.load key = none ∨ e.load key = some (key.list c) := by
  cases hload : e.load key with
  | none => exact Or.inl rfl
  | some s =>
    have hmem : (key, s) ∈ e.cache := mem_of_lookup_eq_some hload
    exact Or.inr (congrArg some (he _ hmem))

/-- Offering a sound map the list computed afresh answers with that list and keeps it sound. -/
theorem Sound.loadOrStore (he : e.Sound c) (key : CacheKey K) :
    ∃ e', e.loadOrStore key (key.list c) = (key.list c, e') ∧ e'.Sound c := by
  unfold Expander.loadOrStore
  rcases he.load key with hload | hload
  · refine ⟨{ cache := e.cache ++ [(key, key.list c)] }, by rw [hload], ?_⟩
    intro entry hentry
    rcases List.mem_append.mp hentry with hold | hnew
    · exact he entry hold
    · rw [List.mem_singleton.mp hnew]
  · exact ⟨e, by rw [hload], he⟩

end Expander

namespace Cached

variable {α : Type} {c : Catalog K} {e : Expander K} {post : α → Prop}

/-- The step lemma: one operation of a safe computation on a sound map. -/
theorem Safe.step {p : Cached K α} (he : e.Sound c) (hp : p.Safe c post) :
    (p.step e).1.Safe c post ∧ (p.step e).2.Sound c := by
  cases p with
  | pure a => exact ⟨hp, he⟩
  | load key next =>
    rcases he.load key with hload | hload
    · simp only [Cached.step, hload]
      exact ⟨hp.1, he⟩
    · simp only [Cached.step, hload]
      exact ⟨hp.2, he⟩
  | loadOrStore key s next =>
    obtain ⟨rfl, hnext⟩ := hp
    obtain ⟨e', hstore, he'⟩ := he.loadOrStore key
    simp only [Cached.step, hstore]
    exact ⟨hnext, he'⟩

/-- The run lemma: a safe computation run alone on a sound map ends with a result satisfying its
postcondition and leaves the map sound. -/
theorem Safe.run {p : Cached K α} (he : e.Sound c) (hp : p.Safe c post) :
    post (p.run e).1 ∧ (p.run e).2.Sound c := by
  induction p generalizing e with
  | pure a => exact ⟨hp, he⟩
  | load key next ih =>
    rcases he.load key with hload | hload
    · simp only [Cached.run, hload]
      exact ih none he hp.1
    · simp only [Cached.run, hload]
      exact ih _ he hp.2
  | loadOrStore key s next ih =>
    obtain ⟨rfl, hnext⟩ := hp
    obtain ⟨e', hstore, he'⟩ := he.loadOrStore key
    simp only [Cached.run, hstore]
    exact ih _ he' hnext

theorem Faithful.run {p : Cached K α} (he : e.Sound c) (hp : p.Faithful c) :
    (p.run e).1 = p.uncached ∧ (p.run e).2.Sound c :=
  Safe.run he hp

end Cached

/-! ## Field lists -/

section FieldLists

variable (c : Catalog K)

/-- The items one field gives in a field list computed afresh. -/
def fieldItemsAt (levels : Nat) (d : Descriptor K) (lead : String) (f : Field) : List String :=
  if f.isAttributes then []
  else match c.relatedOf? d f.name with
    | none => [lead ++ f.wire]
    | some r =>
      match levels with
      | 0 => []
      | n + 1 =>
        if f.kind.isMultiValued then
          ["(SELECT " ++ ",".intercalate (fieldItems c n r "") ++ " FROM " ++ lead ++ f.wire ++ ")"]
        else fieldItems c n r (lead ++ f.wire ++ ".")

theorem fieldItems_eq_flatMap (levels : Nat) (d : Descriptor K) (lead : String) :
    fieldItems c levels d lead = d.fields.flatMap (fieldItemsAt c levels d lead) := by
  rw [fieldItems]
  rfl

variable {c}

/-- Items gathered field after field are the items of every field, in field order. -/
theorem safe_foldlM_append {g : Field → Cached K (List String)} {ref : Field → List String} :
    ∀ (fields : List Field) (items : List String), (∀ f ∈ fields, (g f).Safe c (· = ref f)) →
      (fields.foldlM (fun items f => do
          let more ← g f
          pure (items ++ more)) items).Safe c (· = items ++ fields.flatMap ref)
  | [], items, _ => by simp [Cached.Safe]
  | f :: fields, items, h => by
    rw [List.foldlM_cons]
    have hfirst : ((g f).bind fun more => Cached.pure (items ++ more)).Safe c
        (· = items ++ ref f) :=
      (h f List.mem_cons_self).bind fun more hmore => by simp [Cached.Safe, hmore]
    refine hfirst.bind fun items' hitems => ?_
    subst hitems
    have hrest := safe_foldlM_append fields (items ++ ref f) fun f' hf' =>
      h f' (List.mem_cons_of_mem f hf')
    simpa only [List.flatMap_cons, List.append_assoc] using hrest

/-- One field's items at a depth, given the lists and items one level down. -/
theorem safe_fieldItemsOf {depth : Int}
    (hlist : 0 < depth → ∀ r lead,
      (fieldListOf c r lead (depth - 1)).Safe c (· = uncachedFieldList c r lead (depth - 1)))
    (hitems : 0 < depth → ∀ r lead,
      (itemsOf c r lead (depth - 1)).Safe c (· = fieldItems c (depth - 1).toNat r lead))
    (d : Descriptor K) (lead : String) (f : Field) :
    (fieldItemsOf c d lead depth f).Safe c (· = fieldItemsAt c depth.toNat d lead f) := by
  rw [fieldItemsOf]
  by_cases hattr : f.isAttributes
  · simp [hattr, fieldItemsAt, Cached.Safe]
  cases hrel : c.relatedOf? d f.name with
  | none => simp [hattr, hrel, fieldItemsAt, Cached.Safe]
  | some r =>
    by_cases hdepth : depth ≤ 0
    · have hzero : depth.toNat = 0 := Int.toNat_eq_zero.mpr hdepth
      simp [hattr, hrel, hdepth, hzero, fieldItemsAt, Cached.Safe]
    -- one level down: the related entity's list or items at `depth - 1`
    have hpos : 0 < depth := by omega
    have hlevels : depth.toNat = (depth - 1).toNat + 1 := by omega
    by_cases hmulti : f.kind.isMultiValued
    · simp only [hattr, hdepth, hmulti, Bool.false_eq_true, ↓reduceIte, ↓reduceDIte,
        Cached.bind_eq_bind, Cached.pure_eq_pure]
      refine (hlist hpos r "").bind fun s hs => ?_
      rw [hlevels, hs]
      simp only [Cached.Safe, fieldItemsAt, hattr, hrel, hmulti, uncachedFieldList,
        Bool.false_eq_true, ↓reduceIte]
    · simp only [hattr, hdepth, hmulti, Bool.false_eq_true, ↓reduceIte, ↓reduceDIte]
      refine (hitems hpos r _).mono fun items hitems' => ?_
      rw [hlevels, hitems']
      simp only [fieldItemsAt, hattr, hrel, hmulti, Bool.false_eq_true, ↓reduceIte]

theorem safe_itemsOf_of_fields {d : Descriptor K} {lead : String} {depth : Int}
    (hfield : ∀ f, (fieldItemsOf c d lead depth f).Safe c (· = fieldItemsAt c depth.toNat d lead f)) :
    (itemsOf c d lead depth).Safe c (· = fieldItems c depth.toNat d lead) := by
  rw [itemsOf, fieldItems_eq_flatMap]
  simpa using safe_foldlM_append d.fields [] fun f _ => hfield f

theorem safe_fieldListOf_of_itemsOf {d : Descriptor K} {lead : String} {depth : Int}
    (hitems : (itemsOf c d lead depth).Safe c (· = fieldItems c depth.toNat d lead)) :
    (fieldListOf c d lead depth).Safe c (· = uncachedFieldList c d lead depth) := by
  rw [fieldListOf]
  simp only [Cached.lookup, Cached.bind_eq_bind]
  refine ⟨hitems.bind fun items hitems' => ?_, rfl⟩
  subst hitems'
  exact ⟨rfl, rfl⟩

/-- Lists and items at every depth, by induction on the levels a depth allows. -/
theorem safe_itemsOf_fieldListOf :
    ∀ (levels : Nat) (depth : Int), depth.toNat = levels →
      (∀ d lead, (itemsOf c d lead depth).Safe c (· = fieldItems c depth.toNat d lead)) ∧
      (∀ d lead, (fieldListOf c d lead depth).Safe c (· = uncachedFieldList c d lead depth))
  | levels, depth, hlevels => by
    have hbelow : 0 < depth →
        (∀ r lead, (itemsOf c r lead (depth - 1)).Safe c
          (· = fieldItems c (depth - 1).toNat r lead)) ∧
        (∀ r lead, (fieldListOf c r lead (depth - 1)).Safe c
          (· = uncachedFieldList c r lead (depth - 1))) := fun hpos =>
      safe_itemsOf_fieldListOf (depth - 1).toNat (depth - 1) rfl
    have hitems : ∀ d lead, (itemsOf c d lead depth).Safe c (· = fieldItems c depth.toNat d lead) :=
      fun d lead => safe_itemsOf_of_fields
        (safe_fieldItemsOf (fun hpos => (hbelow hpos).2) (fun hpos => (hbelow hpos).1) d lead)
    exact ⟨hitems, fun d lead => safe_fieldListOf_of_itemsOf (hitems d lead)⟩
termination_by levels => levels
decreasing_by omega

theorem safe_fieldListOf (d : Descriptor K) (lead : String) (depth : Int) :
    (fieldListOf c d lead depth).Safe c (· = uncachedFieldList c d lead depth) :=
  (safe_itemsOf_fieldListOf depth.toNat depth rfl).2 d lead

@[simp] theorem uncached_fieldListOf (d : Descriptor K) (lead : String) (depth : Int) :
    (fieldListOf c d lead depth).uncached = uncachedFieldList c d lead depth :=
  (safe_fieldListOf d lead depth).uncached

theorem faithful_fieldListOf (d : Descriptor K) (lead : String) (depth : Int) :
    (fieldListOf c d lead depth).Faithful c :=
  (safe_fieldListOf d lead depth).faithful

/-- A new expander gives the field list computed afresh. -/
theorem fieldList_eq_uncachedFieldList (c : Catalog K) (d : Descriptor K) (lead : String)
    (depth : Int) : fieldList c d lead depth = uncachedFieldList c d lead depth := by
  have h := (faithful_fieldListOf (c := c) d lead depth).run (Expander.sound_empty c)
  rw [uncached_fieldListOf] at h
  exact h.1

end FieldLists

/-! ## Expansions and calls -/

section Calls

variable {c : Catalog K}

theorem faithful_renderOf (root : Descriptor K) (depth : Int) :
    ∀ ps : List Piece, (renderOf c root depth ps).Faithful c
  | [] => Cached.faithful_pure _
  | .text cs :: rest => by
    rw [renderOf]
    exact (faithful_renderOf root depth rest).bind fun _ => Cached.faithful_pure _
  | .marker lead q :: rest => by
    rw [renderOf]
    split
    · exact Cached.faithful_pure _
    · exact (faithful_fieldListOf _ _ _).bind fun _ =>
        (faithful_renderOf root depth rest).bind fun _ => Cached.faithful_pure _

theorem faithful_expandOf (root : Option (Descriptor K)) (template : String)
    (offset limit depth : Int) : (expandOf c root template offset limit depth).Faithful c := by
  unfold expandOf
  split
  · exact Cached.faithful_pure _
  · split
    · exact Cached.faithful_pure _
    · exact (faithful_renderOf _ _ _).bind fun _ => Cached.faithful_pure _

theorem faithful_findByIdOf (root : Option (Descriptor K)) (id : String) (depth : Int) :
    (findByIdOf c root id depth).Faithful c := by
  unfold findByIdOf
  split
  · exact Cached.faithful_pure _
  · split
    · exact Cached.faithful_pure _
    · exact faithful_expandOf _ _ _ _ _

theorem faithful_perform (call : Call K) : (call.perform c).Faithful c := by
  cases call with
  | fieldList d lead depth =>
    exact (faithful_fieldListOf d lead depth).bind fun _ => Cached.faithful_pure _
  | expand root template offset limit depth => exact faithful_expandOf _ _ _ _ _
  | findById root id depth => exact faithful_findByIdOf _ _ _

end Calls

/-- What a call answers with no map at all. -/
def Call.reference (c : Catalog K) (call : Call K) : Except QueryError String :=
  (call.perform c).uncached

@[simp] theorem Call.reference_fieldList (c : Catalog K) (d : Descriptor K) (lead : String)
    (depth : Int) :
    (Call.fieldList d lead depth).reference c = .ok (uncachedFieldList c d lead depth) := by
  simp [Call.reference, Call.perform]

/-! ## Callers alone and together -/

/-- One caller alone: from a sound map, every call answers its reference. -/
theorem Expander.serve_of_sound {c : Catalog K} :
    ∀ {e : Expander K} (calls : List (Call K)), e.Sound c →
      (e.serve c calls).1 = calls.map (·.reference c) ∧ (e.serve c calls).2.Sound c
  | _, [], he => ⟨rfl, he⟩
  | e, call :: calls, he => by
    obtain ⟨hanswer, he'⟩ := (faithful_perform call).run he
    obtain ⟨hrest, hsound⟩ := serve_of_sound calls he'
    simp only [serve, List.map_cons]
    exact ⟨by rw [hanswer, hrest]; rfl, hsound⟩

namespace Shared

variable {α : Type} {c : Catalog K} {post : Nat → α → Prop}

/-- Every caller's remaining computation is safe for its own postcondition, and the map is
sound. -/
structure Inv (c : Catalog K) (post : Nat → α → Prop) (w : Shared K α) : Prop where
  sound : w.expander.Sound c
  safe : ∀ i (p : Cached K α), w.callers[i]? = some p → p.Safe c (post i)

/-- The step lemma of the interleaving: any caller's next operation keeps the invariant. -/
theorem Inv.step {w : Shared K α} (h : w.Inv c post) (i : Nat) : (w.step i).Inv c post := by
  unfold Shared.step
  cases hi : w.callers[i]? with
  | none => exact h
  | some p =>
    obtain ⟨hsafe, hsound⟩ := (h.safe i p hi).step h.sound
    have hlt : i < w.callers.length := (List.getElem?_eq_some_iff.mp hi).1
    refine ⟨hsound, fun j q hj => ?_⟩
    by_cases hij : i = j
    · subst hij
      rw [List.getElem?_set_self hlt] at hj
      cases hj
      exact hsafe
    · rw [List.getElem?_set_ne hij] at hj
      exact h.safe j q hj

/-- The run lemma of the interleaving: every schedule keeps the invariant. -/
theorem Inv.run : ∀ {w : Shared K α} (sched : List Nat), w.Inv c post → (w.run sched).Inv c post
  | _, [], h => h
  | _, i :: sched, h => Inv.run sched (h.step i)

/-- Callers that start their calls on a new expander are safe for their references. -/
theorem inv_start (c : Catalog K) (calls : List (Call K)) :
    (start c calls).Inv c fun i a => ∀ call, calls[i]? = some call → a = call.reference c := by
  refine ⟨Expander.sound_empty c, fun i p hp => ?_⟩
  obtain ⟨call, hcall, rfl⟩ : ∃ call, calls[i]? = some call ∧ call.perform c = p := by
    simpa [start] using hp
  exact (faithful_perform call).mono fun a ha call' hcall' => by
    rw [hcall] at hcall'
    cases hcall'
    exact ha

end Shared

/-- An expander's answers never depend on its history. Alone, a caller's calls answer their
references and leave every list in the map computed afresh for its key; the same holds for
callers sharing a new expander, in every interleaving of their operations, for every caller
that has finished. (A caller that makes several calls in turn is several callers whose
operations the schedule puts one call after another.) -/
theorem expander_answers_never_depend_on_history (c : Catalog K) (calls : List (Call K)) :
    (({} : Expander K).serve c calls).1 = calls.map (·.reference c) ∧
    (({} : Expander K).serve c calls).2.Sound c ∧
    ∀ sched : List Nat,
      ((Shared.start c calls).run sched).expander.Sound c ∧
      ∀ (i : Nat) (call : Call K) (a : Except QueryError String), calls[i]? = some call →
        ((Shared.start c calls).run sched).callers[i]? = some (Cached.pure a) → a = call.reference c := by
  obtain ⟨hanswers, hsound⟩ := Expander.serve_of_sound calls (Expander.sound_empty c)
  refine ⟨hanswers, hsound, fun sched => ?_⟩
  have hinv := (Shared.inv_start c calls).run sched
  refine ⟨hinv.sound, fun i call a hcall hdone => ?_⟩
  have hfinished := hinv.safe i _ hdone
  simp only [Cached.Safe] at hfinished
  exact hfinished call hcall

end EntityQuery.Query
