import EntityQuery.Proofs.Relations
/-!
# What one request builds

A request resolves keys against a published catalog `P`, recording in a build the entities it
staged and the keys it found to be none. The status of a key for the request (`Build.status`)
is what `P` says, else what the request found, in the order the resolution itself looks.

The request keeps its build consistent (`Build.Inv`): staged keys and non-entities are
distinct, disjoint, and none of them is published. Every resolution that succeeds grows the
build by appending only (`Build.Grows`) and leaves every entity it staged built from its shape
(`Build.NewBuilt`), with relationships exactly for the fields whose candidates turned out to be
entities; it answers the key's status (`Build.Answers`). The entities staged and not yet finished
are the ones on the recursion's path; they are the ones whose relationships the resolution
fills in before it returns, so the main statement (`resolve_resolves`) needs no path.

The proof is by induction on the fuel, with the loop over a new entity's fields done once for
any resolution that meets the statement (`foldl_relateField_ok`).
-/

set_option autoImplicit false

namespace EntityQuery

variable {K : Type} [DecidableEq K]

namespace Build

/-- The keys of the entities a request staged, in staging order. -/
def keys (b : Build K) : List K := b.staged.map (·.1)

/-- What a request knows about a key: the published binding first, then its own findings. -/
def status (P : Catalog K) (b : Build K) (k : K) : Option Bool :=
  (P.status k).or
    (if b.staged.any (·.1 = k) then some true else if b.absent.contains k then some false else none)

/-- A consistent build: its keys are distinct, its non-entities are no staged keys, and nothing
it found is published. -/
structure Inv (P : Catalog K) (b : Build K) : Prop where
  keys_nodup : b.keys.Nodup
  absent_nodup : b.absent.Nodup
  absent_not_staged : ∀ k ∈ b.absent, k ∉ b.keys
  staged_fresh : ∀ k ∈ b.keys, P.find? k = none
  absent_fresh : ∀ k ∈ b.absent, P.find? k = none

/-- A later build appends to both lists of an earlier one. -/
structure Grows (b b' : Build K) : Prop where
  staged : b.staged <+: b'.staged
  absent : b.absent <+: b'.absent

/-- Every entity that `b'` staged and `b` did not is built from its shape, its relationships
read off what `b'` knows. -/
def NewBuilt (I : Introspector K) (P : Catalog K) (b b' : Build K) : Prop :=
  ∀ e ∈ b'.staged, e.1 ∉ b.keys → I.BuiltFrom (b'.status P) e.1 e.2

/-- What a successful resolution from `b` to `b'` guarantees. -/
structure Resolved (I : Introspector K) (P : Catalog K) (b b' : Build K) : Prop where
  grows : Grows b b'
  inv : b'.Inv P
  newBuilt : NewBuilt I P b b'

/-- The answer for a key: its canonical key when the build knows it as an entity, nothing when
the build knows it as none. -/
def Answers (I : Introspector K) (P : Catalog K) (b : Build K) (key : K) (r : Option K) :
    Prop :=
  (r = some (I.canonical key) ∧ b.status P (I.canonical key) = some true) ∨
    (r = none ∧ b.status P (I.canonical key) = some false)

variable {P : Catalog K} {b b' b'' : Build K} {k : K}

theorem any_fst_eq_iff : b.staged.any (·.1 = k) = true ↔ k ∈ b.keys := by
  simp [keys]

theorem status_of_find? {v : Option (Descriptor K)} (h : P.find? k = some v) :
    b.status P k = some v.isSome := by
  simp [status, Catalog.status, h]

theorem status_of_mem_keys (hP : P.find? k = none) (h : k ∈ b.keys) :
    b.status P k = some true := by
  rw [← any_fst_eq_iff] at h
  simp [status, Catalog.status, hP, h]

theorem status_of_mem_absent (hP : P.find? k = none) (hk : k ∉ b.keys) (h : k ∈ b.absent) :
    b.status P k = some false := by
  rw [← any_fst_eq_iff, Bool.not_eq_true] at hk
  simp [status, Catalog.status, hP, hk, h]

theorem status_eq_none_iff :
    b.status P k = none ↔ P.find? k = none ∧ k ∉ b.keys ∧ k ∉ b.absent := by
  cases hP : P.find? k with
  | some v => simp [status_of_find? hP]
  | none =>
    by_cases hk : k ∈ b.keys
    · simp [status_of_mem_keys hP hk, hk]
    · by_cases ha : k ∈ b.absent
      · simp [status_of_mem_absent hP hk ha, ha]
      · have hany : b.staged.any (·.1 = k) = false := by
          rw [← Bool.not_eq_true, any_fst_eq_iff]
          exact hk
        simp [status, Catalog.status, hP, hany, ha, hk]

omit [DecidableEq K] in
theorem Grows.refl (b : Build K) : Grows b b := ⟨List.prefix_refl _, List.prefix_refl _⟩

omit [DecidableEq K] in
theorem Grows.trans (h : Grows b b') (h' : Grows b' b'') : Grows b b'' :=
  ⟨h.staged.trans h'.staged, h.absent.trans h'.absent⟩

omit [DecidableEq K] in
theorem Grows.keys_subset (h : Grows b b') (hk : k ∈ b.keys) : k ∈ b'.keys :=
  (h.staged.map (·.1)).subset hk

/-- What a build knows it keeps knowing, and the same way. -/
theorem status_mono (h : Grows b b') (hinv : b'.Inv P) {x : Bool}
    (hx : b.status P k = some x) : b'.status P k = some x := by
  cases hP : P.find? k with
  | some v => rw [status_of_find? hP] at hx ⊢; exact hx
  | none =>
    by_cases hk : k ∈ b.keys
    · rw [status_of_mem_keys hP hk] at hx
      rw [status_of_mem_keys hP (h.keys_subset hk), hx]
    · by_cases ha : k ∈ b.absent
      · rw [status_of_mem_absent hP hk ha] at hx
        have ha' : k ∈ b'.absent := h.absent.subset ha
        rw [status_of_mem_absent hP (hinv.absent_not_staged k ha') ha', hx]
      · rw [status_eq_none_iff.mpr ⟨hP, hk, ha⟩] at hx
        cases hx

omit [DecidableEq K] in
/-- In a build with distinct keys, an entry whose key an earlier prefix staged is that prefix's
own entry. -/
theorem mem_of_mem_keys (h : b.staged <+: b'.staged) (hnodup : b'.keys.Nodup)
    {e : K × Descriptor K} (he : e ∈ b'.staged) (hk : e.1 ∈ b.keys) : e ∈ b.staged := by
  obtain ⟨t, ht⟩ := h
  have hsplit : (b.keys ++ t.map (·.1)).Nodup := by
    rw [keys, ← List.map_append, ht]
    exact hnodup
  rw [← ht] at he
  rcases List.mem_append.mp he with hold | hnew
  · exact hold
  · exact absurd rfl ((List.nodup_append.mp hsplit).2.2 e.1 hk e.1 (List.mem_map_of_mem hnew))

theorem Resolved.refl (hinv : b.Inv P) (I : Introspector K) : Resolved I P b b :=
  ⟨Grows.refl b, hinv, fun _ he hk => absurd (List.mem_map_of_mem he) hk⟩

theorem Resolved.trans {I : Introspector K} (h : Resolved I P b b') (h' : Resolved I P b' b'') :
    Resolved I P b b'' := by
  refine ⟨h.grows.trans h'.grows, h'.inv, ?_⟩
  intro e he hk
  by_cases hk' : e.1 ∈ b'.keys
  · have hmem := mem_of_mem_keys h'.grows.staged h'.inv.keys_nodup he hk'
    exact (h.newBuilt e hmem hk).mono fun _ _ hx => status_mono h'.grows h'.inv hx
  · exact h'.newBuilt e he hk'

@[simp] theorem keys_setRelated (rels : List (String × K)) :
    (b.setRelated k rels).keys = b.keys := by
  simp [keys, setRelated, List.map_map, Function.comp_def, apply_ite]

@[simp] theorem status_setRelated (rels : List (String × K)) :
    (b.setRelated k rels).status P = b.status P := by
  funext k'
  have hkeys := any_fst_eq_iff (b := b.setRelated k rels) (k := k')
  rw [keys_setRelated, ← any_fst_eq_iff] at hkeys
  simp only [status, hkeys]
  rfl

/-- Recording the relationships of a key leaves the entries of other keys alone. -/
theorem setRelated_staged_of_not_mem (rels : List (String × K))
    {l : List (K × Descriptor K)} (hk : k ∉ l.map (·.1)) :
    l.map (fun p => if p.1 = k then (p.1, { p.2 with related := rels }) else p) = l := by
  have hsame : ∀ p ∈ l,
      (if p.1 = k then (p.1, { p.2 with related := rels }) else p) = p := by
    intro p hp
    have hne : p.1 ≠ k := fun heq => hk (heq ▸ List.mem_map_of_mem hp)
    simp [hne]
  rw [List.map_congr_left hsame, List.map_id']

/-- Recording the relationships of a new key keeps every earlier build a prefix. -/
theorem prefix_setRelated (rels : List (String × K)) (hk : k ∉ b.keys)
    (h : b.staged <+: b'.staged) : b.staged <+: (b'.setRelated k rels).staged := by
  obtain ⟨t, ht⟩ := h
  refine ⟨t.map fun p => if p.1 = k then (p.1, { p.2 with related := rels }) else p, ?_⟩
  rw [setRelated, ← ht, List.map_append, setRelated_staged_of_not_mem rels hk]

/-- Staging a key that nobody knows keeps a build consistent. -/
theorem Inv.stage (hinv : b.Inv P) (hs : b.status P k = none) (d : Descriptor K)
    (inspected : List K) :
    Inv P { b with inspected := inspected, staged := b.staged ++ [(k, d)] } := by
  obtain ⟨hP, hk, ha⟩ := status_eq_none_iff.mp hs
  have hkeys : ({ b with inspected := inspected, staged := b.staged ++ [(k, d)] } : Build K).keys =
      b.keys ++ [k] := by
    simp [keys]
  refine ⟨?_, hinv.absent_nodup, ?_, ?_, hinv.absent_fresh⟩
  · rw [hkeys, List.nodup_append]
    exact ⟨hinv.keys_nodup, by simp, fun a ha' c hc => by
      rw [List.mem_singleton] at hc
      rintro rfl
      exact hk (hc ▸ ha')⟩
  · intro k' hk' hmem
    rw [hkeys, List.mem_append, List.mem_singleton] at hmem
    rcases hmem with hold | rfl
    · exact hinv.absent_not_staged k' hk' hold
    · exact ha hk'
  · intro k' hmem
    rw [hkeys, List.mem_append, List.mem_singleton] at hmem
    rcases hmem with hold | rfl
    · exact hinv.staged_fresh k' hold
    · exact hP

/-- Recording a key that nobody knows as none keeps a build consistent. -/
theorem Inv.markAbsent (hinv : b.Inv P) (hs : b.status P k = none) (inspected : List K) :
    Inv P { b with inspected := inspected, absent := b.absent ++ [k] } := by
  obtain ⟨hP, hk, ha⟩ := status_eq_none_iff.mp hs
  refine ⟨hinv.keys_nodup, ?_, ?_, hinv.staged_fresh, ?_⟩
  · rw [List.nodup_append]
    exact ⟨hinv.absent_nodup, by simp, fun a ha' c hc => by
      rw [List.mem_singleton] at hc
      rintro rfl
      exact ha (hc ▸ ha')⟩
  · intro k' hmem
    rw [List.mem_append, List.mem_singleton] at hmem
    rcases hmem with hold | rfl
    · exact hinv.absent_not_staged k' hold
    · exact hk
  · intro k' hmem
    rw [List.mem_append, List.mem_singleton] at hmem
    rcases hmem with hold | rfl
    · exact hinv.absent_fresh k' hold
    · exact hP

theorem Inv.setRelated (hinv : b.Inv P) (rels : List (String × K)) :
    (b.setRelated k rels).Inv P := by
  refine ⟨?_, hinv.absent_nodup, ?_, ?_, hinv.absent_fresh⟩
  · rw [keys_setRelated]
    exact hinv.keys_nodup
  · rw [keys_setRelated]
    exact hinv.absent_not_staged
  · rw [keys_setRelated]
    exact hinv.staged_fresh

end Build

variable (I : Introspector K) (P : Catalog K)

/-- `sub` resolves keys as a request does: from a consistent build, a success answers the key's
status and grows the build soundly. -/
def ResolvesSoundly (sub : K → Build K → Build K × Except ConfigError (Option K)) : Prop :=
  ∀ key b b' r, b.Inv P → sub key b = (b', .ok r) → b.Resolved I P b' ∧ b'.Answers I P key r

variable {I P}

omit [DecidableEq K] in
/-- After a failure the remaining fields are skipped. -/
theorem foldl_relateField_error (sub : K → Build K → Build K × Except ConfigError (Option K))
    (b : Build K) (e : ConfigError) :
    ∀ fields : List (FieldSpec K), fields.foldl (relateField sub) (b, .error e) = (b, .error e)
  | [] => rfl
  | _ :: fields => foldl_relateField_error sub b e fields

/-- The loop over a new entity's fields, for any resolution of candidates that meets
`ResolvesSoundly`: it grows the build soundly, every non-scalar candidate ends up known, and the
relationships are the ones the final build's knowledge gives. -/
theorem foldl_relateField_ok {sub : K → Build K → Build K × Except ConfigError (Option K)}
    (hsub : ResolvesSoundly I P sub) :
    ∀ (fields : List (FieldSpec K)) (b b' : Build K) (rels rels' : List (String × K)),
      b.Inv P → fields.foldl (relateField sub) (b, .ok rels) = (b', .ok rels') →
      b.Resolved I P b' ∧
        (∀ f ∈ fields, f.field.kind ≠ .scalar → b'.status P (I.canonical f.candidate) ≠ none) ∧
        rels' = fields.foldl (I.relationStep (b'.status P)) rels
  | [], b, b', rels, rels', hinv, h => by
    simp only [List.foldl_nil, Prod.mk.injEq, Except.ok.injEq] at h
    obtain ⟨rfl, rfl⟩ := h
    exact ⟨Build.Resolved.refl hinv I, by simp, rfl⟩
  | f :: fields, b, b', rels, rels', hinv, h => by
    rw [List.foldl_cons] at h
    by_cases hkind : f.field.kind = .scalar
    · -- a scalar field is skipped, and relates to nothing
      simp only [relateField, hkind, ↓reduceIte] at h
      obtain ⟨hres, hknown, hrels⟩ := foldl_relateField_ok hsub fields b b' rels rels' hinv h
      refine ⟨hres, ?_, ?_⟩
      · intro g hg hgkind
        rcases List.mem_cons.mp hg with rfl | hg
        · exact absurd hkind hgkind
        · exact hknown g hg hgkind
      · simp [hrels, Introspector.relationStep, Introspector.relates, hkind]
    · simp only [relateField, hkind, ↓reduceIte] at h
      rcases hcall : sub f.candidate b with ⟨b₁, _ | r⟩
      · rw [hcall] at h
        simp [foldl_relateField_error] at h
      obtain ⟨hres₁, hans⟩ := hsub f.candidate b b₁ r hinv hcall
      -- the candidate's status, which the rest of the loop only confirms
      have hrel : ∃ rels₁, fields.foldl (relateField sub) (b₁, .ok rels₁) = (b', .ok rels') ∧
          ∀ σ : K → Option Bool, (∀ k x, b₁.status P k = some x → σ k = some x) →
            rels₁ = I.relationStep σ rels f := by
        rcases hans with ⟨rfl, hent⟩ | ⟨rfl, hnone⟩
        · refine ⟨_, by rw [hcall] at h; exact h, fun σ hσ => ?_⟩
          simp [Introspector.relationStep, Introspector.relates, hkind, hσ _ _ hent]
        · refine ⟨_, by rw [hcall] at h; exact h, fun σ hσ => ?_⟩
          simp [Introspector.relationStep, Introspector.relates, hσ _ _ hnone]
      obtain ⟨rels₁, hrest, hrels₁⟩ := hrel
      obtain ⟨hres₂, hknown, hrels⟩ :=
        foldl_relateField_ok hsub fields b₁ b' rels₁ rels' hres₁.inv hrest
      have hmono : ∀ k x, b₁.status P k = some x → b'.status P k = some x :=
        fun _ _ hx => Build.status_mono hres₂.grows hres₂.inv hx
      refine ⟨hres₁.trans hres₂, ?_, ?_⟩
      · intro g hg hgkind
        rcases List.mem_cons.mp hg with rfl | hg
        · rcases hans with ⟨-, hx⟩ | ⟨-, hx⟩ <;> simp [hmono _ _ hx]
        · exact hknown g hg hgkind
      · rw [hrels, List.foldl_cons, hrels₁ _ hmono]

/-- A key the build already knows is answered at once, whatever the fuel. -/
theorem resolve_of_status_eq_some {fuel : Nat} {key : K} {b : Build K} {x : Bool}
    (hs : b.status P (I.canonical key) = some x) :
    resolve I P fuel key b = (b, .ok (if x then some (I.canonical key) else none)) := by
  unfold resolve
  cases hP : P.find? (I.canonical key) with
  | some v =>
    rw [Build.status_of_find? hP] at hs
    cases v <;> simp_all
  | none =>
    by_cases hk : I.canonical key ∈ b.keys
    · obtain rfl := Option.some.inj ((Build.status_of_mem_keys hP hk).symm.trans hs)
      rw [← Build.any_fst_eq_iff] at hk
      simp [hP, hk]
    · have hany : b.staged.any (·.1 = I.canonical key) = false := by
        rw [← Bool.not_eq_true, Build.any_fst_eq_iff]
        exact hk
      by_cases ha : I.canonical key ∈ b.absent
      · obtain rfl := Option.some.inj ((Build.status_of_mem_absent hP hk ha).symm.trans hs)
        simp [hP, hany, ha]
      · rw [Build.status_eq_none_iff.mpr ⟨hP, hk, ha⟩] at hs
        cases hs

theorem resolved_of_status_eq_some {fuel : Nat} {key : K} {b b' : Build K} {r : Option K}
    {x : Bool} (hinv : b.Inv P) (hs : b.status P (I.canonical key) = some x)
    (h : resolve I P fuel key b = (b', .ok r)) : b.Resolved I P b' ∧ b'.Answers I P key r := by
  rw [resolve_of_status_eq_some hs, Prod.mk.injEq, Except.ok.injEq] at h
  obtain ⟨rfl, rfl⟩ := h
  refine ⟨Build.Resolved.refl hinv I, ?_⟩
  cases x
  · exact Or.inr ⟨rfl, hs⟩
  · exact Or.inl ⟨rfl, hs⟩

/-- Once the fields of a new entity are resolved, giving it its relationships builds it from its
shape, and every other entity staged meanwhile stays built. -/
theorem newBuilt_setRelated {b b₃ : Build K} {k : K} {S : Shape K} {inspected : List K}
    (hk : k ∉ b.keys) (hins : I.inspect k = .ok (some S))
    (hres : Build.Resolved I P
      { b with inspected := inspected, staged := b.staged ++ [(k, Descriptor.ofShape k S)] } b₃)
    (hknown : ∀ f ∈ S.fields, f.field.kind ≠ .scalar → b₃.status P (I.canonical f.candidate) ≠ none) :
    Build.NewBuilt I P b (b₃.setRelated k (I.relations (b₃.status P) S.fields)) := by
  intro e he hek
  rw [Build.status_setRelated]
  obtain ⟨e₀, he₀, rfl⟩ := List.mem_map.mp he
  by_cases hkey : e₀.1 = k
  · -- the entity itself, with the relationships its fields gave
    have hmem := Build.mem_of_mem_keys hres.grows.staged hres.inv.keys_nodup he₀
      (by simp [Build.keys, hkey])
    rcases List.mem_append.mp hmem with hold | hnew
    · exact absurd (hkey ▸ List.mem_map_of_mem hold) hk
    · rw [List.mem_singleton.mp hnew]
      simp only [↓reduceIte]
      exact ⟨S, hins, rfl, hknown⟩
  · -- an entity staged while resolving the fields
    simp only [hkey, ↓reduceIte] at hek ⊢
    refine hres.newBuilt e₀ he₀ ?_
    simp [Build.keys, List.mem_map] at hek ⊢
    exact ⟨hek, hkey⟩

/-- Inspecting a key nobody knows, the fields of a new entity being resolved soundly: a success
stages the entity, builds it from its shape once its fields are resolved, and answers it. -/
theorem resolve_inspect_resolves {n : Nat} (ih : ResolvesSoundly I P (resolve I P n))
    {key : K} {b b' : Build K} {r : Option K} (hinv : b.Inv P)
    (hs : b.status P (I.canonical key) = none) (h : resolve I P (n + 1) key b = (b', .ok r)) :
    b.Resolved I P b' ∧ b'.Answers I P key r := by
  obtain ⟨hP, hk, ha⟩ := Build.status_eq_none_iff.mp hs
  have hany : b.staged.any (·.1 = I.canonical key) = false := by
    rw [← Bool.not_eq_true, Build.any_fst_eq_iff]
    exact hk
  have hcontains : b.absent.contains (I.canonical key) = false := by
    simpa using ha
  unfold resolve at h
  simp only [hP, hany, hcontains, Bool.false_eq_true, ↓reduceIte] at h
  rcases hins : I.inspect (I.canonical key) with e | _ | S
  · rw [hins] at h
    simp at h
  · -- the key is no entity
    rw [hins, Prod.mk.injEq, Except.ok.injEq] at h
    obtain ⟨rfl, rfl⟩ := h
    refine ⟨⟨⟨List.prefix_refl _, List.prefix_append _ _⟩,
      hinv.markAbsent hs (b.inspected ++ [I.canonical key]), ?_⟩, Or.inr ⟨rfl, ?_⟩⟩
    · intro e he hek
      exact absurd (List.mem_map_of_mem he) hek
    · exact Build.status_of_mem_absent hP hk (List.mem_append_right _ (List.mem_singleton_self _))
  · -- the key is staged as a new entity, then its fields are resolved
    simp only [hins] at h
    have hinv₂ := hinv.stage hs (Descriptor.ofShape (I.canonical key) S)
      (b.inspected ++ [I.canonical key])
    rcases hfold : List.foldl (relateField (resolve I P n))
        ({ staged := b.staged ++ [(I.canonical key, Descriptor.ofShape (I.canonical key) S)],
           absent := b.absent, inspected := b.inspected ++ [I.canonical key] }, Except.ok [])
        S.fields with ⟨b₃, e | rels⟩
    · rw [hfold] at h
      simp at h
    rw [hfold, Prod.mk.injEq, Except.ok.injEq] at h
    obtain ⟨rfl, rfl⟩ := h
    obtain ⟨hres, hknown, rfl⟩ := foldl_relateField_ok ih S.fields _ b₃ [] rels hinv₂ hfold
    have hkey₃ : I.canonical key ∈ b₃.keys :=
      hres.grows.keys_subset (by simp [Build.keys])
    have hprefix : b.staged <+: b₃.staged :=
      (List.prefix_append b.staged _).trans hres.grows.staged
    refine ⟨⟨⟨Build.prefix_setRelated _ hk hprefix, hres.grows.absent⟩,
      hres.inv.setRelated _, newBuilt_setRelated hk hins hres hknown⟩, Or.inl ⟨rfl, ?_⟩⟩
    · rw [Build.status_setRelated]
      exact Build.status_of_mem_keys hP hkey₃

/-- Every successful resolution grows a consistent build soundly and answers its key. The
induction is on the fuel: a new entity's fields are resolved with one unit less. -/
theorem resolve_resolves (fuel : Nat) : ResolvesSoundly I P (resolve I P fuel) := by
  induction fuel with
  | zero =>
    intro key b b' r hinv h
    rcases hs : b.status P (I.canonical key) with _ | x
    · -- a key nobody knows needs fuel to be inspected
      obtain ⟨hP, hk, ha⟩ := Build.status_eq_none_iff.mp hs
      rw [← Build.any_fst_eq_iff, Bool.not_eq_true] at hk
      unfold resolve at h
      simp [hP, hk, ha] at h
    · exact resolved_of_status_eq_some hinv hs h
  | succ n ih =>
    intro key b b' r hinv h
    rcases hs : b.status P (I.canonical key) with _ | x
    · exact resolve_inspect_resolves ih hinv hs h
    · exact resolved_of_status_eq_some hinv hs h

end EntityQuery
