import Mathlib.Data.List.Nodup
import EntityQuery.Proofs.Resolve
import EntityQuery.Entity.Table
/-!
# The published catalog

A registry answers a key from its catalog when the key is published, and otherwise resolves it
against the catalog and publishes what the request found in one step, or nothing when the
request fails (`get_of_find?`, `get_of_resolve_error`, `get_of_resolve_ok`). Everything else
follows from these three cases and from what one request builds (`resolve_resolves`).

Published bindings are only ever added, after the bindings already there, and only for keys
that were not bound: a request never stages a published key. So every published key keeps its
binding, entity or not, for the registry's whole life (`get_find?_of_find?`).

The invariant of the catalog (`Catalog.Built`) is that every published descriptor is built
from the shape its introspector reports for its key, with a relationship for exactly the fields
that are not scalars and whose candidate's canonical key the catalog binds to an entity, and
that the candidate of every non-scalar field is itself published. A request keeps it
(`get_built`): the entities it publishes were finished before the request returned, and what it
knew of each candidate is what the catalog knows once the request is published
(`status_extend_bindings`). It holds after every run of requests (`getAll_built`).

Readers that find their key published change nothing, and requests that build are serialized,
so the catalog a reader sees at any moment is one of the catalogs of the sequential run.
-/

set_option autoImplicit false

namespace EntityQuery

variable {K : Type} [DecidableEq K]

namespace Build

variable {P : Catalog K} {b : Build K}

theorem inv_empty : ({} : Build K).Inv P :=
  ⟨List.nodup_nil, List.nodup_nil, by simp, by simp [keys], by simp⟩

omit [DecidableEq K] in
theorem keys_bindings (b : Build K) : b.bindings.map (·.1) = b.keys ++ b.absent := by
  simp [bindings, keys, List.map_map, Function.comp_def]

theorem Inv.bindings_nodup (hinv : b.Inv P) : (b.bindings.map (·.1)).Nodup := by
  rw [keys_bindings, List.nodup_append]
  exact ⟨hinv.keys_nodup, hinv.absent_nodup,
    fun a ha c hc heq => hinv.absent_not_staged c hc (heq ▸ ha)⟩

/-- Once published, a consistent build's findings are what the catalog says. -/
theorem status_extend_bindings (hinv : b.Inv P) : (P.extend b.bindings).status = b.status P := by
  funext k
  cases hP : P.find? k with
  | some v =>
    have hs : P.status k = some v.isSome := by simp [Catalog.status, hP]
    rw [status_of_find? hP, Catalog.status_extend_of_status _ hs]
  | none =>
    have hext := Catalog.find?_extend_of_find?_eq_none b.bindings hP
    by_cases hk : k ∈ b.keys
    · -- a staged key is published with its descriptor
      obtain ⟨e, he, rfl⟩ := List.mem_map.mp hk
      have hlookup : b.bindings.lookup e.1 = some (some e.2) :=
        lookup_of_mem_of_nodup hinv.bindings_nodup
          (List.mem_append_left _ (List.mem_map.mpr ⟨e, he, rfl⟩))
      rw [status_of_mem_keys hP hk]
      simp [Catalog.status, hext, hlookup]
    · by_cases ha : k ∈ b.absent
      · -- a key found to be none is published as none
        have hlookup : b.bindings.lookup k = some none :=
          lookup_of_mem_of_nodup hinv.bindings_nodup
            (List.mem_append_right _ (List.mem_map.mpr ⟨k, ha, rfl⟩))
        rw [status_of_mem_absent hP hk ha]
        simp [Catalog.status, hext, hlookup]
      · have hlookup : b.bindings.lookup k = none := by
          apply lookup_eq_none_of_not_mem
          rw [keys_bindings, List.mem_append]
          exact fun h => h.elim hk ha
        rw [status_eq_none_iff.mpr ⟨hP, hk, ha⟩]
        simp [Catalog.status, hext, hlookup]

/-- A descriptor of the extended catalog was published before or staged by the request. -/
theorem find?_extend_bindings {k : K} {d : Descriptor K}
    (h : (P.extend b.bindings).find? k = some (some d)) :
    P.find? k = some (some d) ∨ (k, d) ∈ b.staged := by
  cases hP : P.find? k with
  | some v =>
    rw [Catalog.find?_extend_of_find? _ hP] at h
    exact Or.inl (h ▸ rfl)
  | none =>
    rw [Catalog.find?_extend_of_find?_eq_none _ hP] at h
    rcases List.mem_append.mp (mem_of_lookup_eq_some h) with hstaged | habsent
    · obtain ⟨e, he, heq⟩ := List.mem_map.mp hstaged
      obtain ⟨rfl, hd⟩ := Prod.mk.inj heq
      exact Or.inr (Option.some.inj hd ▸ he)
    · obtain ⟨_, _, heq⟩ := List.mem_map.mp habsent
      cases (Prod.mk.inj heq).2

end Build

namespace Catalog

/-- Every published descriptor is built from the shape of its key, its relationships and
candidates read off the catalog itself. -/
def Built (I : Introspector K) (c : Catalog K) : Prop :=
  ∀ k d, c.find? k = some (some d) → I.BuiltFrom c.status k d

theorem built_empty (I : Introspector K) : ({} : Catalog K).Built I := by
  intro k d h
  simp [find?] at h

/-- Publishing what a successful request found keeps the catalog built. -/
theorem Built.extend {I : Introspector K} {P : Catalog K} {b : Build K} (h : P.Built I)
    (hres : ({} : Build K).Resolved I P b) : (P.extend b.bindings).Built I := by
  intro k d hd
  rcases Build.find?_extend_bindings hd with hold | hnew
  · exact (h k d hold).mono fun _ _ hx => status_extend_of_status _ hx
  · rw [Build.status_extend_bindings hres.inv]
    exact hres.newBuilt (k, d) hnew (by simp [Build.keys])

end Catalog

namespace Registry

variable {r : Registry K} {key : K}

/-- The registry after asking it for each key in turn, whatever each answer was. -/
def getAll (r : Registry K) : List K → Registry K
  | [] => r
  | key :: keys => (r.get key).2.getAll keys

theorem get_of_find? {v : Option (Descriptor K)}
    (h : r.catalog.find? (r.introspector.canonical key) = some v) : r.get key = (.ok v, r) := by
  simp [get, h]

theorem get_of_resolve_error {b : Build K} {e : ConfigError}
    (hfind : r.catalog.find? (r.introspector.canonical key) = none)
    (hres : resolve r.introspector r.catalog r.introspector.reach
      (r.introspector.canonical key) {} = (b, .error e)) :
    r.get key = (.error e, { r with inspected := r.inspected ++ b.inspected }) := by
  simp [get, hfind, hres]

theorem get_of_resolve_ok {b : Build K} {found : Option K}
    (hfind : r.catalog.find? (r.introspector.canonical key) = none)
    (hres : resolve r.introspector r.catalog r.introspector.reach
      (r.introspector.canonical key) {} = (b, .ok found)) :
    r.get key = (.ok (found.bind (r.catalog.extend b.bindings).descriptor?),
      { r with catalog := r.catalog.extend b.bindings, inspected := r.inspected ++ b.inspected }) := by
  simp [get, hfind, hres]

/-- What a request does to the catalog: nothing, or publish what a successful resolution from
an empty build found. -/
theorem get_catalog_cases (r : Registry K) (key : K) :
    (r.get key).2.catalog = r.catalog ∨
      ∃ b found, resolve r.introspector r.catalog r.introspector.reach
        (r.introspector.canonical key) {} = (b, .ok found) ∧
        r.catalog.find? (r.introspector.canonical key) = none ∧
        (r.get key).2.catalog = r.catalog.extend b.bindings := by
  cases hfind : r.catalog.find? (r.introspector.canonical key) with
  | some v => exact Or.inl (by rw [get_of_find? hfind])
  | none =>
    rcases hres : resolve r.introspector r.catalog r.introspector.reach
        (r.introspector.canonical key) {} with ⟨b, e | found⟩
    · exact Or.inl (by rw [get_of_resolve_error hfind hres])
    · exact Or.inr ⟨b, found, rfl, rfl, by rw [get_of_resolve_ok hfind hres]⟩

@[simp] theorem introspector_get (r : Registry K) (key : K) :
    (r.get key).2.introspector = r.introspector := by
  cases hfind : r.catalog.find? (r.introspector.canonical key) with
  | some v => rw [get_of_find? hfind]
  | none =>
    rcases hres : resolve r.introspector r.catalog r.introspector.reach
        (r.introspector.canonical key) {} with ⟨b, e | found⟩
    · rw [get_of_resolve_error hfind hres]
    · rw [get_of_resolve_ok hfind hres]

@[simp] theorem introspector_getAll :
    ∀ (keys : List K) (r : Registry K), (r.getAll keys).introspector = r.introspector
  | [], _ => rfl
  | key :: keys, r => by rw [getAll, introspector_getAll keys, introspector_get]

/-- A request keeps the catalog built. -/
theorem get_built (h : r.catalog.Built r.introspector) (key : K) :
    (r.get key).2.catalog.Built r.introspector := by
  rcases get_catalog_cases r key with hsame | ⟨b, found, hres, -, hext⟩
  · rw [hsame]
    exact h
  · rw [hext]
    exact h.extend (resolve_resolves r.introspector.reach _ _ _ _ Build.inv_empty hres).1

theorem getAll_built :
    ∀ (keys : List K) (r : Registry K), r.catalog.Built r.introspector →
      (r.getAll keys).catalog.Built r.introspector
  | [], _, h => h
  | key :: keys, r, h => by
    have hstep := get_built h key
    rw [← introspector_get r key] at hstep
    rw [getAll, ← introspector_get r key]
    exact getAll_built keys _ hstep

end Registry

namespace Introspector

variable {I : Introspector K}

omit [DecidableEq K] in
/-- With distinct field names, a field's own entry is the one a look-up by its name finds. -/
theorem lookup_filter_map_of_nodup {fields : List (FieldSpec K)}
    (hnodup : (fields.map (·.field.name)).Nodup) (p : FieldSpec K → Bool) {f : FieldSpec K}
    (hf : f ∈ fields) :
    ((fields.filter p).map fun g => (g.field.name, I.canonical g.candidate)).lookup f.field.name =
      if p f then some (I.canonical f.candidate) else none := by
  have hsub : List.Sublist
      (((fields.filter p).map fun g => (g.field.name, I.canonical g.candidate)).map (·.1))
      (fields.map (·.field.name)) := by
    rw [List.map_map]
    exact (List.filter_sublist).map _
  by_cases hp : p f
  · rw [if_pos hp]
    refine lookup_of_mem_of_nodup (hsub.nodup hnodup) ?_
    exact List.mem_map.mpr ⟨f, List.mem_filter.mpr ⟨hf, hp⟩, rfl⟩
  · rw [if_neg hp]
    apply lookup_eq_none_of_not_mem
    intro hmem
    obtain ⟨q, hq, hname⟩ := List.mem_map.mp hmem
    obtain ⟨g, hg, rfl⟩ := List.mem_map.mp hq
    have hgf : g = f :=
      List.inj_on_of_nodup_map hnodup (List.mem_filter.mp hg).1 hf hname
    exact hp (hgf ▸ (List.mem_filter.mp hg).2)

end Introspector

namespace Catalog

variable {I : Introspector K}

theorem status_eq_some_true_iff {c : Catalog K} {k : K} :
    c.status k = some true ↔ (c.descriptor? k).isSome := by
  cases h : c.find? k with
  | none => simp [status, descriptor?, h]
  | some v => cases v <;> simp [status, descriptor?, h]

/-- What a descriptor `d` published for key `t` is, `S` being the shape reported for `t`. -/
structure ShapedBy (I : Introspector K) (c : Catalog K) (t : K) (S : Shape K) (d : Descriptor K) :
    Prop where
  inspect : I.inspect t = .ok (some S)
  key : d.key = t
  fields : d.fields = S.fields.map (·.field)
  name : d.name = if S.entityName = "" then S.typeName else S.entityName
  idField : d.idField? = (S.fields.map (·.field)).find? (·.isIdentifier)
  attributesField : d.attributesField? = (S.fields.map (·.field)).find? (·.isAttributes)
  /-- The candidate of every non-scalar field is published, entity or not. -/
  candidate_published : ∀ f ∈ S.fields, f.field.kind ≠ .scalar →
    (c.find? (I.canonical f.candidate)).isSome
  /-- A non-scalar field whose candidate is an entity relates to that entity. -/
  related_entity : ∀ f ∈ S.fields, f.field.kind ≠ .scalar → ∀ r : Descriptor K,
    c.find? (I.canonical f.candidate) = some (some r) → c.relatedOf? d f.field.name = some r
  /-- A field whose candidate is published as no entity is no relationship. -/
  related_none : ∀ f ∈ S.fields, c.find? (I.canonical f.candidate) = some none →
    d.related? f.field.name = none
  scalar_unrelated : ∀ f ∈ S.fields, f.field.kind = .scalar → d.related? f.field.name = none
  /-- Each relationship field once, in declaration order. -/
  relationshipFields : d.relationshipFields =
    (S.fields.filter fun f =>
      f.field.kind != .scalar && (c.descriptor? (I.canonical f.candidate)).isSome).map
      (·.field.name)

/-- Every relationship of a published descriptor leads to a published descriptor. -/
def Closed (c : Catalog K) : Prop :=
  ∀ t d, c.find? t = some (some d) → ∀ n k, d.related? n = some k → ∃ r, c.find? k = some (some r)

theorem relates_eq {c : Catalog K} :
    I.relates c.status = fun f =>
      f.field.kind != .scalar && (c.descriptor? (I.canonical f.candidate)).isSome := by
  funext f
  rw [Introspector.relates]
  cases h : c.find? (I.canonical f.candidate) with
  | none => simp [status, descriptor?, h]
  | some v => cases v <;> simp [status, descriptor?, h]

/-- A descriptor built from its shape in a catalog, with distinct field names, is the descriptor
the shape describes. -/
theorem shapedBy_of_builtFrom {c : Catalog K} {t : K} {d : Descriptor K}
    (hnames : ∀ S, I.inspect t = .ok (some S) → (S.fields.map (·.field.name)).Nodup)
    (h : I.BuiltFrom c.status t d) : ∃ S, c.ShapedBy I t S d := by
  obtain ⟨S, hinspect, rfl, hknown⟩ := h
  have hrel := Introspector.relations_of_nodup (I := I) (σ := c.status) (hnames S hinspect)
  rw [relates_eq] at hrel
  have hlookup : ∀ f ∈ S.fields, (Descriptor.related?
      { Descriptor.ofShape t S with related := I.relations c.status S.fields } f.field.name) =
        if f.field.kind != .scalar && (c.descriptor? (I.canonical f.candidate)).isSome then
          some (I.canonical f.candidate) else none := by
    intro f hf
    rw [Descriptor.related?, hrel]
    exact Introspector.lookup_filter_map_of_nodup (hnames S hinspect) _ hf
  refine ⟨S, ⟨hinspect, rfl, rfl, ?_, rfl, rfl, ?_, ?_, ?_, ?_, ?_⟩⟩
  · simp [Descriptor.ofShape]
  · intro f hf hkind
    have hk := hknown f hf hkind
    simpa [status, Option.isSome_iff_ne_none] using hk
  · intro f hf hkind r hr
    have hd : c.descriptor? (I.canonical f.candidate) = some r := descriptor?_eq_some_iff.mpr hr
    simp [relatedOf?, hlookup f hf, hkind, hd]
  · intro f hf hr
    have hd : c.descriptor? (I.canonical f.candidate) = none := by simp [descriptor?, hr]
    simp [hlookup f hf, hd]
  · intro f hf hkind
    simp [hlookup f hf, hkind]
  · simp [Descriptor.relationshipFields, hrel, List.map_map, Function.comp_def]

/-- A built catalog is closed under relationships. -/
theorem Built.closed {c : Catalog K} (h : c.Built I) : c.Closed := by
  intro t d hd n k hk
  obtain ⟨S, -, rfl, -⟩ := h t d hd
  have hmem : (n, k) ∈ I.relations c.status S.fields := mem_of_lookup_eq_some hk
  have hs := Introspector.status_of_mem_relations hmem
  rw [status_eq_some_true_iff] at hs
  obtain ⟨r, hr⟩ := Option.isSome_iff_exists.mp hs
  exact ⟨r, descriptor?_eq_some_iff.mp hr⟩

end Catalog

/-- Whatever requests a registry with introspector `I` has answered, successfully or not, every
descriptor it publishes is the one the shape of its key describes, with each relationship field
once and in declaration order, and its catalog is closed under relationships. Field names must
be distinct within a shape. -/
theorem published_descriptors_follow_shapes (I : Introspector K)
    (hnames : ∀ k S, I.inspect k = .ok (some S) → (S.fields.map (·.field.name)).Nodup)
    (keys : List K) :
    let c := (({ introspector := I } : Registry K).getAll keys).catalog
    (∀ t d, c.find? t = some (some d) → ∃ S, c.ShapedBy I t S d) ∧ c.Closed := by
  intro c
  have hbuilt : c.Built I := by
    have h := Registry.getAll_built keys { introspector := I } (Catalog.built_empty I)
    simpa using h
  exact ⟨fun t d hd => Catalog.shapedBy_of_builtFrom (hnames t) (hbuilt t d hd), hbuilt.closed⟩

/-- A table reports a shape only for a key it lists with that shape. -/
theorem Introspector.ofTable_inspect_eq_some {entries : List (String × Option TableEntry)}
    {k : String} {S : Shape String} (h : (Introspector.ofTable entries).inspect k = .ok (some S)) :
    (k, some (TableEntry.entity S)) ∈ entries := by
  unfold Introspector.ofTable at h
  simp only at h
  split at h
  · cases h
  · rename_i s hs
    cases h
    exact mem_of_lookup_eq_some (Option.join_eq_some_iff.mp hs)
  · cases h

/-- Accounts and users that relate to each other, a user's region that the table does not list,
and a ledger that relates to a key whose inspection fails. -/
def accountTable : List (String × Option TableEntry) :=
  [("Account", some (.entity { typeName := "Account", fields :=
      [⟨{ name := "Id", wire := "Id", kind := .scalar, isIdentifier := true }, ""⟩,
       ⟨{ name := "Owner", wire := "Owner", kind := .nested }, "User"⟩] })),
   ("User", some (.entity { typeName := "User", entityName := "User__c", fields :=
      [⟨{ name := "Accounts", wire := "Accounts", kind := .collection }, "Account"⟩,
       ⟨{ name := "Region", wire := "Region", kind := .nested }, "Missing"⟩] })),
   ("Ledger", some (.entity { typeName := "Ledger", fields :=
      [⟨{ name := "Owner", wire := "Owner", kind := .nested }, "User"⟩,
       ⟨{ name := "Audit", wire := "Audit", kind := .nested }, "Broken"⟩] })),
   ("Broken", some (.failure { entity := "Broken", problem := .stated "no" }))]

/-- The account table after a failed request for the ledger, the cyclic pair, and a key it does
not list. -/
theorem published_descriptors_follow_shapes_accounts :
    (∀ k S, (Introspector.ofTable accountTable).inspect k = .ok (some S) →
      (S.fields.map (·.field.name)).Nodup) ∧
    let c := (({ introspector := Introspector.ofTable accountTable } : Registry String).getAll
      ["Ledger", "Account", "Missing"]).catalog
    (∀ t d, c.find? t = some (some d) → ∃ S, c.ShapedBy (Introspector.ofTable accountTable) t S d) ∧
      c.Closed := by
  have hnames : ∀ k S, (Introspector.ofTable accountTable).inspect k = .ok (some S) →
      (S.fields.map (·.field.name)).Nodup := by
    intro k S h
    have hmem := Introspector.ofTable_inspect_eq_some h
    simp [accountTable] at hmem
    rcases hmem with ⟨rfl, rfl⟩ | ⟨rfl, rfl⟩ | ⟨rfl, rfl⟩ <;> decide
  exact ⟨hnames, published_descriptors_follow_shapes _ hnames _⟩

omit [DecidableEq K] in
theorem Catalog.extend_nil (c : Catalog K) : c.extend [] = c := by
  simp [Catalog.extend]

omit [DecidableEq K] in
theorem Build.length_filter_bindings (b : Build K) :
    (b.bindings.filter (·.2.isSome)).length = b.staged.length := by
  simp [Build.bindings, List.filter_append, List.filter_map, Function.comp_def]

namespace Registry

variable {r : Registry K} {key : K}

/-- A request publishes the findings of one consistent build: bindings for distinct keys that
were not bound, entities first. A request that answers from the catalog or fails publishes the
empty build. -/
theorem get_publishes (r : Registry K) (key : K) :
    ∃ b : Build K, b.Inv r.catalog ∧ (r.get key).2.catalog = r.catalog.extend b.bindings := by
  rcases get_catalog_cases r key with hsame | ⟨b, found, hres, -, hext⟩
  · exact ⟨{}, Build.inv_empty, by rw [hsame]; exact (Catalog.extend_nil _).symm⟩
  · exact ⟨b, (resolve_resolves r.introspector.reach _ _ _ _ Build.inv_empty hres).1.inv, hext⟩

theorem get_catalog_of_error {e : ConfigError} (h : (r.get key).1 = .error e) :
    (r.get key).2.catalog = r.catalog := by
  cases hfind : r.catalog.find? (r.introspector.canonical key) with
  | some v => rw [get_of_find? hfind]
  | none =>
    rcases hres : resolve r.introspector r.catalog r.introspector.reach
        (r.introspector.canonical key) {} with ⟨b, e' | found⟩
    · rw [get_of_resolve_error hfind hres]
    · rw [get_of_resolve_ok hfind hres] at h
      cases h

/-- A published key keeps its binding, entity or not. -/
theorem get_find?_of_find? {t : K} {v : Option (Descriptor K)} (h : r.catalog.find? t = some v) :
    (r.get key).2.catalog.find? t = some v := by
  obtain ⟨b, -, hext⟩ := get_publishes r key
  rw [hext, Catalog.find?_extend_of_find? _ h]

theorem getAll_find?_of_find? {t : K} {v : Option (Descriptor K)} :
    ∀ (keys : List K) (r : Registry K), r.catalog.find? t = some v →
      (r.getAll keys).catalog.find? t = some v
  | [], _, h => h
  | _ :: keys, _, h => getAll_find?_of_find? keys _ (get_find?_of_find? h)

/-- With an idempotent canonical form, a request that answers a descriptor leaves it published
under the key's canonical form. -/
theorem get_find?_of_ok {d : Descriptor K}
    (hcanon : r.introspector.canonical (r.introspector.canonical key) =
      r.introspector.canonical key)
    (h : (r.get key).1 = .ok (some d)) :
    (r.get key).2.catalog.find? (r.introspector.canonical key) = some (some d) := by
  cases hfind : r.catalog.find? (r.introspector.canonical key) with
  | some v =>
    rw [get_of_find? hfind] at h ⊢
    rw [hfind]
    cases h
    rfl
  | none =>
    rcases hres : resolve r.introspector r.catalog r.introspector.reach
        (r.introspector.canonical key) {} with ⟨b, e | found⟩
    · rw [get_of_resolve_error hfind hres] at h
      cases h
    · rw [get_of_resolve_ok hfind hres] at h ⊢
      obtain ⟨-, hans⟩ := resolve_resolves r.introspector.reach _ _ _ _ Build.inv_empty hres
      simp only [Build.Answers, hcanon] at hans
      rcases hans with ⟨rfl, -⟩ | ⟨rfl, -⟩
      · simpa [Catalog.descriptor?_eq_some_iff] using h
      · cases h

end Registry

/-- One request of a registry changes the published catalog atomically and only by insertion:
a failed request leaves it exactly as it was; a request never replaces or removes a binding,
entity or not; what it adds are bindings for distinct keys that were not bound, and the
number of published entities grows by exactly the number of entities the request staged. With
an idempotent canonical form, once a request has answered a descriptor, every later request
for a key of the same canonical form answers that same descriptor and changes nothing. -/
theorem get_publishes_atomically (r : Registry K) (key : K) :
    (∀ e, (r.get key).1 = .error e → (r.get key).2.catalog = r.catalog) ∧
    (∀ t v, r.catalog.find? t = some v → (r.get key).2.catalog.find? t = some v) ∧
    (∃ b : Build K, (r.get key).2.catalog = r.catalog.extend b.bindings ∧
      (b.bindings.map (·.1)).Nodup ∧ (∀ p ∈ b.bindings, r.catalog.find? p.1 = none) ∧
      (r.get key).2.size = r.size + b.staged.length) ∧
    ((∀ k, r.introspector.canonical (r.introspector.canonical k) = r.introspector.canonical k) →
      ∀ d, (r.get key).1 = .ok (some d) → ∀ (keys : List K) (t : K),
        r.introspector.canonical t = r.introspector.canonical key →
        ((r.get key).2.getAll keys).get t = (.ok (some d), (r.get key).2.getAll keys)) := by
  refine ⟨fun e h => Registry.get_catalog_of_error h, fun t v h => Registry.get_find?_of_find? h,
    ?_, ?_⟩
  · obtain ⟨b, hinv, hext⟩ := Registry.get_publishes r key
    refine ⟨b, hext, hinv.bindings_nodup, ?_, ?_⟩
    · intro p hp
      have hk : p.1 ∈ b.keys ++ b.absent := by
        rw [← Build.keys_bindings]
        exact List.mem_map_of_mem hp
      rcases List.mem_append.mp hk with hstaged | habsent
      · exact hinv.staged_fresh _ hstaged
      · exact hinv.absent_fresh _ habsent
    · rw [Registry.size, Registry.size, hext, Catalog.size_extend, Build.length_filter_bindings]
  · intro hcanon d hd keys t ht
    have hpub := Registry.get_find?_of_ok (hcanon key) hd
    have hlater := Registry.getAll_find?_of_find? keys _ hpub
    rw [← ht] at hlater
    apply Registry.get_of_find?
    rw [Registry.introspector_getAll, Registry.introspector_get]
    exact hlater

/-- On the account table, the request for an account answers a descriptor, and every later
request for it answers that descriptor. -/
theorem get_publishes_atomically_accounts :
    let r : Registry String := { introspector := .ofTable accountTable }
    (∃ d, (r.get "Account").1 = .ok (some d)) ∧
    (∀ k, r.introspector.canonical (r.introspector.canonical k) = r.introspector.canonical k) ∧
    ∀ d, (r.get "Account").1 = .ok (some d) → ∀ (keys : List String) (t : String),
      r.introspector.canonical t = r.introspector.canonical "Account" →
      ((r.get "Account").2.getAll keys).get t = (.ok (some d), (r.get "Account").2.getAll keys) := by
  intro r
  have hcanon : ∀ k, r.introspector.canonical (r.introspector.canonical k) =
      r.introspector.canonical k := fun _ => rfl
  exact ⟨⟨_, rfl⟩, hcanon, (get_publishes_atomically r "Account").2.2.2 hcanon⟩

end EntityQuery
