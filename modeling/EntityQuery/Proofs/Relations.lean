import Mathlib.Data.List.Basic
import EntityQuery.Entity.Registry
/-!
# The relationships of a new entity

A request records a relationship for every field of a new entity that is not a scalar and whose
candidate turns out to be an entity, under the field's name and with the candidate's canonical
key (`Introspector.relations`). What the candidates turned out to be is given as a status: `some
true` for an entity, `some false` for a key known to be no entity, `none` for a key not met.

`Introspector.BuiltFrom` says that a descriptor is the one the introspector's shape gives for its
key, with the relationships read off a status that knows every candidate. It only looks at the
candidates, so it survives any growth of the status (`BuiltFrom.mono`). With pairwise distinct
field names the relationships are one per relating field, in field order
(`relations_of_nodup`).

Catalogs and caches are association lists; with distinct keys a binding is what `lookup` finds
(`lookup_of_mem_of_nodup`), and what `lookup` finds is a binding (`mem_of_lookup_eq_some`).
Searches that meet keys one at a time are measured by the members of a list of keys not met yet,
which meeting a new member lowers (`length_filter_not_mem_lt`).
A catalog's view of a key is its first binding; extending a catalog never changes the view of a
key it binds (`find?_extend_of_find?`), and its size grows by the descriptors added
(`size_extend`).
-/

set_option autoImplicit false

namespace EntityQuery

variable {K : Type}

section AssociationLists

variable [DecidableEq K]

theorem lookup_of_mem_of_nodup {β : Type} {k : K} {v : β} :
    ∀ {l : List (K × β)}, (l.map (·.1)).Nodup → (k, v) ∈ l → l.lookup k = some v
  | [], _, h => absurd h List.not_mem_nil
  | (k', v') :: l, hnodup, h => by
    rw [List.map_cons, List.nodup_cons] at hnodup
    rcases List.mem_cons.mp h with heq | hmem
    · obtain ⟨rfl, rfl⟩ := Prod.mk.inj heq
      simp
    · have hne : (k == k') = false := by
        simpa using fun heq : k = k' => hnodup.1 (heq ▸ List.mem_map.mpr ⟨(k, v), hmem, rfl⟩)
      rw [List.lookup_cons, hne]
      exact lookup_of_mem_of_nodup hnodup.2 hmem

theorem lookup_eq_none_of_not_mem {β : Type} {l : List (K × β)} {k : K}
    (h : k ∉ l.map (·.1)) : l.lookup k = none := by
  rw [List.lookup_eq_none_iff]
  intro p hp
  have hne : k ≠ p.1 := fun heq => h (heq ▸ List.mem_map.mpr ⟨p, hp, rfl⟩)
  simpa using hne

theorem mem_of_lookup_eq_some {β : Type} {l : List (K × β)} {k : K} {v : β}
    (h : l.lookup k = some v) : (k, v) ∈ l := by
  obtain ⟨l₁, l₂, rfl, -⟩ := List.lookup_eq_some_iff.mp h
  simp

/-- The members of a list not yet met are no more once more is met. -/
theorem length_filter_not_mem_anti (l : List K) {seen seen' : List K}
    (h : ∀ k ∈ seen, k ∈ seen') :
    (l.filter (· ∉ seen')).length ≤ (l.filter (· ∉ seen)).length := by
  refine (List.monotone_filter_right _ fun k hk => ?_).length_le
  simp only [decide_eq_true_eq] at hk ⊢
  exact fun hmem => hk (h k hmem)

/-- Meeting a member of a list not met yet leaves fewer of its members to meet. -/
theorem length_filter_not_mem_lt {l seen : List K} {k : K} (hk : k ∈ l) (hnot : k ∉ seen) :
    (l.filter (· ∉ seen ++ [k])).length < (l.filter (· ∉ seen)).length := by
  have hsplit : l.filter (· ∉ seen ++ [k]) = (l.filter (· ∉ seen)).filter (· ≠ k) := by
    rw [List.filter_filter]
    congr 1
    funext x
    simp [and_comm]
  rw [hsplit]
  exact List.length_filter_lt_length_iff_exists.mpr ⟨k, by simp [hk, hnot], by simp⟩

end AssociationLists

namespace Descriptor

theorem relate_of_not_mem {rels : List (String × K)} {fieldName : String} (k : K)
    (h : fieldName ∉ rels.map (·.1)) : relate rels fieldName k = rels ++ [(fieldName, k)] := by
  have hany : (rels.any fun p => p.1 == fieldName) = false := by
    rw [List.any_eq_false]
    intro p hp heq
    exact h (List.mem_map.mpr ⟨p, hp, by simpa using heq⟩)
  simp only [relate, hany, Bool.false_eq_true, ↓reduceIte]

/-- A relationship is either an old one or the one just added. -/
theorem mem_relate {rels : List (String × K)} {fieldName : String} {k : K}
    {p : String × K} (h : p ∈ relate rels fieldName k) : p ∈ rels ∨ p = (fieldName, k) := by
  unfold relate at h
  split at h
  · obtain ⟨q, hq, rfl⟩ := List.mem_map.mp h
    by_cases hname : q.1 = fieldName
    · right
      simp [hname]
    · left
      simpa [hname] using hq
  · rcases List.mem_append.mp h with hold | hnew
    · exact Or.inl hold
    · exact Or.inr (List.mem_singleton.mp hnew)

end Descriptor

namespace Catalog

variable [DecidableEq K]

/-- What a catalog says about a key: `some true` for an entity, `some false` for a key bound to
no entity, `none` for a key it does not bind. -/
def status (c : Catalog K) (k : K) : Option Bool := (c.find? k).map Option.isSome

theorem find?_extend (c : Catalog K) (more : List (K × Option (Descriptor K))) (k : K) :
    (c.extend more).find? k = (c.find? k).or (more.lookup k) :=
  List.lookup_append

theorem find?_extend_of_find? {c : Catalog K} {k : K} {v : Option (Descriptor K)}
    (more : List (K × Option (Descriptor K))) (h : c.find? k = some v) :
    (c.extend more).find? k = some v := by
  rw [find?_extend, h, Option.some_or]

theorem find?_extend_of_find?_eq_none {c : Catalog K} {k : K}
    (more : List (K × Option (Descriptor K))) (h : c.find? k = none) :
    (c.extend more).find? k = more.lookup k := by
  rw [find?_extend, h, Option.none_or]

theorem status_extend_of_status {c : Catalog K} {k : K} {x : Bool}
    (more : List (K × Option (Descriptor K))) (h : c.status k = some x) :
    (c.extend more).status k = some x := by
  obtain ⟨v, hv, rfl⟩ := Option.map_eq_some_iff.mp h
  simp [status, find?_extend_of_find? more hv]

omit [DecidableEq K] in
theorem size_extend (c : Catalog K) (more : List (K × Option (Descriptor K))) :
    (c.extend more).size = c.size + (more.filter (·.2.isSome)).length := by
  simp [size, extend, List.filter_append]

theorem descriptor?_eq_some_iff {c : Catalog K} {k : K} {d : Descriptor K} :
    c.descriptor? k = some d ↔ c.find? k = some (some d) :=
  Option.join_eq_some_iff

end Catalog

namespace Introspector

variable (I : Introspector K)

/-- A field relates to an entity: it is no scalar and the status knows its candidate as one. -/
def relates (σ : K → Option Bool) (f : FieldSpec K) : Bool :=
  f.field.kind != .scalar && σ (I.canonical f.candidate) == some true

/-- One field's contribution to the relationships of a new entity. -/
def relationStep (σ : K → Option Bool) (rels : List (String × K)) (f : FieldSpec K) :
    List (String × K) :=
  if I.relates σ f then Descriptor.relate rels f.field.name (I.canonical f.candidate) else rels

/-- The relationships a new entity records for its fields, given what its candidates are. -/
def relations (σ : K → Option Bool) (fields : List (FieldSpec K)) : List (String × K) :=
  fields.foldl (I.relationStep σ) []

variable {I}

/-- The relationships only depend on the status of the candidates of non-scalar fields. -/
theorem foldl_relationStep_congr {σ σ' : K → Option Bool} :
    ∀ (fields : List (FieldSpec K)) (rels : List (String × K)),
      (∀ f ∈ fields, f.field.kind ≠ .scalar →
        σ (I.canonical f.candidate) = σ' (I.canonical f.candidate)) →
      fields.foldl (I.relationStep σ) rels = fields.foldl (I.relationStep σ') rels
  | [], _, _ => rfl
  | f :: fields, rels, h => by
    have hstep : I.relationStep σ rels f = I.relationStep σ' rels f := by
      by_cases hkind : f.field.kind = .scalar
      · simp [relationStep, relates, hkind]
      · simp [relationStep, relates, h f List.mem_cons_self hkind]
    rw [List.foldl_cons, List.foldl_cons, hstep]
    exact foldl_relationStep_congr fields _ fun g hg => h g (List.mem_cons_of_mem f hg)

/-- Every relationship leads to a key the status knows as an entity. -/
theorem status_of_mem_foldl_relationStep {σ : K → Option Bool} :
    ∀ (fields : List (FieldSpec K)) (rels : List (String × K)),
      (∀ p ∈ rels, σ p.2 = some true) →
      ∀ p ∈ fields.foldl (I.relationStep σ) rels, σ p.2 = some true
  | [], _, h => h
  | f :: fields, rels, h => by
    rw [List.foldl_cons]
    apply status_of_mem_foldl_relationStep fields
    intro p hp
    unfold relationStep at hp
    split at hp
    · rename_i hrel
      rcases Descriptor.mem_relate hp with hold | rfl
      · exact h p hold
      · simp only [relates, Bool.and_eq_true, bne_iff_ne, ne_eq, beq_iff_eq] at hrel
        exact hrel.2
    · exact h p hp

theorem status_of_mem_relations {σ : K → Option Bool} {fields : List (FieldSpec K)}
    {p : String × K} (hp : p ∈ I.relations σ fields) : σ p.2 = some true :=
  status_of_mem_foldl_relationStep fields [] (by simp) p hp

/-- With pairwise distinct field names every relating field adds its own relationship at the
end: the relationships are the relating fields, in field order. -/
theorem foldl_relationStep_of_nodup {σ : K → Option Bool} :
    ∀ (fields : List (FieldSpec K)) (rels : List (String × K)),
      (fields.map (·.field.name)).Nodup →
      (∀ f ∈ fields, f.field.name ∉ rels.map (·.1)) →
      fields.foldl (I.relationStep σ) rels =
        rels ++ (fields.filter (I.relates σ)).map fun f => (f.field.name, I.canonical f.candidate)
  | [], rels, _, _ => by simp
  | f :: fields, rels, hnodup, hfresh => by
    rw [List.map_cons, List.nodup_cons] at hnodup
    have hrest : ∀ g ∈ fields, g.field.name ∉ (I.relationStep σ rels f).map (·.1) := by
      intro g hg hmem
      have hne : g.field.name ≠ f.field.name :=
        fun heq => hnodup.1 (heq ▸ List.mem_map_of_mem hg)
      unfold relationStep at hmem
      split at hmem
      · rw [Descriptor.relate_of_not_mem _ (hfresh f List.mem_cons_self)] at hmem
        simp only [List.map_append, List.map_cons, List.map_nil, List.mem_append,
          List.mem_singleton] at hmem
        rcases hmem with hold | hnew
        · exact hfresh g (List.mem_cons_of_mem f hg) hold
        · exact hne hnew
      · exact hfresh g (List.mem_cons_of_mem f hg) hmem
    rw [List.foldl_cons, foldl_relationStep_of_nodup fields _ hnodup.2 hrest]
    unfold relationStep
    by_cases hrel : I.relates σ f
    · rw [if_pos hrel, Descriptor.relate_of_not_mem _ (hfresh f List.mem_cons_self)]
      simp [hrel]
    · rw [if_neg hrel]
      simp [hrel]

theorem relations_of_nodup {σ : K → Option Bool} {fields : List (FieldSpec K)}
    (hnodup : (fields.map (·.field.name)).Nodup) :
    I.relations σ fields =
      (fields.filter (I.relates σ)).map fun f => (f.field.name, I.canonical f.candidate) := by
  rw [relations, foldl_relationStep_of_nodup fields [] hnodup (by simp), List.nil_append]

/-- A descriptor is the one the shape of its key gives, with the relationships that the status
`σ` gives to its fields; `σ` knows the candidate of every non-scalar field. -/
def BuiltFrom (I : Introspector K) (σ : K → Option Bool) (k : K) (d : Descriptor K) : Prop :=
  ∃ S, I.inspect k = .ok (some S) ∧
    d = { Descriptor.ofShape k S with related := I.relations σ S.fields } ∧
    ∀ f ∈ S.fields, f.field.kind ≠ .scalar → σ (I.canonical f.candidate) ≠ none

/-- A built descriptor stays built when the status learns more. -/
theorem BuiltFrom.mono {σ σ' : K → Option Bool} {k : K} {d : Descriptor K}
    (hmono : ∀ k x, σ k = some x → σ' k = some x) (h : I.BuiltFrom σ k d) :
    I.BuiltFrom σ' k d := by
  obtain ⟨S, hinspect, rfl, hknown⟩ := h
  have hsame : ∀ f ∈ S.fields, f.field.kind ≠ .scalar →
      σ (I.canonical f.candidate) = σ' (I.canonical f.candidate) := by
    intro f hf hkind
    obtain ⟨x, hx⟩ := Option.ne_none_iff_exists'.mp (hknown f hf hkind)
    rw [hx, hmono _ x hx]
  refine ⟨S, hinspect, ?_, ?_⟩
  · rw [relations, relations, foldl_relationStep_congr S.fields [] hsame]
  · intro f hf hkind
    rw [← hsame f hf hkind]
    exact hknown f hf hkind

end Introspector

end EntityQuery
