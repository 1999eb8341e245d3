import Mathlib
import EntityQuery.Proofs.Relations
import EntityQuery.Query.Expand
/-!
# Finding an entity by name

A qualified wildcard names an entity, and the entity it stands for is the first one with that name
that a depth-first search from the root meets. `Catalog.Visits c seen ks seen'` is that search as
an inductive rule: from a list of keys in order, a key already entered or bound to no entity is
passed over, and an entity is entered, then the keys of its relationships are searched from, in
relationship order, before the keys after it. The keys it enters, in the order entered, are the
depth-first pre-order of the graph, each entity once.

The catalog's `walk` runs the same search with an explicit stack and a budget of steps. A search
that enters keys takes one step per key popped: the keys it starts from, and the keys of the
relationships of every entity it enters (`walk_of_visits`). The budget `walkBound` counts every
relationship of the catalog, so it is never exhausted (`sum_fanOut_le`), and `reachable` is the
depth-first pre-order itself (`reachable_eq_of_visits`).

The search terminates on every graph, cyclic or not: each entity entered leaves one key of the
catalog fewer to enter (`visits_exists`). It enters exactly the entities reachable from the root:
it only follows relationships (`Visits.sound`), and every entity it enters has its relationships
searched before the search ends (`Visits.closed`), so marking a key entered never hides an entity
reachable through it.

Main statement (`qualifier_names_first_entity_depth_first`): an empty qualifier names the root;
any other names the first entity with that name in the depth-first pre-order from the root, and the
lookup fails, with the qualifier and the root's name, exactly when no entity reachable from the
root, at any distance, has that name.
-/

set_option autoImplicit false

namespace EntityQuery

variable {K : Type} [DecidableEq K]

namespace Catalog

/-- A depth-first search that has entered the keys `seen` and goes on from the keys `ks`, in order,
ends having entered `seen'`. -/
inductive Visits (c : Catalog K) : List K → List K → List K → Prop
  | nil (seen : List K) : c.Visits seen [] seen
  /-- A key already entered is passed over. -/
  | entered {seen ks seen' : List K} {k : K} : k ∈ seen → c.Visits seen ks seen' →
      c.Visits seen (k :: ks) seen'
  /-- A key bound to no entity is passed over. -/
  | unbound {seen ks seen' : List K} {k : K} : c.descriptor? k = none → c.Visits seen ks seen' →
      c.Visits seen (k :: ks) seen'
  /-- An entity is entered, and the keys it relates to are searched before the keys after it. -/
  | enter {seen ks seen₁ seen' : List K} {k : K} {d : Descriptor K} : k ∉ seen →
      c.descriptor? k = some d → c.Visits (seen ++ [k]) (d.related.map (·.2)) seen₁ →
      c.Visits seen₁ ks seen' → c.Visits seen (k :: ks) seen'

/-- The key `k'` is `k`, or is related to by an entity reached from `k`. -/
inductive Reaches (c : Catalog K) : K → K → Prop
  | refl (k : K) : c.Reaches k k
  | step {k k' k'' : K} {d : Descriptor K} : c.descriptor? k = some d →
      k' ∈ d.related.map (·.2) → c.Reaches k' k'' → c.Reaches k k''

/-- The number of keys an entity's relationships put on the stack of the walk. -/
def fanOut (c : Catalog K) (k : K) : Nat := ((c.descriptor? k).map fun d => d.related.length).getD 0

variable {c : Catalog K}

/-! ### The search, entity by entity -/

namespace Visits

variable {seen ks seen' : List K}

/-- A search only adds to what was entered. -/
theorem grows (h : c.Visits seen ks seen') : seen <+: seen' := by
  induction h with
  | nil seen => exact List.prefix_refl seen
  | entered _ _ ih => exact ih
  | unbound _ _ ih => exact ih
  | enter _ _ _ _ ih₁ ih₂ => exact ((List.prefix_append _ _).trans ih₁).trans ih₂

/-- Every key a search enters is bound to an entity. -/
theorem bound (h : c.Visits seen ks seen') :
    ∀ k ∈ seen', k ∉ seen → ∃ d, c.descriptor? k = some d := by
  induction h with
  | nil seen => intro k hk hnot; exact absurd hk hnot
  | entered _ _ ih => exact ih
  | unbound _ _ ih => exact ih
  | @enter seen ks seen₁ seen' k d _ hd _ _ ih₁ ih₂ =>
    intro k' hk' hnot
    by_cases h₁ : k' ∈ seen₁
    · by_cases hk : k' = k
      · exact ⟨d, hk ▸ hd⟩
      · exact ih₁ k' h₁ (by simp [hnot, hk])
    · exact ih₂ k' hk' h₁

/-- A search enters every key at most once. -/
theorem nodup (h : c.Visits seen ks seen') (hseen : seen.Nodup) : seen'.Nodup := by
  induction h with
  | nil seen => exact hseen
  | entered _ _ ih => exact ih hseen
  | unbound _ _ ih => exact ih hseen
  | enter hk _ _ _ ih₁ ih₂ =>
    exact ih₂ (ih₁ (List.nodup_append.mpr ⟨hseen, by simp,
      fun a ha b hb => by rw [List.mem_singleton] at hb; rintro rfl; exact hk (hb ▸ ha)⟩))

/-- After the search, every key it started from is entered, or bound to no entity. -/
theorem covers (h : c.Visits seen ks seen') : ∀ k ∈ ks, k ∈ seen' ∨ c.descriptor? k = none := by
  induction h with
  | nil seen => simp
  | @entered seen ks seen' k hk hrest ih =>
    intro k' hk'
    rcases List.mem_cons.mp hk' with rfl | hmem
    · exact .inl (hrest.grows.subset hk)
    · exact ih k' hmem
  | unbound hnone _ ih =>
    intro k' hk'
    rcases List.mem_cons.mp hk' with rfl | hmem
    · exact .inr hnone
    · exact ih k' hmem
  | @enter seen ks seen₁ seen' k d _ _ hsub hrest _ ih₂ =>
    intro k' hk'
    rcases List.mem_cons.mp hk' with rfl | hmem
    · exact .inl (hrest.grows.subset (hsub.grows.subset (by simp)))
    · exact ih₂ k' hmem

/-- Every entity the search enters has the keys of its relationships entered, or bound to no
entity, by the end of the search. -/
theorem closed (h : c.Visits seen ks seen') :
    ∀ k ∈ seen', k ∉ seen → ∀ d, c.descriptor? k = some d →
      ∀ k' ∈ d.related.map (·.2), k' ∈ seen' ∨ c.descriptor? k' = none := by
  induction h with
  | nil seen => intro k hk hnot; exact absurd hk hnot
  | entered _ _ ih => exact ih
  | unbound _ _ ih => exact ih
  | @enter seen ks seen₁ seen' k d _ hd hsub hrest ih₁ ih₂ =>
    intro k₀ hk₀ hnot d₀ hd₀ k' hk'
    by_cases h₁ : k₀ ∈ seen₁
    · have hwider : k' ∈ seen₁ ∨ c.descriptor? k' = none := by
        by_cases hk : k₀ = k
        · -- the entity entered here: its relationships were searched right after it
          subst hk
          obtain rfl : d = d₀ := Option.some.inj (hd.symm.trans hd₀)
          exact hsub.covers k' hk'
        · exact ih₁ k₀ h₁ (by simp [hnot, hk]) d₀ hd₀ k' hk'
      rcases hwider with hin | hnone
      · exact .inl (hrest.grows.subset hin)
      · exact .inr hnone
    · exact ih₂ k₀ hk₀ h₁ d₀ hd₀ k' hk'

/-- Every key the search enters is reached from a key it started from. -/
theorem sound (h : c.Visits seen ks seen') :
    ∀ k ∈ seen', k ∉ seen → ∃ k₀ ∈ ks, c.Reaches k₀ k := by
  induction h with
  | nil seen => intro k hk hnot; exact absurd hk hnot
  | entered _ _ ih =>
    intro k hk hnot
    obtain ⟨k₀, hk₀, hreach⟩ := ih k hk hnot
    exact ⟨k₀, List.mem_cons_of_mem _ hk₀, hreach⟩
  | unbound _ _ ih =>
    intro k hk hnot
    obtain ⟨k₀, hk₀, hreach⟩ := ih k hk hnot
    exact ⟨k₀, List.mem_cons_of_mem _ hk₀, hreach⟩
  | @enter seen ks seen₁ seen' k d _ hd _ _ ih₁ ih₂ =>
    intro k' hk' hnot
    by_cases h₁ : k' ∈ seen₁
    · by_cases hk : k' = k
      · subst hk
        exact ⟨k', List.mem_cons_self, .refl k'⟩
      · obtain ⟨k₀, hk₀, hreach⟩ := ih₁ k' h₁ (by simp [hnot, hk])
        exact ⟨k, List.mem_cons_self, Reaches.step hd hk₀ hreach⟩
    · obtain ⟨k₀, hk₀, hreach⟩ := ih₂ k' hk' h₁
      exact ⟨k₀, List.mem_cons_of_mem _ hk₀, hreach⟩

end Visits

/-- A key bound to no entity reaches only itself. -/
theorem Reaches.eq_of_unbound {k k' : K} (h : c.Reaches k k') (hnone : c.descriptor? k = none) :
    k' = k := by
  cases h with
  | refl => rfl
  | step hd _ _ => rw [hnone] at hd; cases hd

/-- From an entered key of a search whose entered entities have all their relationships searched,
every key reached is entered, or bound to no entity. -/
theorem Reaches.mem_of_closed {seen : List K}
    (hclosed : ∀ k ∈ seen, ∀ d, c.descriptor? k = some d →
      ∀ k' ∈ d.related.map (·.2), k' ∈ seen ∨ c.descriptor? k' = none)
    {k k' : K} (h : c.Reaches k k') (hk : k ∈ seen) : k' ∈ seen ∨ c.descriptor? k' = none := by
  induction h with
  | refl => exact .inl hk
  | @step k k₁ k₂ d hd hk₁ hreach ih =>
    rcases hclosed k hk d hd k₁ hk₁ with hin | hnone
    · exact ih hin
    · exact .inr (hreach.eq_of_unbound hnone ▸ hnone)

/-- A search from one root enters exactly the entities reachable from it. -/
theorem Visits.mem_iff_reaches {root : K} {order : List K} (h : c.Visits [] [root] order) :
    ∀ k, k ∈ order ↔ c.Reaches root k ∧ ∃ d, c.descriptor? k = some d := by
  have hclosed : ∀ k ∈ order, ∀ d, c.descriptor? k = some d →
      ∀ k' ∈ d.related.map (·.2), k' ∈ order ∨ c.descriptor? k' = none :=
    fun k hk => h.closed k hk List.not_mem_nil
  intro k
  constructor
  · intro hk
    obtain ⟨k₀, hk₀, hreach⟩ := h.sound k hk List.not_mem_nil
    rw [List.mem_singleton] at hk₀
    exact ⟨hk₀ ▸ hreach, h.bound k hk List.not_mem_nil⟩
  · rintro ⟨hreach, d, hd⟩
    -- the root is entered unless it is no entity, and then it reaches nothing else
    rcases h.covers root List.mem_cons_self with hroot | hnone
    · rcases Reaches.mem_of_closed hclosed hreach hroot with hin | hnone
      · exact hin
      · rw [hnone] at hd; cases hd
    · rw [hreach.eq_of_unbound hnone, hnone] at hd
      cases hd

/-! ### The search terminates -/

/-- The keys of the catalog that a search has not entered yet. -/
def unentered (c : Catalog K) (seen : List K) : Nat :=
  ((c.entries.map (·.1)).filter (· ∉ seen)).length

theorem unentered_anti {seen seen' : List K} (h : ∀ k ∈ seen, k ∈ seen') :
    c.unentered seen' ≤ c.unentered seen :=
  length_filter_not_mem_anti _ h

/-- Entering an entity leaves one key fewer to enter. -/
theorem unentered_lt {seen : List K} {k : K} {d : Descriptor K} (hk : k ∉ seen)
    (hd : c.descriptor? k = some d) : c.unentered (seen ++ [k]) < c.unentered seen :=
  length_filter_not_mem_lt
    (List.mem_map.mpr ⟨_, mem_of_lookup_eq_some (descriptor?_eq_some_iff.mp hd), rfl⟩) hk

/-- The search terminates from every list of keys, on every graph. The induction is on a bound
for the keys left to enter, with an inner induction on the keys to search from. -/
theorem visits_exists (c : Catalog K) :
    ∀ (n : Nat) (seen ks : List K), c.unentered seen < n → ∃ seen', c.Visits seen ks seen' := by
  intro n
  induction n with
  | zero => intro seen ks h; omega
  | succ n ih =>
    intro seen ks hlt
    induction ks generalizing seen with
    | nil => exact ⟨seen, .nil seen⟩
    | cons k ks ihks =>
      by_cases hk : k ∈ seen
      · obtain ⟨seen', h⟩ := ihks seen hlt
        exact ⟨seen', .entered hk h⟩
      · cases hd : c.descriptor? k with
        | none =>
          obtain ⟨seen', h⟩ := ihks seen hlt
          exact ⟨seen', .unbound hd h⟩
        | some d =>
          have hfewer := unentered_lt hk hd
          obtain ⟨seen₁, h₁⟩ := ih (seen ++ [k]) (d.related.map (·.2)) (by omega)
          have hmono := unentered_anti (c := c) fun x hx =>
            h₁.grows.subset (List.mem_append_left _ hx)
          obtain ⟨seen', h'⟩ := ihks seen₁ (by omega)
          exact ⟨seen', .enter hk hd h₁ h'⟩

/-! ### The walk runs the search -/

@[simp] theorem walk_nil (n : Nat) (seen : List K) : c.walk n [] seen = seen := by
  cases n <;> rfl

theorem walk_succ_of_mem {n : Nat} {k : K} {stack seen : List K} (hk : k ∈ seen) :
    c.walk (n + 1) (k :: stack) seen = c.walk n stack seen := by
  simp [walk, hk]

theorem walk_succ_of_unbound {n : Nat} {k : K} {stack seen : List K}
    (hnone : c.descriptor? k = none) :
    c.walk (n + 1) (k :: stack) seen = c.walk n stack seen := by
  by_cases hk : k ∈ seen
  · exact walk_succ_of_mem hk
  · simp [walk, hk, hnone]

theorem walk_succ_of_enter {n : Nat} {k : K} {stack seen : List K} {d : Descriptor K}
    (hk : k ∉ seen) (hd : c.descriptor? k = some d) :
    c.walk (n + 1) (k :: stack) seen = c.walk n (d.related.map (·.2) ++ stack) (seen ++ [k]) := by
  simp [walk, hk, hd]

/-- The walk runs a search in one step per key it pops: the keys the search starts from, and the
keys of the relationships of every entity it enters. -/
theorem walk_of_visits {seen ks seen' : List K} (h : c.Visits seen ks seen') :
    ∀ n rest, c.walk (n + ks.length + ((seen'.drop seen.length).map c.fanOut).sum)
      (ks ++ rest) seen = c.walk n rest seen' := by
  induction h with
  | nil seen => intro n rest; simp
  | @entered seen ks seen' k hk _ ih =>
    intro n rest
    rw [List.cons_append, List.length_cons,
      show n + (ks.length + 1) + ((seen'.drop seen.length).map c.fanOut).sum =
        n + ks.length + ((seen'.drop seen.length).map c.fanOut).sum + 1 by omega,
      walk_succ_of_mem hk, ih]
  | @unbound seen ks seen' k hnone _ ih =>
    intro n rest
    rw [List.cons_append, List.length_cons,
      show n + (ks.length + 1) + ((seen'.drop seen.length).map c.fanOut).sum =
        n + ks.length + ((seen'.drop seen.length).map c.fanOut).sum + 1 by omega,
      walk_succ_of_unbound hnone, ih]
  | @enter seen ks seen₁ seen' k d hk hd hsub hrest ih₁ ih₂ =>
    intro n rest
    -- the steps of the search: this key, its relationships' search, then the keys after it
    obtain ⟨t₁, rfl⟩ := hsub.grows
    obtain ⟨t₂, rfl⟩ := hrest.grows
    have hfan : c.fanOut k = (d.related.map (·.2)).length := by simp [fanOut, hd]
    have hsplit : ((seen ++ [k] ++ t₁ ++ t₂).drop seen.length).map c.fanOut =
        c.fanOut k :: (t₁.map c.fanOut ++ t₂.map c.fanOut) := by
      simp
    have h₁ := ih₁ (n + ks.length + (t₂.map c.fanOut).sum) (ks ++ rest)
    have h₂ := ih₂ n rest
    rw [List.drop_left] at h₁ h₂
    rw [List.cons_append, List.length_cons, hsplit, List.sum_cons, List.sum_append,
      show n + (ks.length + 1) + (c.fanOut k + ((t₁.map c.fanOut).sum + (t₂.map c.fanOut).sum)) =
        n + ks.length + (t₂.map c.fanOut).sum + (d.related.map (·.2)).length +
          (t₁.map c.fanOut).sum + 1 by omega,
      walk_succ_of_enter hk hd, h₁, h₂]

theorem fanOut_cons (k₀ : K) (v₀ : Option (Descriptor K))
    (es : List (K × Option (Descriptor K))) (k : K) :
    (Catalog.mk ((k₀, v₀) :: es)).fanOut k =
      if k = k₀ then (v₀.map fun d => d.related.length).getD 0 else (Catalog.mk es).fanOut k := by
  by_cases hk : k = k₀
  · subst hk
    simp [fanOut, descriptor?, find?]
  · have hne : (k == k₀) = false := by simpa using hk
    simp [fanOut, descriptor?, find?, List.lookup_cons, hne, hk]

/-- Entities entered once each push no more keys than the relationships the catalog binds. -/
theorem sum_fanOut_le :
    ∀ (es : List (K × Option (Descriptor K))) (vs : List K), vs.Nodup →
      (vs.map (Catalog.mk es).fanOut).sum ≤
        (es.map fun e => (e.2.map fun d => d.related.length).getD 0).sum
  | [], vs, _ => by
    have hnone : (Catalog.mk ([] : List (K × Option (Descriptor K)))).fanOut = fun _ => 0 := by
      funext k
      simp [fanOut, descriptor?, find?]
    simp [hnone]
  | (k₀, v₀) :: es, vs, hvs => by
    -- past the first binding, the keys other than its own count as in the rest of the catalog
    have hrest : ∀ ws : List K, k₀ ∉ ws →
        (ws.map (Catalog.mk ((k₀, v₀) :: es)).fanOut).sum = (ws.map (Catalog.mk es).fanOut).sum := by
      intro ws hws
      refine congrArg List.sum (List.map_congr_left fun k hk => ?_)
      rw [fanOut_cons, if_neg (by rintro rfl; exact hws hk)]
    simp only [List.map_cons, List.sum_cons]
    by_cases hk₀ : k₀ ∈ vs
    · rw [← List.sum_map_erase _ hk₀, hrest _ (hvs.not_mem_erase), fanOut_cons, if_pos rfl]
      have := sum_fanOut_le es (vs.erase k₀) (hvs.erase k₀)
      omega
    · rw [hrest vs hk₀]
      have := sum_fanOut_le es vs hvs
      omega

omit [DecidableEq K] in
theorem walkBound_eq (c : Catalog K) :
    c.walkBound = 1 + (c.entries.map fun e => (e.2.map fun d => d.related.length).getD 0).sum := by
  rw [walkBound]
  generalize 1 = a
  induction c.entries generalizing a with
  | nil => simp
  | cons e es ih => simp [ih]; omega

/-- The keys the catalog reaches from a root are the keys a depth-first search from it enters, in
the order entered. -/
theorem reachable_eq_of_visits {root : K} {order : List K} (h : c.Visits [] [root] order) :
    c.reachable root = order := by
  have hbound : 1 + (order.map c.fanOut).sum ≤ c.walkBound := by
    rw [walkBound_eq]
    have hsum : (order.map c.fanOut).sum ≤ _ := sum_fanOut_le c.entries order (h.nodup List.nodup_nil)
    omega
  have hwalk := walk_of_visits h (c.walkBound - 1 - (order.map c.fanOut).sum) []
  simp only [List.length_nil, List.drop_zero, List.length_singleton, List.append_nil,
    walk_nil] at hwalk
  rw [reachable, ← hwalk]
  congr 1
  omega

end Catalog

namespace Query

/-- The entity a qualifier names. An empty qualifier names the root. Any other names the first
entity with that name in the depth-first pre-order of the graph from the root: the search
terminates, enters every entity reachable from the root once and nothing else, and the lookup
fails, with the qualifier and the root's name, exactly when no entity reachable from the root has
that name. -/
theorem qualifier_names_first_entity_depth_first (c : Catalog K) (root : Descriptor K)
    (name : String) :
    target c root "" = .ok root ∧
      (∃ order, c.Visits [] [root.key] order) ∧
      ∀ order, c.Visits [] [root.key] order →
        order.Nodup ∧
        (∀ k, k ∈ order ↔ c.Reaches root.key k ∧ ∃ d, c.descriptor? k = some d) ∧
        (name ≠ "" → ∀ d, target c root name = .ok d ↔
          (order.filterMap c.descriptor?).find? (·.name == name) = some d) ∧
        (name ≠ "" →
          (target c root name = .error (.unresolved name root.name) ↔
            ∀ k d, c.Reaches root.key k → c.descriptor? k = some d → d.name ≠ name)) := by
  refine ⟨by simp [target], c.visits_exists (c.unentered [] + 1) [] [root.key] (by omega),
    fun order h => ?_⟩
  have hmem := h.mem_iff_reaches
  -- a qualifier is looked up along the search's order
  have hlookup : c.findByName? root.key name =
      (order.filterMap c.descriptor?).find? (·.name == name) := by
    rw [Catalog.findByName?, Catalog.reachable_eq_of_visits h]
  refine ⟨h.nodup List.nodup_nil, hmem, fun hname d => ?_, fun hname => ?_⟩
  · cases hfind : (order.filterMap c.descriptor?).find? (·.name == name) <;>
      simp [target, hname, hlookup, hfind]
  · have hne : (name == "") = false := by simpa using hname
    cases hfind : (order.filterMap c.descriptor?).find? (·.name == name) with
    | some d =>
      -- the entity found is reachable and has the name
      obtain ⟨k, hk, hkd⟩ := List.mem_filterMap.mp (List.mem_of_find?_eq_some hfind)
      have hnamed : d.name = name := by simpa using List.find?_some hfind
      simp only [target, hne, hlookup, hfind, Bool.false_eq_true, ↓reduceIte, reduceCtorEq,
        false_iff, not_forall, not_not]
      exact ⟨k, d, ((hmem k).mp hk).1, hkd, hnamed⟩
    | none =>
      simp only [target, hne, hlookup, hfind, Bool.false_eq_true, ↓reduceIte, true_iff]
      intro k d hreach hd hnamed
      have hnot := List.find?_eq_none.mp hfind d
        (List.mem_filterMap.mpr ⟨k, (hmem k).mpr ⟨hreach, d, hd⟩, hd⟩)
      exact hnot (by simpa using hnamed)

end Query

end EntityQuery
