import EntityQuery.Declared.Inspect
import EntityQuery.Samples.Build
import EntityQuery.Proofs.Registry
/-!
# The keys a request inspects

A request inspects keys in the order of a depth-first search from its key's canonical form
(`Introspector.Explores`): a key published before the request began, or inspected already by
it, is passed over; a key that is no entity is a leaf; the candidates of the non-scalar fields
of an entity are searched in field order before the keys after it; and the first inspection that
fails ends the search. Where the search starts determines what it inspects and whether it gets
through (`Explores.unique`); it inspects every key at most once, and never a published one.

The proof follows the resolution step by step (`resolve_explores`), by induction on the fuel,
with the loop over a new entity's fields done once for any resolution that follows the search
(`foldl_relateField_explores`). While a request has not failed, the keys it inspected are exactly
the ones it staged or found to be none (`Build.Tracks`), so its test of what it knows already is
the search's. The fuel bounds how deeply new entities nest, and it never runs out when fewer keys
than the introspector's reach hold every unpublished entity the search from the request's key can
come to (`Introspector.Bounded`, over the keys `Introspector.Reaches` describes): each entity
staged on the way is a new key of that list. Tables always are so bounded; the introspectors over
types reach as deep as a run's stack, so for them the bound holds of every request the library
itself returns from, and a list closed under the search's steps gives it
(`Introspector.bounded_of_closed`). In a universe without generic declarations it holds of every
request of an analyzer or a reflector (`Analyzer.bounded_of_nonGeneric`,
`Reflector.bounded_of_nonGeneric`).

Whatever its bound, a request inspects no published key (`resolve_inspectsFresh`). A successful
request publishes every key it inspected, so no later request inspects any of them again.
-/

set_option autoImplicit false

namespace EntityQuery

variable {K : Type}

namespace Introspector

/-- The candidates of the fields that are not scalars, in field order: the keys the search
continues with below a new entity. -/
def candidates (fields : List (FieldSpec K)) : List K :=
  (fields.filter (·.field.kind ≠ .scalar)).map (·.candidate)

theorem candidates_cons_of_scalar {f : FieldSpec K} {fields : List (FieldSpec K)}
    (h : f.field.kind = .scalar) : candidates (f :: fields) = candidates fields := by
  simp [candidates, h]

theorem candidates_cons_of_ne_scalar {f : FieldSpec K} {fields : List (FieldSpec K)}
    (h : f.field.kind ≠ .scalar) : candidates (f :: fields) = f.candidate :: candidates fields := by
  simp [candidates, h]

variable [DecidableEq K]

/-- `I.Explores P seen keys seen' ok`: the depth-first search for `keys`, in order, over the keys
that `P` does not publish, having inspected `seen` already, inspects the keys that extend `seen`
to `seen'`; `ok` tells whether it got through, or stopped at a failed inspection. -/
inductive Explores (I : Introspector K) (P : Catalog K) : List K → List K → List K → Bool → Prop
  | nil (seen : List K) : Explores I P seen [] seen true
  /-- A key published, or inspected already, is passed over. -/
  | known {seen keys seen' : List K} {ok : Bool} {key : K}
      (hknown : P.find? (I.canonical key) ≠ none ∨ I.canonical key ∈ seen)
      (hrest : Explores I P seen keys seen' ok) :
      Explores I P seen (key :: keys) seen' ok
  /-- A failed inspection ends the search. -/
  | failed {seen keys : List K} {key : K} {e : ConfigError}
      (hfresh : P.find? (I.canonical key) = none) (hnew : I.canonical key ∉ seen)
      (hinspect : I.inspect (I.canonical key) = .error e) :
      Explores I P seen (key :: keys) (seen ++ [I.canonical key]) false
  /-- A key that is no entity is a leaf. -/
  | leaf {seen keys seen' : List K} {ok : Bool} {key : K}
      (hfresh : P.find? (I.canonical key) = none) (hnew : I.canonical key ∉ seen)
      (hinspect : I.inspect (I.canonical key) = .ok none)
      (hrest : Explores I P (seen ++ [I.canonical key]) keys seen' ok) :
      Explores I P seen (key :: keys) seen' ok
  /-- The candidates of an entity are searched before the keys after it, -/
  | node {seen keys seen₁ seen' : List K} {ok : Bool} {key : K} {S : Shape K}
      (hfresh : P.find? (I.canonical key) = none) (hnew : I.canonical key ∉ seen)
      (hinspect : I.inspect (I.canonical key) = .ok (some S))
      (hfields : Explores I P (seen ++ [I.canonical key]) (candidates S.fields) seen₁ true)
      (hrest : Explores I P seen₁ keys seen' ok) :
      Explores I P seen (key :: keys) seen' ok
  /-- and a failure among them ends the search. -/
  | nodeFailed {seen keys seen₁ : List K} {key : K} {S : Shape K}
      (hfresh : P.find? (I.canonical key) = none) (hnew : I.canonical key ∉ seen)
      (hinspect : I.inspect (I.canonical key) = .ok (some S))
      (hfields : Explores I P (seen ++ [I.canonical key]) (candidates S.fields) seen₁ false) :
      Explores I P seen (key :: keys) seen₁ false

/-- The keys the search goes on with below a key: the canonical candidates of an unpublished
entity, and none below any other key. -/
def successors (I : Introspector K) (P : Catalog K) (j : K) : List K :=
  if P.find? j = none then
    ((I.inspect j).toOption.join.map fun S => (candidates S.fields).map I.canonical).getD []
  else []

theorem mem_successors_iff {I : Introspector K} {P : Catalog K} {j c : K} :
    c ∈ I.successors P j ↔ P.find? j = none ∧
      ∃ S, I.inspect j = .ok (some S) ∧ ∃ d ∈ candidates S.fields, I.canonical d = c := by
  unfold successors
  by_cases hP : P.find? j = none
  · rcases hins : I.inspect j with e | _ | S <;> simp [hP, Except.toOption]
  · simp [hP]

/-- The keys the search from `key` can come to: the key's canonical form, and the canonical
candidates of the non-scalar fields of every unpublished entity it comes to. -/
inductive Reaches (I : Introspector K) (P : Catalog K) (key : K) : K → Prop
  | start : Reaches I P key (I.canonical key)
  | step {j c : K} {S : Shape K} (hj : Reaches I P key j) (hfresh : P.find? j = none)
      (hinspect : I.inspect j = .ok (some S)) (hc : c ∈ candidates S.fields) :
      Reaches I P key (I.canonical c)

/-- A list that holds the key's canonical form and the successors of each key it holds holds
every key the search from the key can come to. -/
theorem Reaches.mem_of_closed {I : Introspector K} {P : Catalog K} {key j : K} {ks : List K}
    (hkey : I.canonical key ∈ ks) (hclosed : ∀ k ∈ ks, ∀ c ∈ I.successors P k, c ∈ ks)
    (h : I.Reaches P key j) : j ∈ ks := by
  induction h with
  | start => exact hkey
  | step _ hfresh hinspect hc ih =>
    exact hclosed _ ih _ (mem_successors_iff.mpr ⟨hfresh, _, hinspect, _, hc, rfl⟩)

/-- Fewer keys than the reach hold every unpublished entity that the search from `key` can come
to, so no chain of new entities below `key` nests deeper than the reach. -/
def Bounded (I : Introspector K) (P : Catalog K) (key : K) : Prop :=
  ∃ ks : List K, ks.length < I.reach ∧
    ∀ j S, I.Reaches P key j → P.find? j = none → I.inspect j = .ok (some S) → j ∈ ks

/-- A list shorter than the reach, holding the key's canonical form and closed under the
search's steps, bounds the search from the key. -/
theorem bounded_of_closed {I : Introspector K} {P : Catalog K} {key : K} (ks : List K)
    (hlen : ks.length < I.reach) (hkey : I.canonical key ∈ ks)
    (hclosed : ∀ k ∈ ks, ∀ c ∈ I.successors P k, c ∈ ks) : I.Bounded P key :=
  ⟨ks, hlen, fun _ _ h _ _ => h.mem_of_closed hkey hclosed⟩

namespace Explores

variable {I : Introspector K} {P : Catalog K} {seen seen' : List K} {keys : List K} {ok : Bool}

/-- A search that gets through its keys goes on with the keys after them. -/
theorem append_of_ok {keys₂ seen₂ : List K} {ok₂ : Bool} (h : I.Explores P seen keys seen' ok)
    (hok : ok = true) (h₂ : I.Explores P seen' keys₂ seen₂ ok₂) :
    I.Explores P seen (keys ++ keys₂) seen₂ ok₂ := by
  induction h with
  | nil => exact h₂
  | known hknown _ ih => exact .known hknown (ih hok h₂)
  | failed => cases hok
  | leaf hfresh hnew hinspect _ ih => exact .leaf hfresh hnew hinspect (ih hok h₂)
  | node hfresh hnew hinspect hfields _ _ ih =>
    exact .node hfresh hnew hinspect hfields (ih hok h₂)
  | nodeFailed => cases hok

/-- A search that stops ignores the keys after its own. -/
theorem append_of_failed (keys₂ : List K) (h : I.Explores P seen keys seen' ok)
    (hok : ok = false) : I.Explores P seen (keys ++ keys₂) seen' false := by
  induction h with
  | nil => cases hok
  | known hknown _ ih => exact .known hknown (ih hok)
  | failed hfresh hnew hinspect => exact .failed hfresh hnew hinspect
  | leaf hfresh hnew hinspect _ ih => exact .leaf hfresh hnew hinspect (ih hok)
  | node hfresh hnew hinspect hfields _ _ ih => exact .node hfresh hnew hinspect hfields (ih hok)
  | nodeFailed hfresh hnew hinspect hfields => exact .nodeFailed hfresh hnew hinspect hfields

/-- Where a search starts decides what it inspects and whether it gets through: each key falls
in exactly one case, and the cases of an entity differ by what its candidates' search did. -/
theorem unique {seen₂ : List K} {ok₂ : Bool} (h : I.Explores P seen keys seen' ok)
    (h₂ : I.Explores P seen keys seen₂ ok₂) : seen' = seen₂ ∧ ok = ok₂ := by
  induction h generalizing seen₂ ok₂ with
  | nil => cases h₂; exact ⟨rfl, rfl⟩
  | known hknown _ ih =>
    cases h₂ with
    | known _ hrest => exact ih hrest
    | failed hfresh hnew | leaf hfresh hnew | node hfresh hnew | nodeFailed hfresh hnew =>
      exact absurd hknown (by simp [hfresh, hnew])
  | failed hfresh hnew hinspect =>
    cases h₂ with
    | known hknown => exact absurd hknown (by simp [hfresh, hnew])
    | failed => exact ⟨rfl, rfl⟩
    | leaf _ _ hinspect₂ | node _ _ hinspect₂ | nodeFailed _ _ hinspect₂ =>
      cases hinspect.symm.trans hinspect₂
  | leaf hfresh hnew hinspect _ ih =>
    cases h₂ with
    | known hknown => exact absurd hknown (by simp [hfresh, hnew])
    | leaf _ _ _ hrest => exact ih hrest
    | failed _ _ hinspect₂ | node _ _ hinspect₂ | nodeFailed _ _ hinspect₂ =>
      cases hinspect.symm.trans hinspect₂
  | node hfresh hnew hinspect _ _ ihf ih =>
    cases h₂ with
    | known hknown => exact absurd hknown (by simp [hfresh, hnew])
    | failed _ _ hinspect₂ | leaf _ _ hinspect₂ => cases hinspect.symm.trans hinspect₂
    | node _ _ hinspect₂ hfields₂ hrest =>
      cases hinspect.symm.trans hinspect₂
      obtain ⟨rfl, -⟩ := ihf hfields₂
      exact ih hrest
    | nodeFailed _ _ hinspect₂ hfields₂ =>
      cases hinspect.symm.trans hinspect₂
      cases (ihf hfields₂).2
  | nodeFailed hfresh hnew hinspect _ ihf =>
    cases h₂ with
    | known hknown => exact absurd hknown (by simp [hfresh, hnew])
    | failed _ _ hinspect₂ | leaf _ _ hinspect₂ => cases hinspect.symm.trans hinspect₂
    | node _ _ hinspect₂ hfields₂ =>
      cases hinspect.symm.trans hinspect₂
      cases (ihf hfields₂).2
    | nodeFailed _ _ hinspect₂ hfields₂ =>
      cases hinspect.symm.trans hinspect₂
      exact ihf hfields₂

/-- A search only adds to what was inspected. -/
theorem grows (h : I.Explores P seen keys seen' ok) : seen <+: seen' := by
  induction h with
  | nil => exact List.prefix_refl _
  | known _ _ ih => exact ih
  | failed => exact List.prefix_append _ _
  | leaf _ _ _ _ ih => exact (List.prefix_append _ _).trans ih
  | node _ _ _ _ _ ihf ih => exact ((List.prefix_append _ _).trans ihf).trans ih
  | nodeFailed _ _ _ _ ihf => exact (List.prefix_append _ _).trans ihf

omit [DecidableEq K] in
theorem nodup_append_singleton {c : K} (hseen : seen.Nodup) (hnew : c ∉ seen) :
    (seen ++ [c]).Nodup := by
  rw [← List.concat_eq_append]
  exact hseen.concat hnew

/-- A search inspects no key twice. -/
theorem nodup (h : I.Explores P seen keys seen' ok) (hseen : seen.Nodup) : seen'.Nodup := by
  induction h with
  | nil => exact hseen
  | known _ _ ih => exact ih hseen
  | failed _ hnew => exact nodup_append_singleton hseen hnew
  | leaf _ hnew _ _ ih => exact ih (nodup_append_singleton hseen hnew)
  | node _ hnew _ _ _ ihf ih => exact ih (ihf (nodup_append_singleton hseen hnew))
  | nodeFailed _ hnew _ _ ihf => exact ihf (nodup_append_singleton hseen hnew)

/-- Inspecting an unpublished key keeps every inspected key inspected before or unpublished. -/
theorem mem_or_fresh_of_mem_concat {k c : K} (h : k ∈ seen ++ [c] ∨ P.find? k = none)
    (hc : P.find? c = none) : k ∈ seen ∨ P.find? k = none := by
  rcases h with hmem | hfresh
  · rcases List.mem_append.mp hmem with hold | hnew
    · exact Or.inl hold
    · exact Or.inr (List.mem_singleton.mp hnew ▸ hc)
  · exact Or.inr hfresh

/-- A search inspects no published key. -/
theorem mem_or_fresh (h : I.Explores P seen keys seen' ok) :
    ∀ k ∈ seen', k ∈ seen ∨ P.find? k = none := by
  induction h with
  | nil => exact fun k hk => Or.inl hk
  | known _ _ ih => exact ih
  | failed hfresh => exact fun k hk => mem_or_fresh_of_mem_concat (Or.inl hk) hfresh
  | leaf hfresh _ _ _ ih => exact fun k hk => mem_or_fresh_of_mem_concat (ih k hk) hfresh
  | node hfresh _ _ _ _ ihf ih =>
    exact fun k hk => mem_or_fresh_of_mem_concat ((ih k hk).elim (ihf k) Or.inr) hfresh
  | nodeFailed hfresh _ _ _ ihf => exact fun k hk => mem_or_fresh_of_mem_concat (ihf k hk) hfresh

end Explores

end Introspector

variable [DecidableEq K]

namespace Build

variable {P : Catalog K} {b : Build K} {k : K}

/-- The keys a build inspected are the ones it staged or found to be none: so it is while its
request has not failed. -/
def Tracks (b : Build K) : Prop :=
  ∀ k, k ∈ b.inspected ↔ k ∈ b.keys ∨ k ∈ b.absent

/-- How many keys of `ks` a build has not staged. -/
def unstaged (ks : List K) (b : Build K) : Nat :=
  (ks.filter (· ∉ b.keys)).length

omit [DecidableEq K] in
theorem tracks_empty : ({} : Build K).Tracks := by
  simp [Tracks, keys]

/-- For a build that tracks its inspections, a key it does not know is one that is neither
published nor inspected. -/
theorem Tracks.status_eq_none_iff (ht : b.Tracks) :
    b.status P k = none ↔ P.find? k = none ∧ k ∉ b.inspected := by
  rw [Build.status_eq_none_iff, ht k, not_or]

omit [DecidableEq K] in
theorem Tracks.markAbsent (ht : b.Tracks) (k : K) :
    Tracks { b with inspected := b.inspected ++ [k], absent := b.absent ++ [k] } := by
  intro x
  simp only [List.mem_append, List.mem_singleton, ht x]
  tauto

omit [DecidableEq K] in
theorem Tracks.stage (ht : b.Tracks) (k : K) (d : Descriptor K) :
    Tracks { b with inspected := b.inspected ++ [k], staged := b.staged ++ [(k, d)] } := by
  intro x
  simp only [keys, List.map_append, List.map_singleton, List.mem_append, List.mem_singleton,
    ht x]
  tauto

theorem Tracks.setRelated (ht : b.Tracks) (rels : List (String × K)) :
    (b.setRelated k rels).Tracks := by
  intro x
  rw [keys_setRelated]
  exact ht x

/-- A build that staged more has fewer keys left to stage. -/
theorem unstaged_anti {b' : Build K} (ks : List K) (h : ∀ k ∈ b.keys, k ∈ b'.keys) :
    unstaged ks b' ≤ unstaged ks b :=
  length_filter_not_mem_anti ks h

end Build

/-- `b'` has inspected what `b` had, and after it only keys that `P` does not publish. -/
def Build.InspectsFresh (P : Catalog K) (b b' : Build K) : Prop :=
  ∃ seen, b'.inspected = b.inspected ++ seen ∧ ∀ k ∈ seen, P.find? k = none

namespace Build.InspectsFresh

variable {P : Catalog K} {b b' b'' : Build K}

theorem refl (P : Catalog K) (b : Build K) : InspectsFresh P b b := ⟨[], by simp, by simp⟩

theorem trans (h : InspectsFresh P b b') (h' : InspectsFresh P b' b'') : InspectsFresh P b b'' := by
  obtain ⟨seen, hseen, hfresh⟩ := h
  obtain ⟨seen', hseen', hfresh'⟩ := h'
  refine ⟨seen ++ seen', by rw [hseen', hseen, List.append_assoc], fun k hk => ?_⟩
  rcases List.mem_append.mp hk with hk | hk
  · exact hfresh k hk
  · exact hfresh' k hk

/-- Inspecting one unpublished key. -/
theorem inspect {k : K} (hk : P.find? k = none) (h : b'.inspected = b.inspected ++ [k]) :
    InspectsFresh P b b' :=
  ⟨[k], h, by simpa using hk⟩

end Build.InspectsFresh

section Fresh

variable {I : Introspector K} {P : Catalog K}

/-- One field of a new entity inspects what the resolution of its candidate does, or nothing. -/
theorem relateField_inspectsFresh {sub : K → Build K → Build K × Except ConfigError (Option K)}
    (hsub : ∀ key b, Build.InspectsFresh P b (sub key b).1)
    (acc : Build K × Except ConfigError (List (String × K))) (f : FieldSpec K) :
    Build.InspectsFresh P acc.1 (relateField sub acc f).1 := by
  rcases acc with ⟨b, e | rels⟩
  · exact .refl P b
  · by_cases hkind : f.field.kind = .scalar
    · simp only [relateField, hkind, ↓reduceIte]
      exact .refl P b
    · -- whatever the candidate resolves to, the build is the one its resolution left
      have hcall := hsub f.candidate b
      simp only [relateField, hkind, ↓reduceIte]
      rcases hres : sub f.candidate b with ⟨b₁, e | _ | r⟩ <;> rw [hres] at hcall <;> exact hcall

/-- The loop over a new entity's fields inspects only what the resolutions of its candidates
do. -/
theorem foldl_relateField_inspectsFresh
    {sub : K → Build K → Build K × Except ConfigError (Option K)}
    (hsub : ∀ key b, Build.InspectsFresh P b (sub key b).1) :
    ∀ (fields : List (FieldSpec K)) (acc : Build K × Except ConfigError (List (String × K))),
      Build.InspectsFresh P acc.1 (fields.foldl (relateField sub) acc).1
  | [], acc => .refl P acc.1
  | f :: fields, acc =>
    (relateField_inspectsFresh hsub acc f).trans (foldl_relateField_inspectsFresh hsub fields _)

/-- A key the build does not know passes every test a resolution makes before inspecting it. -/
theorem Build.tests_of_status_eq_none {b : Build K} {k : K} (hs : b.status P k = none) :
    P.find? k = none ∧ b.staged.any (·.1 = k) = false ∧ b.absent.contains k = false := by
  obtain ⟨hP, hk, ha⟩ := Build.status_eq_none_iff.mp hs
  refine ⟨hP, ?_, by simpa using ha⟩
  rw [← Bool.not_eq_true, Build.any_fst_eq_iff]
  exact hk

/-- A resolution inspects no published key, however deep it goes: a published key is answered
from the catalog before anything is inspected. The induction is on the fuel. -/
theorem resolve_inspectsFresh (fuel : Nat) :
    ∀ (key : K) (b : Build K), Build.InspectsFresh P b (resolve I P fuel key b).1 := by
  induction fuel with
  | zero =>
    intro key b
    rcases hs : b.status P (I.canonical key) with _ | x
    · -- without fuel nothing is inspected
      obtain ⟨hP, hany, hcontains⟩ := Build.tests_of_status_eq_none hs
      unfold resolve
      simp only [hP, hany, hcontains, Bool.false_eq_true, ↓reduceIte]
      exact .refl P b
    · rw [resolve_of_status_eq_some hs]
      exact .refl P b
  | succ n ih =>
    intro key b
    rcases hs : b.status P (I.canonical key) with _ | x
    · obtain ⟨hP, hany, hcontains⟩ := Build.tests_of_status_eq_none hs
      unfold resolve
      simp only [hP, hany, hcontains, Bool.false_eq_true, ↓reduceIte]
      -- the key itself is inspected first, whatever the inspection says
      have hfirst : Build.InspectsFresh P b { b with inspected := b.inspected ++ [I.canonical key] } :=
        .inspect hP rfl
      rcases hins : I.inspect (I.canonical key) with e | _ | S
      · exact hfirst
      · exact hfirst
      · simp only
        have hfields := foldl_relateField_inspectsFresh (fun key b => ih key b) S.fields
          ({ staged := b.staged ++ [(I.canonical key, Descriptor.ofShape (I.canonical key) S)],
             absent := b.absent, inspected := b.inspected ++ [I.canonical key] }, Except.ok [])
        rcases hfold : List.foldl (relateField (resolve I P n))
            ({ staged := b.staged ++ [(I.canonical key, Descriptor.ofShape (I.canonical key) S)],
               absent := b.absent, inspected := b.inspected ++ [I.canonical key] }, Except.ok [])
            S.fields with ⟨b₃, e | rels⟩
        · rw [hfold] at hfields
          exact hfirst.trans hfields
        · -- recording the relationships inspects nothing
          rw [hfold] at hfields
          exact hfirst.trans hfields
    · rw [resolve_of_status_eq_some hs]
      exact .refl P b

end Fresh

variable (I : Introspector K) (P : Catalog K)

/-- `sub` inspects what the search does, for the keys that the search from `key₀` comes to and
builds with fewer than `n` keys of `ks` left to stage: from a build that tracks its inspections,
it inspects the keys of the search from the key, fails exactly when the search stops, and a
success keeps tracking and keeps what it staged. -/
def ExploresBelow (key₀ : K) (ks : List K) (n : Nat)
    (sub : K → Build K → Build K × Except ConfigError (Option K)) : Prop :=
  ∀ key b b' res, I.Reaches P key₀ (I.canonical key) → b.Tracks → b.unstaged ks < n →
    sub key b = (b', res) →
    I.Explores P b.inspected [key] b'.inspected res.isOk ∧
      (res.isOk = true → b'.Tracks ∧ ∀ k ∈ b.keys, k ∈ b'.keys)

variable {I P}

/-- The loop over a new entity's fields searches the candidates of its non-scalar fields in
field order, for any resolution of candidates that meets `ExploresBelow`. -/
theorem foldl_relateField_explores {key₀ : K} {ks : List K} {n : Nat}
    {sub : K → Build K → Build K × Except ConfigError (Option K)}
    (hsub : ExploresBelow I P key₀ ks n sub) :
    ∀ (fields : List (FieldSpec K)) (b b' : Build K) (rels : List (String × K))
      (res : Except ConfigError (List (String × K))),
      (∀ c ∈ Introspector.candidates fields, I.Reaches P key₀ (I.canonical c)) →
      b.Tracks → b.unstaged ks < n → fields.foldl (relateField sub) (b, .ok rels) = (b', res) →
      I.Explores P b.inspected (Introspector.candidates fields) b'.inspected res.isOk ∧
        (res.isOk = true → b'.Tracks ∧ ∀ k ∈ b.keys, k ∈ b'.keys)
  | [], b, b', rels, res, _, ht, _, h => by
    simp only [List.foldl_nil, Prod.mk.injEq] at h
    obtain ⟨rfl, rfl⟩ := h
    exact ⟨.nil _, fun _ => ⟨ht, fun _ hk => hk⟩⟩
  | f :: fields, b, b', rels, res, hreach, ht, hn, h => by
    rw [List.foldl_cons] at h
    by_cases hkind : f.field.kind = .scalar
    · -- a scalar field leads nowhere
      simp only [relateField, hkind, ↓reduceIte] at h
      rw [Introspector.candidates_cons_of_scalar hkind] at hreach ⊢
      exact foldl_relateField_explores hsub fields b b' rels res hreach ht hn h
    · simp only [relateField, hkind, ↓reduceIte] at h
      rw [Introspector.candidates_cons_of_ne_scalar hkind] at hreach ⊢
      have hhead := hreach f.candidate (List.mem_cons_self ..)
      have htail : ∀ c ∈ Introspector.candidates fields, I.Reaches P key₀ (I.canonical c) :=
        fun c hc => hreach c (List.mem_cons_of_mem _ hc)
      rcases hcall : sub f.candidate b with ⟨b₁, e | r⟩
      · -- the candidate's search stops, and so does the loop
        rw [hcall, foldl_relateField_error, Prod.mk.injEq] at h
        obtain ⟨rfl, rfl⟩ := h
        have hex := (hsub f.candidate b b₁ (.error e) hhead ht hn hcall).1
        exact ⟨hex.append_of_failed _ rfl, fun h => by cases h⟩
      · obtain ⟨hex, hok⟩ := hsub f.candidate b b₁ (.ok r) hhead ht hn hcall
        obtain ⟨ht₁, hkeys₁⟩ := hok rfl
        have hn₁ : b₁.unstaged ks < n := Nat.lt_of_le_of_lt (Build.unstaged_anti ks hkeys₁) hn
        -- whatever the candidate turned out to be, the loop goes on from the candidate's build
        have hrest : ∃ rels₁, fields.foldl (relateField sub) (b₁, .ok rels₁) = (b', res) := by
          rcases r with _ | r <;> rw [hcall] at h <;> exact ⟨_, h⟩
        obtain ⟨rels₁, hrest⟩ := hrest
        obtain ⟨hex₂, hok₂⟩ :=
          foldl_relateField_explores hsub fields b₁ b' rels₁ res htail ht₁ hn₁ hrest
        refine ⟨hex.append_of_ok rfl hex₂, fun hres => ?_⟩
        obtain ⟨ht', hkeys'⟩ := hok₂ hres
        exact ⟨ht', fun k hk => hkeys' k (hkeys₁ k hk)⟩

/-- Resolving a key that nobody knows inspects it, then searches the candidates of an entity
with one unit of fuel less. -/
theorem resolve_inspect_explores {key₀ : K} {ks : List K}
    (hks : ∀ j S, I.Reaches P key₀ j → P.find? j = none → I.inspect j = .ok (some S) → j ∈ ks)
    {n : Nat} (ih : ExploresBelow I P key₀ ks n (resolve I P n)) {key : K} {b b' : Build K}
    {res : Except ConfigError (Option K)} (hreach : I.Reaches P key₀ (I.canonical key))
    (ht : b.Tracks) (hn : b.unstaged ks < n + 1)
    (hfresh : P.find? (I.canonical key) = none) (hnew : I.canonical key ∉ b.inspected)
    (h : resolve I P (n + 1) key b = (b', res)) :
    I.Explores P b.inspected [key] b'.inspected res.isOk ∧
      (res.isOk = true → b'.Tracks ∧ ∀ k ∈ b.keys, k ∈ b'.keys) := by
  have hk : I.canonical key ∉ b.keys := fun hk => hnew ((ht _).mpr (Or.inl hk))
  obtain ⟨-, hany, hcontains⟩ :=
    Build.tests_of_status_eq_none (ht.status_eq_none_iff.mpr ⟨hfresh, hnew⟩)
  unfold resolve at h
  simp only [hfresh, hany, hcontains, Bool.false_eq_true, ↓reduceIte] at h
  rcases hins : I.inspect (I.canonical key) with e | _ | S
  · -- the inspection fails
    rw [hins, Prod.mk.injEq] at h
    obtain ⟨rfl, rfl⟩ := h
    exact ⟨.failed hfresh hnew hins, fun h => by cases h⟩
  · -- the key is no entity
    rw [hins, Prod.mk.injEq] at h
    obtain ⟨rfl, rfl⟩ := h
    exact ⟨.leaf hfresh hnew hins (.nil _), fun _ => ⟨ht.markAbsent _, fun _ hk => hk⟩⟩
  · -- the key is staged, then its candidates, which the search comes to, are searched below it
    simp only [hins] at h
    have ht₂ := ht.stage (I.canonical key) (Descriptor.ofShape (I.canonical key) S)
    have hn₂ : Build.unstaged ks
        { b with inspected := b.inspected ++ [I.canonical key],
                 staged := b.staged ++ [(I.canonical key, Descriptor.ofShape (I.canonical key) S)] }
        < n := by
      have hkeys : Build.keys
          { b with inspected := b.inspected ++ [I.canonical key],
                   staged := b.staged ++ [(I.canonical key, Descriptor.ofShape (I.canonical key) S)] }
          = b.keys ++ [I.canonical key] := by
        simp [Build.keys]
      have hlt := length_filter_not_mem_lt (hks _ S hreach hfresh hins) hk
      unfold Build.unstaged at hn ⊢
      rw [hkeys]
      omega
    have hbelow : ∀ c ∈ Introspector.candidates S.fields, I.Reaches P key₀ (I.canonical c) :=
      fun _ hc => .step hreach hfresh hins hc
    rcases hfold : List.foldl (relateField (resolve I P n))
        ({ staged := b.staged ++ [(I.canonical key, Descriptor.ofShape (I.canonical key) S)],
           absent := b.absent, inspected := b.inspected ++ [I.canonical key] }, Except.ok [])
        S.fields with ⟨b₃, e | rels⟩
    · rw [hfold, Prod.mk.injEq] at h
      obtain ⟨rfl, rfl⟩ := h
      obtain ⟨hex, -⟩ :=
        foldl_relateField_explores ih S.fields _ b₃ [] (.error e) hbelow ht₂ hn₂ hfold
      exact ⟨.nodeFailed hfresh hnew hins hex, fun h => by cases h⟩
    · rw [hfold, Prod.mk.injEq] at h
      obtain ⟨rfl, rfl⟩ := h
      obtain ⟨hex, hok⟩ :=
        foldl_relateField_explores ih S.fields _ b₃ [] (.ok rels) hbelow ht₂ hn₂ hfold
      obtain ⟨ht₃, hkeys₃⟩ := hok rfl
      refine ⟨.node hfresh hnew hins hex (.nil _), fun _ => ⟨ht₃.setRelated _, fun k hk => ?_⟩⟩
      rw [Build.keys_setRelated]
      exact hkeys₃ k (by simp [Build.keys] at hk ⊢; exact Or.inl hk)

/-- Every resolution of a key the search from `key₀` comes to inspects the keys of the search
from it, as long as fewer keys of a list that holds every entity the search comes to are left to
stage than there is fuel. The induction is on the fuel: a new entity's candidates are resolved
with one unit less, and one key fewer left to stage. -/
theorem resolve_explores {key₀ : K} {ks : List K}
    (hks : ∀ j S, I.Reaches P key₀ j → P.find? j = none → I.inspect j = .ok (some S) → j ∈ ks) :
    ∀ n, ExploresBelow I P key₀ ks n (resolve I P n)
  | 0 => fun _ _ _ _ _ _ hn _ => absurd hn (Nat.not_lt_zero _)
  | n + 1 => by
    intro key b b' res hreach ht hn h
    by_cases hknown : P.find? (I.canonical key) ≠ none ∨ I.canonical key ∈ b.inspected
    · -- a key the request knows is answered at once
      obtain ⟨x, hx⟩ : ∃ x, b.status P (I.canonical key) = some x := by
        rw [← Option.ne_none_iff_exists', ne_eq, ht.status_eq_none_iff, not_and_or, not_not]
        exact hknown
      rw [resolve_of_status_eq_some hx, Prod.mk.injEq] at h
      obtain ⟨rfl, rfl⟩ := h
      exact ⟨.known hknown (.nil _), fun _ => ⟨ht, fun _ hk => hk⟩⟩
    · rw [not_or, not_not] at hknown
      exact resolve_inspect_explores hks (resolve_explores hks n) hreach ht hn hknown.1
        hknown.2 h

namespace Introspector

/-- A table reports entities only for keys it lists, and it reaches further than it lists keys:
no request on a table runs out of reach. -/
theorem ofTable_bounded (entries : List (String × Option TableEntry)) (P : Catalog String)
    (key : String) : (ofTable entries).Bounded P key := by
  refine ⟨entries.map (·.1), ?_, fun j S _ _ h => ?_⟩
  · simp only [List.length_map, ofTable]
    omega
  · exact List.mem_map.mpr ⟨_, ofTable_inspect_eq_some h, rfl⟩

end Introspector

/-- Extending a catalog binds every key it adds. -/
theorem Catalog.find?_extend_ne_none {c : Catalog K} {more : List (K × Option (Descriptor K))}
    {k : K} (h : k ∈ more.map (·.1)) : (c.extend more).find? k ≠ none := by
  obtain ⟨p, hp, rfl⟩ := List.mem_map.mp h
  have hsome : (more.lookup p.1).isSome = true := List.lookup_isSome_iff.mpr ⟨p, hp, by simp⟩
  rw [Catalog.find?_extend]
  cases c.find? p.1 with
  | some v => simp
  | none => simpa [Option.isSome_iff_ne_none] using hsome

namespace Registry

variable {r : Registry K} {key : K}

/-- A request for a key that is not published, bounded as `Introspector.Bounded` says, inspects
the keys of the search from its key's canonical form, and fails exactly when the search stops; a
success publishes every key it inspected. -/
theorem get_explores (hbound : r.introspector.Bounded r.catalog (r.introspector.canonical key))
    (hfind : r.catalog.find? (r.introspector.canonical key) = none) :
    ∃ seen, r.introspector.Explores r.catalog [] [r.introspector.canonical key] seen
        (r.get key).1.isOk ∧ (r.get key).2.inspected = r.inspected ++ seen ∧
      ((r.get key).1.isOk = true → ∀ k ∈ seen, (r.get key).2.catalog.find? k ≠ none) := by
  obtain ⟨ks, hlen, hks⟩ := hbound
  have hn : Build.unstaged ks {} < r.introspector.reach := by
    simpa [Build.unstaged, Build.keys] using hlen
  rcases hres : resolve r.introspector r.catalog r.introspector.reach
      (r.introspector.canonical key) {} with ⟨b, e | found⟩
  · have hex := (resolve_explores hks _ _ _ _ _ .start Build.tracks_empty hn hres).1
    rw [get_of_resolve_error hfind hres]
    exact ⟨b.inspected, hex, rfl, fun h => by cases h⟩
  · obtain ⟨hex, hok⟩ := resolve_explores hks _ _ _ _ _ .start Build.tracks_empty hn hres
    obtain ⟨ht, -⟩ := hok rfl
    rw [get_of_resolve_ok hfind hres]
    refine ⟨b.inspected, hex, rfl, fun _ k hk => Catalog.find?_extend_ne_none ?_⟩
    -- what the request inspected it staged or found to be none, and publishes
    rw [Build.keys_bindings]
    exact List.mem_append.mpr ((ht k).mp hk)

/-- A request for a key that is not published records what its resolution from an empty build
inspected, whether it failed or not. -/
theorem get_inspected_eq (hfind : r.catalog.find? (r.introspector.canonical key) = none) :
    (r.get key).2.inspected = r.inspected ++
      (resolve r.introspector r.catalog r.introspector.reach
        (r.introspector.canonical key) {}).1.inspected := by
  rcases hres : resolve r.introspector r.catalog r.introspector.reach
      (r.introspector.canonical key) {} with ⟨b, e | found⟩
  · rw [get_of_resolve_error hfind hres]
  · rw [get_of_resolve_ok hfind hres]

/-- A request inspects only keys that were not published when it began. -/
theorem get_inspected (r : Registry K) (key : K) :
    ∃ seen, (r.get key).2.inspected = r.inspected ++ seen ∧ ∀ k ∈ seen, r.catalog.find? k = none := by
  cases hfind : r.catalog.find? (r.introspector.canonical key) with
  | some v => exact ⟨[], by simp [get_of_find? hfind], by simp⟩
  | none =>
    obtain ⟨seen, hseen, hnew⟩ := resolve_inspectsFresh (I := r.introspector) (P := r.catalog)
      r.introspector.reach (r.introspector.canonical key) {}
    exact ⟨seen, by simp [get_inspected_eq hfind, hseen], hnew⟩

/-- A run of requests inspects only keys that were not published when it began: a published key
stays published. -/
theorem getAll_inspected :
    ∀ (keys : List K) (r : Registry K),
      ∃ seen, (r.getAll keys).inspected = r.inspected ++ seen ∧
        ∀ k ∈ seen, r.catalog.find? k = none
  | [], r => ⟨[], by simp [getAll], by simp⟩
  | key :: keys, r => by
    obtain ⟨seen₁, hins₁, hfresh₁⟩ := get_inspected r key
    obtain ⟨seen₂, hins₂, hfresh₂⟩ := getAll_inspected keys (r.get key).2
    refine ⟨seen₁ ++ seen₂, by rw [getAll, hins₂, hins₁, List.append_assoc], fun k hk => ?_⟩
    rcases List.mem_append.mp hk with h₁ | h₂
    · exact hfresh₁ k h₁
    · cases hP : r.catalog.find? k with
      | none => rfl
      | some v =>
        have hlater : (r.get key).2.catalog.find? k = some v := get_find?_of_find? hP
        rw [hfresh₂ k h₂] at hlater
        cases hlater

end Registry

/-- A request whose key's search comes to fewer unpublished entities than the introspector
reaches inspects, in order, the keys of the depth-first search from its key's canonical form
over the keys not published when it began, and fails exactly when that search stops at a failed
inspection; so it inspects no published key and no key twice, and nothing at all when its key
is published. Once a request succeeds, no later request inspects a key it inspected: a key is
inspected again only when every earlier request that inspected it failed. -/
theorem requests_inspect_in_search_order (r : Registry K) (key : K)
    (hbound : r.introspector.Bounded r.catalog (r.introspector.canonical key)) :
    (∃ seen, (r.get key).2.inspected = r.inspected ++ seen ∧ seen.Nodup ∧
      ∀ k ∈ seen, r.catalog.find? k = none) ∧
    (r.catalog.find? (r.introspector.canonical key) ≠ none →
      (r.get key).2.inspected = r.inspected) ∧
    (r.catalog.find? (r.introspector.canonical key) = none → ∀ seen ok,
      r.introspector.Explores r.catalog [] [r.introspector.canonical key] seen ok ↔
        (r.get key).2.inspected = r.inspected ++ seen ∧ (r.get key).1.isOk = ok) ∧
    ((r.get key).1.isOk = true → ∀ (keys : List K) (k : K),
      k ∈ (r.get key).2.inspected.drop r.inspected.length →
      k ∉ ((r.get key).2.getAll keys).inspected.drop (r.get key).2.inspected.length) := by
  cases hfind : r.catalog.find? (r.introspector.canonical key) with
  | some v =>
    -- a published key is answered without inspecting anything
    have hsame : (r.get key).2 = r := by rw [Registry.get_of_find? hfind]
    refine ⟨⟨[], by simp [hsame], List.nodup_nil, by simp⟩, fun _ => by rw [hsame], by simp, ?_⟩
    intro _ keys k hk
    simp [hsame] at hk
  | none =>
    obtain ⟨seen₀, hex₀, hins₀, hpub⟩ := Registry.get_explores hbound hfind
    refine ⟨⟨seen₀, hins₀, hex₀.nodup List.nodup_nil,
      fun k hk => (hex₀.mem_or_fresh k hk).resolve_left List.not_mem_nil⟩, by simp, ?_, ?_⟩
    · intro _ seen ok
      constructor
      · intro hex
        obtain ⟨rfl, rfl⟩ := hex₀.unique hex
        exact ⟨hins₀, rfl⟩
      · rintro ⟨hins, rfl⟩
        rw [hins₀] at hins
        rw [← List.append_cancel_left hins]
        exact hex₀
    · intro hok keys k hk hlater
      rw [hins₀, List.drop_left] at hk
      -- the key is published once the request succeeds, and later requests inspect no such key
      obtain ⟨seen₂, hins₂, hfresh₂⟩ := Registry.getAll_inspected keys (r.get key).2
      rw [hins₂, List.drop_left] at hlater
      exact hpub hok k hk (hfresh₂ k hlater)

namespace Analyzer

/-- Books of account: a ledger with an owner and an audit, users with accounts and tags, and
accounts with an owner; an audit's callback cannot be mapped. -/
def books : Analyzer where
  scope := ⟨[{ path := "acme/books", name := "books", decls := [
    Samples.withId "Ledger" [Samples.plain "Owner" (.pointer (.plain "acme/books" "User")),
      Samples.plain "Audit" (.pointer (.plain "acme/books" "Audit"))] [],
    Samples.withId "User" [Samples.plain "Accounts" (.slice (.plain "acme/books" "Account")),
      Samples.plain "Tags" (.slice Samples.str)] [],
    Samples.withId "Account" [Samples.plain "Owner" (.pointer (.plain "acme/books" "User"))] [],
    Samples.withId "Audit" [Samples.plain "Notify" .func] []] }]⟩

end Analyzer

/-- Over the declarations of the books, whose entities the search from the ledger comes to are
few, the request for the ledger. -/
theorem requests_inspect_in_search_order_ledger :
    let r : Registry TypeExpr := { introspector := Analyzer.books.introspector }
    let key : TypeExpr := .plain "acme/books" "Ledger"
    r.introspector.Bounded r.catalog (r.introspector.canonical key) ∧
    ((∃ seen, (r.get key).2.inspected = r.inspected ++ seen ∧ seen.Nodup ∧
      ∀ k ∈ seen, r.catalog.find? k = none) ∧
    (r.catalog.find? (r.introspector.canonical key) ≠ none →
      (r.get key).2.inspected = r.inspected) ∧
    (r.catalog.find? (r.introspector.canonical key) = none → ∀ seen ok,
      r.introspector.Explores r.catalog [] [r.introspector.canonical key] seen ok ↔
        (r.get key).2.inspected = r.inspected ++ seen ∧ (r.get key).1.isOk = ok) ∧
    ((r.get key).1.isOk = true → ∀ (keys : List TypeExpr) (k : TypeExpr),
      k ∈ (r.get key).2.inspected.drop r.inspected.length →
      k ∉ ((r.get key).2.getAll keys).inspected.drop (r.get key).2.inspected.length)) := by
  intro r key
  -- the ledger, its owner, the owner's accounts and tags, and the audit hold the search
  have hbound : r.introspector.Bounded r.catalog (r.introspector.canonical key) :=
    Introspector.bounded_of_closed
      [.plain "acme/books" "Ledger", .plain "acme/books" "User", .plain "acme/books" "Account",
        Samples.str, .plain "acme/books" "Audit"]
      (by decide) (by decide +kernel) (by decide +kernel)
  exact ⟨hbound, requests_inspect_in_search_order r key hbound⟩

/- The ledger's search: the ledger, its owner, the owner's accounts (whose owner is staged
already) and tags (no entity), then the ledger's audit, whose inspection fails. -/
example : (({ introspector := Analyzer.books.introspector } : Registry TypeExpr).get
    (.plain "acme/books" "Ledger")).2.inspected =
    [.plain "acme/books" "Ledger", .plain "acme/books" "User", .plain "acme/books" "Account",
      Samples.str, .plain "acme/books" "Audit"] := by
  decide +kernel

end EntityQuery
