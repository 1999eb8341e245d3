import Mathlib.Algebra.Order.BigOperators.Group.List
import EntityQuery.Proofs.Registry
import EntityQuery.Proofs.TypeListing
/-!
# Canonical keys

An analyzer's key for a type is the type with the pointers and aliases at its top removed
(`Analyzer.canonical`, which is `Universe.deref`). What removing them leaves is said without fuel
by `Universe.Strips`: a pointer gives way to its element type and an alias to the type it stands
for, its parameters replaced by the arguments, until neither is at the top. The relation is
deterministic (`Strips.unique`), so a type strips to at most one type.

`deref` runs at most `unfoldLimit` steps, and that is enough in every universe whose aliases are
ordered (`AliasesOrdered`): each alias names, anywhere in its type, only aliases of lower rank,
as type checking demands, since an alias may not refer to itself. Stripping `b` with its
parameters replaced by `τ` then takes at most `(weight + 1) ^ r * size b` steps more than the
types `τ` gives take, when the aliases `b` names have ranks below `r`
(`stripsWithin`): an alias of rank `k < r` costs one step and at most `weight` times
`(weight + 1) ^ k` steps for its own type, which is less than `(weight + 1) ^ r`. So `deref`
computes the stripped type of every type (`deref_eq_iff_strips`), and stripping twice strips
nothing more (`deref_deref`).

For the registry of an analyzer this means one descriptor per key: types that strip to the same
named type, path, name and type arguments alike, have that named type as their key; once a
request for one of them answers a descriptor, every later request for any of them answers the
same one; the key `lookup` returns is its own key; and the type a relationship leads to is
answered, by a request for any type with its key, with the descriptor the relationship reaches
(`canonical_keys_share_one_descriptor`). Types are values here, so the objects a program may
hold for one declaration are one value, and the first of them seen is each of them.

Classification starts from a type's key and, for a slice, classifies the element first. A slice
whose element has the slice's own key, `type L []L` or `type L []*L`, therefore descends without
end: whatever number of levels it may follow, it runs out of them
(`classifyWith_self_containing_slice`). A field of such a type gets neither a kind nor a mapping
error; the run exhausts its stack.
-/

set_option autoImplicit false

namespace EntityQuery

namespace TypeExpr

mutual

/-- The named types a type mentions anywhere, by package path and name. -/
def names : TypeExpr → List (String × String)
  | .named p n args => (p, n) :: argsNames args
  | .pointer e | .slice e | .array _ e | .chan e => names e
  | .map k v => names k ++ names v
  | .struct fs => membersNames fs
  | _ => []

def argsNames : TypeArgs → List (String × String)
  | .nil => []
  | .cons t rest => names t ++ argsNames rest

def membersNames : Members → List (String × String)
  | .nil => []
  | .cons _ t _ _ rest => names t ++ membersNames rest

end

/-- An argument of a list of type arguments mentions no more than the list and is no larger. -/
theorem names_subset_and_size_le_of_mem : ∀ {args : TypeArgs} {t : TypeExpr},
    t ∈ args.toList → t.names ⊆ argsNames args ∧ t.size ≤ argsSize args
  | .nil, _, h => by simp [TypeArgs.toList] at h
  | .cons t' rest, t, h => by
    rcases List.mem_cons.mp h with rfl | hmem
    · simp [argsNames, argsSize]
    · obtain ⟨hnames, hsize⟩ := names_subset_and_size_le_of_mem hmem
      refine ⟨List.Subset.trans hnames (List.subset_append_right _ _), ?_⟩
      simp only [argsSize]
      omega

theorem substArgs_toList (σ : List (String × TypeExpr)) (args : TypeArgs) :
    (substArgs σ args).toList = args.toList.map (subst σ) := by
  cases args with
  | nil => rfl
  | cons t rest => simp [substArgs, TypeArgs.toList, substArgs_toList σ rest]

end TypeExpr

namespace Universe

variable {u : Universe}

theorem unfoldLimit_eq (t : TypeExpr) :
    u.unfoldLimit t = t.size * (u.weight + 1) ^ u.declCount := by
  show Nat.repeat (· * (u.weight + 1)) u.declCount t.size = _
  generalize u.declCount = k
  induction k with
  | zero => rw [pow_zero, Nat.mul_one]; rfl
  | succ k ih => rw [pow_succ, ← Nat.mul_assoc, ← ih]; rfl

/-- A declaration is found in the predeclared scope or in one of the packages, under its name. -/
theorem decl?_eq_some_cases {p n : String} {d : TypeDecl} (h : u.decl? p n = some d) :
    d.name = n ∧
      ((p = "" ∧ d ∈ predeclared) ∨ ∃ pkg ∈ u.packages, pkg.path = p ∧ d ∈ pkg.decls) := by
  unfold decl? at h
  split at h
  · rename_i hp
    refine ⟨by simpa using List.find?_some h, .inl ⟨by simpa using hp, ?_⟩⟩
    exact List.mem_of_find?_eq_some h
  · obtain ⟨pkg, hpkg, hdecl⟩ := Option.bind_eq_some_iff.mp h
    refine ⟨by simpa using List.find?_some hdecl, .inr ⟨pkg, List.mem_of_find?_eq_some hpkg, ?_,
      List.mem_of_find?_eq_some hdecl⟩⟩
    simpa using List.find?_some hpkg

/-- A declared type is no larger than the weight of its universe. -/
theorem size_le_weight_of_decl? {p n : String} {d : TypeDecl} (h : u.decl? p n = some d) :
    d.type.size ≤ u.weight := by
  rcases (decl?_eq_some_cases h).2 with ⟨-, hd⟩ | ⟨pkg, hpkg, -, hd⟩
  · -- the predeclared types are interfaces
    simp only [predeclared, List.mem_cons, List.not_mem_nil, or_false] at hd
    rcases hd with rfl | rfl <;> simp [TypeExpr.size, weight]
  · have hin : d.type.size ≤ (pkg.decls.map (·.type.size)).sum :=
      List.le_sum_of_mem (List.mem_map_of_mem hd)
    have hall : (pkg.decls.map (·.type.size)).sum ≤
        (u.packages.map fun p => (p.decls.map (·.type.size)).sum).sum :=
      List.le_sum_of_mem
        (List.mem_map_of_mem (f := fun p => (p.decls.map (·.type.size)).sum) hpkg)
    simp only [weight, ← List.sum_eq_foldr]
    omega

/-! ### Stripping pointers and aliases -/

/-- `Strips t r`: removing the pointers and aliases at the top of `t`, one after the other,
leaves `r`, which has neither. -/
inductive Strips (u : Universe) : TypeExpr → TypeExpr → Prop
  | bare {t : TypeExpr} : u.stripStep? t = none → u.Strips t t
  | step {t t' r : TypeExpr} : u.stripStep? t = some t' → u.Strips t' r → u.Strips t r

namespace Strips

variable {t t' r r' : TypeExpr}

theorem stripStep?_eq_none (h : u.Strips t r) : u.stripStep? r = none := by
  induction h with
  | bare hnone => exact hnone
  | step _ _ ih => exact ih

theorem eq_of_stripStep?_eq_none (h : u.Strips t r) (hnone : u.stripStep? t = none) : r = t := by
  cases h with
  | bare _ => rfl
  | step hstep _ => simp [hnone] at hstep

theorem of_stripStep?_eq_some (h : u.Strips t r) (hstep : u.stripStep? t = some t') :
    u.Strips t' r := by
  cases h with
  | bare hnone => simp [hnone] at hstep
  | step hstep' h' =>
    rw [hstep, Option.some_inj] at hstep'
    exact hstep' ▸ h'

/-- A type strips to one type at most. -/
theorem unique (h : u.Strips t r) (h' : u.Strips t r') : r = r' := by
  induction h with
  | bare hnone => exact (h'.eq_of_stripStep?_eq_none hnone).symm
  | step hstep _ ih => exact ih (h'.of_stripStep?_eq_some hstep)

end Strips

theorem derefWith_of_stripStep?_eq_none {t : TypeExpr} (hnone : u.stripStep? t = none)
    (fuel : Nat) : u.derefWith fuel t = t := by
  cases fuel <;> simp [derefWith, hnone]

theorem strips_derefWith_of_stripStep?_eq_none {t : TypeExpr} (hnone : u.stripStep? t = none)
    (fuel : Nat) : u.Strips t (u.derefWith fuel t) := by
  rw [derefWith_of_stripStep?_eq_none hnone]
  exact .bare hnone

/-- Once the loop reaches the stripped type, more fuel changes nothing. -/
theorem derefWith_of_le {fuel fuel' : Nat} (hle : fuel ≤ fuel') :
    ∀ {t : TypeExpr}, u.Strips t (u.derefWith fuel t) →
      u.derefWith fuel' t = u.derefWith fuel t := by
  induction fuel generalizing fuel' with
  | zero =>
    intro t h
    exact derefWith_of_stripStep?_eq_none h.stripStep?_eq_none fuel'
  | succ fuel ih =>
    intro t h
    cases hstep : u.stripStep? t with
    | none => rw [derefWith_of_stripStep?_eq_none hstep, derefWith_of_stripStep?_eq_none hstep]
    | some t' =>
      obtain ⟨fuel'', rfl⟩ : ∃ k, fuel' = k + 1 := ⟨fuel' - 1, by omega⟩
      simp only [derefWith, hstep] at h ⊢
      exact ih (by omega) (h.of_stripStep?_eq_some hstep)

theorem strips_derefWith_of_le {t : TypeExpr} {fuel fuel' : Nat} (hle : fuel ≤ fuel')
    (h : u.Strips t (u.derefWith fuel t)) : u.Strips t (u.derefWith fuel' t) := by
  rw [derefWith_of_le hle h]
  exact h

/-- A step at the top, then the stripping of what it leaves within less fuel. -/
theorem strips_derefWith_of_stripStep?_eq_some {t t' : TypeExpr} {fuel fuel' : Nat}
    (hstep : u.stripStep? t = some t') (h : u.Strips t' (u.derefWith fuel t'))
    (hlt : fuel < fuel') : u.Strips t (u.derefWith fuel' t) := by
  obtain ⟨k, rfl⟩ : ∃ k, fuel' = k + 1 := ⟨fuel' - 1, by omega⟩
  simp only [derefWith, hstep]
  exact .step hstep (strips_derefWith_of_le (by omega) h)

/-! ### Enough fuel in an ordered universe -/

/-- The named type is an alias. -/
def namesAlias (x : String × String) : Bool := (u.decl? x.1 x.2).any (·.isAlias)

/-- The aliases of the universe are ordered: each alias has a rank below the number of
declarations and names, anywhere in its type, only aliases of lower rank. Type checking rejects an
alias that refers to itself, directly or through other aliases, so a checked universe has such an
order. -/
def AliasesOrdered (u : Universe) : Prop :=
  ∃ rank : String × String → Nat, ∀ p n d, u.decl? p n = some d → d.isAlias = true →
    rank (p, n) < u.declCount ∧
      ∀ x ∈ d.type.names, u.namesAlias x = true → rank x < rank (p, n)

/-- An order checked declaration by declaration: the predeclared alias ranks below the number of
declarations, and so does every alias of a package, above every alias its type names. -/
theorem aliasesOrdered_of_decls (rank : String × String → Nat)
    (hpre : ∀ d ∈ predeclared, d.isAlias = true → rank ("", d.name) < u.declCount)
    (hdecls : ∀ pkg ∈ u.packages, ∀ d ∈ pkg.decls, d.isAlias = true →
      rank (pkg.path, d.name) < u.declCount ∧
        ∀ x ∈ d.type.names, u.namesAlias x = true → rank x < rank (pkg.path, d.name)) :
    u.AliasesOrdered := by
  refine ⟨rank, fun p n d hd halias => ?_⟩
  obtain ⟨rfl, hfound⟩ := decl?_eq_some_cases hd
  rcases hfound with ⟨rfl, hpd⟩ | ⟨pkg, hpkg, rfl, hpd⟩
  · -- the predeclared types are interfaces, which name nothing
    refine ⟨hpre d hpd halias, fun x hx => ?_⟩
    simp only [predeclared, List.mem_cons, List.not_mem_nil, or_false] at hpd
    rcases hpd with rfl | rfl <;> simp [TypeExpr.names] at hx
  · exact hdecls pkg hpkg d hpd halias

theorem pow_mul_lt_pow {w s k r : Nat} (hs : s ≤ w) (hk : k < r) :
    (w + 1) ^ k * s < (w + 1) ^ r :=
  calc (w + 1) ^ k * s ≤ (w + 1) ^ k * w := Nat.mul_le_mul_left _ hs
    _ < (w + 1) ^ k * (w + 1) :=
      Nat.mul_lt_mul_of_pos_left (Nat.lt_succ_self w) (Nat.pow_pos (Nat.succ_pos w))
    _ = (w + 1) ^ (k + 1) := (Nat.pow_succ _ _).symm
    _ ≤ (w + 1) ^ r := Nat.pow_le_pow_right (Nat.succ_pos w) hk

section Fuel

variable (rank : String × String → Nat)

/-- Stripping `b` with its parameters replaced by `τ` ends within `(weight + 1) ^ r * size b`
steps more than the types `τ` gives need, for every `b` whose aliases have ranks below `r`. -/
def StripsWithin (u : Universe) (r : Nat) : Prop :=
  ∀ (b : TypeExpr) (τ : List (String × TypeExpr)) (fuel : Nat),
    (∀ x ∈ b.names, u.namesAlias x = true → rank x < r) →
    (∀ x s, τ.lookup x = some s → u.Strips s (u.derefWith fuel s)) →
    u.Strips (b.subst τ) (u.derefWith (fuel + (u.weight + 1) ^ r * b.size) (b.subst τ))

variable {rank}

/-- The types `τ` gives, when they are arguments `args` replaced by `σ`, strip within the fuel the
arguments need. -/
theorem strips_lookup_zip {r : Nat} {fuel : Nat} {σ : List (String × TypeExpr)}
    {args : TypeArgs} (params : List String)
    (hargs : ∀ t ∈ args.toList, u.Strips (t.subst σ)
      (u.derefWith (fuel + (u.weight + 1) ^ r * t.size) (t.subst σ))) :
    ∀ x s, (params.zip (TypeExpr.substArgs σ args).toList).lookup x = some s →
      u.Strips s (u.derefWith (fuel + (u.weight + 1) ^ r * TypeExpr.argsSize args) s) := by
  intro x s hs
  have hmem : s ∈ (TypeExpr.substArgs σ args).toList :=
    (List.of_mem_zip (mem_of_lookup_eq_some hs)).2
  rw [TypeExpr.substArgs_toList, List.mem_map] at hmem
  obtain ⟨t, ht, rfl⟩ := hmem
  have hle : fuel + (u.weight + 1) ^ r * t.size ≤
      fuel + (u.weight + 1) ^ r * TypeExpr.argsSize args :=
    Nat.add_le_add_left (Nat.mul_le_mul_left _ (TypeExpr.names_subset_and_size_le_of_mem ht).2) _
  exact strips_derefWith_of_le hle (hargs t ht)

/-- An alias at the top of `b`: one step to its type, whose aliases rank lower, with the
arguments of `b` for its parameters. -/
theorem strips_named_alias {r : Nat} (hrank : ∀ p n d, u.decl? p n = some d →
      d.isAlias = true → ∀ x ∈ d.type.names, u.namesAlias x = true → rank x < rank (p, n))
    (hlower : ∀ k < r, u.StripsWithin rank k) {p n : String} {args : TypeArgs} {d : TypeDecl}
    (hd : u.decl? p n = some d) (halias : d.isAlias = true) (hlt : rank (p, n) < r)
    {σ : List (String × TypeExpr)} {fuel : Nat}
    (hargs : ∀ t ∈ args.toList, u.Strips (t.subst σ)
      (u.derefWith (fuel + (u.weight + 1) ^ r * t.size) (t.subst σ))) :
    u.Strips ((TypeExpr.named p n args).subst σ) (u.derefWith
      (fuel + (u.weight + 1) ^ r * (TypeExpr.named p n args).size)
      ((TypeExpr.named p n args).subst σ)) := by
  let τ := d.params.zip (TypeExpr.substArgs σ args).toList
  let fuelArgs := fuel + (u.weight + 1) ^ r * TypeExpr.argsSize args
  have hstep : u.stripStep? ((TypeExpr.named p n args).subst σ) = some (d.type.subst τ) := by
    simp [TypeExpr.subst, stripStep?, expand?, hd, halias, τ]
  have hbody := hlower (rank (p, n)) hlt d.type τ fuelArgs (hrank p n d hd halias)
    (strips_lookup_zip d.params hargs)
  refine strips_derefWith_of_stripStep?_eq_some hstep hbody ?_
  -- the alias costs one step and its type less than one more power of the weight
  have hlt' := pow_mul_lt_pow (size_le_weight_of_decl? hd) hlt
  simp only [fuelArgs, TypeExpr.size, Nat.mul_add]
  omega

/-- One rank more: the step of the induction on ranks, by induction on the size of `b`. -/
theorem stripsWithin_of_lower {r : Nat} (hrank : ∀ p n d, u.decl? p n = some d →
      d.isAlias = true → ∀ x ∈ d.type.names, u.namesAlias x = true → rank x < rank (p, n))
    (hlower : ∀ k < r, u.StripsWithin rank k) : u.StripsWithin rank r := by
  suffices h : ∀ m (b : TypeExpr), b.size ≤ m → ∀ τ fuel,
      (∀ x ∈ b.names, u.namesAlias x = true → rank x < r) →
      (∀ x s, τ.lookup x = some s → u.Strips s (u.derefWith fuel s)) →
      u.Strips (b.subst τ) (u.derefWith (fuel + (u.weight + 1) ^ r * b.size) (b.subst τ)) from
    fun b => h b.size b le_rfl
  intro m
  induction m with
  | zero => intro b hb; have := b.size_pos; omega
  | succ m ih =>
    intro b hb τ fuel hnames hτ
    have hpow : 0 < (u.weight + 1) ^ r := Nat.pow_pos (Nat.succ_pos _)
    cases b with
    | param x =>
      cases hx : τ.lookup x with
      | none =>
        exact strips_derefWith_of_stripStep?_eq_none (by simp [TypeExpr.subst, hx, stripStep?]) _
      | some s =>
        simp only [TypeExpr.subst, hx, Option.getD_some]
        exact strips_derefWith_of_le (Nat.le_add_right _ _) (hτ x s hx)
    | pointer e =>
      have he := ih e (by simp only [TypeExpr.size] at hb; omega) τ fuel
        (fun x hx => hnames x (by simpa [TypeExpr.names] using hx)) hτ
      refine strips_derefWith_of_stripStep?_eq_some (by simp [TypeExpr.subst, stripStep?]) he ?_
      simp only [TypeExpr.size, Nat.mul_add, Nat.mul_one]
      omega
    | named p n args =>
      -- each argument is smaller than the named type and names no more aliases
      have hargs : ∀ t ∈ args.toList, u.Strips (t.subst τ)
          (u.derefWith (fuel + (u.weight + 1) ^ r * t.size) (t.subst τ)) := by
        intro t ht
        obtain ⟨hsub, hsize⟩ := TypeExpr.names_subset_and_size_le_of_mem ht
        refine ih t ?_ τ fuel (fun x hx => hnames x ?_) hτ
        · simp only [TypeExpr.size] at hb; omega
        · simp only [TypeExpr.names]
          exact List.mem_cons_of_mem _ (hsub hx)
      cases hd : u.decl? p n with
      | none =>
        exact strips_derefWith_of_stripStep?_eq_none
          (by simp [TypeExpr.subst, stripStep?, expand?, hd]) _
      | some d =>
        cases halias : d.isAlias with
        | false =>
          exact strips_derefWith_of_stripStep?_eq_none
            (by simp [TypeExpr.subst, stripStep?, expand?, hd, halias]) _
        | true =>
          have hlt : rank (p, n) < r :=
            hnames (p, n) (by simp [TypeExpr.names]) (by simp [namesAlias, hd, halias])
          exact strips_named_alias hrank hlower hd halias hlt hargs
    | basic _ | slice _ | array _ _ | map _ _ | chan _ | func | interface | struct _ =>
      exact strips_derefWith_of_stripStep?_eq_none (by simp [TypeExpr.subst, stripStep?]) _

theorem stripsWithin (hrank : ∀ p n d, u.decl? p n = some d → d.isAlias = true →
      ∀ x ∈ d.type.names, u.namesAlias x = true → rank x < rank (p, n)) (r : Nat) :
    u.StripsWithin rank r := by
  induction r using Nat.strong_induction_on with
  | _ r ih => exact stripsWithin_of_lower hrank ih

end Fuel

/-- In an ordered universe, `deref` strips every type. -/
theorem strips_deref (ho : u.AliasesOrdered) (t : TypeExpr) : u.Strips t (u.deref t) := by
  obtain ⟨rank, hrank⟩ := ho
  have hbelow : ∀ x ∈ t.names, u.namesAlias x = true → rank x < u.declCount := by
    intro x _ hx
    cases hd : u.decl? x.1 x.2 with
    | none => simp [namesAlias, hd] at hx
    | some d => exact (hrank x.1 x.2 d hd (by simpa [namesAlias, hd] using hx)).1
  have h := stripsWithin (fun p n d hd halias => (hrank p n d hd halias).2) u.declCount t []
    0 hbelow (by simp)
  rw [TypeExpr.subst_nil, Nat.zero_add] at h
  rw [deref, unfoldLimit_eq, Nat.mul_comm]
  exact h

theorem deref_eq_iff_strips (ho : u.AliasesOrdered) {t r : TypeExpr} :
    u.deref t = r ↔ u.Strips t r :=
  ⟨fun h => h ▸ strips_deref ho t, fun h => (strips_deref ho t).unique h⟩

/-- Stripping twice strips nothing more. -/
theorem deref_deref (ho : u.AliasesOrdered) (t : TypeExpr) : u.deref (u.deref t) = u.deref t :=
  (deref_eq_iff_strips ho).mpr (.bare (strips_deref ho t).stripStep?_eq_none)

end Universe

namespace Registry

variable {K : Type} [DecidableEq K] {r : Registry K} {key : K}

/-- With a canonical form idempotent at the key, once a request answers a descriptor, every later
request for a key of the same canonical form answers it and changes nothing. -/
theorem getAll_get_of_ok {d : Descriptor K}
    (hcanon : r.introspector.canonical (r.introspector.canonical key) =
      r.introspector.canonical key)
    (h : (r.get key).1 = .ok (some d)) (keys : List K) {t : K}
    (ht : r.introspector.canonical t = r.introspector.canonical key) :
    ((r.get key).2.getAll keys).get t = (.ok (some d), (r.get key).2.getAll keys) := by
  have hlater := getAll_find?_of_find? keys _ (get_find?_of_ok hcanon h)
  apply get_of_find?
  rw [introspector_getAll, introspector_get, ht]
  exact hlater

end Registry

namespace Analyzer

variable (a : Analyzer)

/-- Lookup answers a key: the declared type with its pointers and aliases removed. -/
theorem canonical_of_lookup (ho : a.scope.AliasesOrdered) {q : String} {T : TypeExpr}
    (h : a.lookup q = .ok T) : a.canonical T = T := by
  -- every answer of `lookup` is the key of a declared type; every other branch fails
  obtain ⟨P, rfl⟩ : ∃ P, T = a.canonical P := by
    unfold lookup at h
    repeat' split at h
    all_goals first | exact ⟨_, (Except.ok.inj h).symm⟩ | cases h
  exact Universe.deref_deref ho P

/-- Keys of an analyzer. Canonical keys are the stripped types, so types that strip to one named
type, package path, name and type arguments alike, share that type as their key; taking the key
twice changes nothing; once a request answers a descriptor for a type, every later request for a
type of the same key answers that descriptor and changes nothing, whatever requests came
between; the type `lookup` answers is its own key; and in a registry that has answered any
requests, the descriptor a relationship reaches is published under the relationship's key and is
what a request for any type of that key answers. The aliases must be ordered, as type checking
guarantees. -/
theorem canonical_keys_share_one_descriptor (ho : a.scope.AliasesOrdered) :
    (∀ t r, a.canonical t = r ↔ a.scope.Strips t r) ∧
    (∀ t, a.canonical (a.canonical t) = a.canonical t) ∧
    (∀ r : Registry TypeExpr, r.introspector = a.introspector → ∀ key d,
      (r.get key).1 = .ok (some d) → ∀ keys t, a.canonical t = a.canonical key →
        ((r.get key).2.getAll keys).get t = (.ok (some d), (r.get key).2.getAll keys)) ∧
    (∀ q T, a.lookup q = .ok T → a.canonical T = T) ∧
    ∀ keys : List TypeExpr,
      let r := ({ introspector := a.introspector } : Registry TypeExpr).getAll keys
      ∀ t d n k, r.catalog.find? t = some (some d) → d.related? n = some k →
        ∃ rd, r.catalog.relatedOf? d n = some rd ∧
          ∀ T, a.canonical T = k → r.get T = (.ok (some rd), r) := by
  refine ⟨fun t r => Universe.deref_eq_iff_strips ho, fun t => Universe.deref_deref ho t,
    ?_, fun q T h => a.canonical_of_lookup ho h, ?_⟩
  · intro r hr key d hd keys t ht
    have hcanon : r.introspector.canonical (r.introspector.canonical key) =
        r.introspector.canonical key := by
      rw [hr]
      exact Universe.deref_deref ho key
    exact Registry.getAll_get_of_ok hcanon hd keys (by rw [hr]; exact ht)
  · intro keys r t d n k hd hk
    have hbuilt : r.catalog.Built a.introspector := by
      have h := Registry.getAll_built keys { introspector := a.introspector }
        (Catalog.built_empty a.introspector)
      simpa using h
    obtain ⟨rd, hrd⟩ := hbuilt.closed t d hd n k hk
    refine ⟨rd, by simp [Catalog.relatedOf?, hk, Catalog.descriptor?_eq_some_iff.mpr hrd], ?_⟩
    intro T hT
    apply Registry.get_of_find?
    rw [Registry.introspector_getAll]
    show r.catalog.find? (a.canonical T) = some (some rd)
    rw [hT]
    exact hrd

/-! ### Classifying a type that contains itself -/

/-- Classification starts from the key, so types of one key classify alike. -/
theorem classifyWith_congr_deref (fuel : Nat) {t t' : TypeExpr}
    (h : a.scope.deref t = a.scope.deref t') : a.classifyWith fuel t = a.classifyWith fuel t' := by
  cases fuel <;> simp [classifyWith, h]

/-- A slice whose element has the slice's own key is classified by classifying that element
first, so classification never ends: it runs out of every number of levels. -/
theorem classifyWith_self_containing_slice {t e : TypeExpr}
    (hslice : a.scope.underlying (a.scope.deref t) = .slice e) (hbyte : a.isByteType e = false)
    (hloop : a.scope.deref e = a.scope.deref t) :
    ∀ fuel, a.classifyWith fuel t = .error .endless
  | 0 => rfl
  | fuel + 1 => by
    have hinner : a.classifyWith fuel e = .error .endless := by
      rw [a.classifyWith_congr_deref fuel hloop]
      exact classifyWith_self_containing_slice hslice hbyte hloop fuel
    simp only [classifyWith, hslice, hbyte, Bool.false_eq_true, if_false, hinner]
    rfl

/-- A package with a slice type of itself: `type L []L`. -/
def selfSlice : Analyzer where
  scope := { packages := [{ path := "acme/loop", name := "loop", decls := [
    { name := "L", type := .slice (.plain "acme/loop" "L") }] }] }

/-- `type L []L` runs out of every number of levels, the levels of a classification included. -/
theorem classifyWith_self_containing_slice_list :
    let l : TypeExpr := .plain "acme/loop" "L"
    selfSlice.scope.underlying (selfSlice.scope.deref l) = .slice l ∧
      selfSlice.isByteType l = false ∧ selfSlice.scope.deref l = selfSlice.scope.deref l ∧
      selfSlice.classify l = .error .endless := by
  intro l
  have hslice : selfSlice.scope.underlying (selfSlice.scope.deref l) = .slice l := by decide
  have hbyte : selfSlice.isByteType l = false := by decide
  exact ⟨hslice, hbyte, rfl,
    classifyWith_self_containing_slice selfSlice hslice hbyte rfl stackLevels⟩

/-- A package whose alias names another twice, `type Same[T any] = T` and
`type Twice[T any] = Same[Same[T]]`, beside an account. -/
def twiceAliased : Analyzer where
  scope := { packages := [{ path := "acme/crm", name := "crm", decls := [
    { name := "Same", params := ["T"], isAlias := true, type := .param "T" },
    { name := "Twice", params := ["T"], isAlias := true,
      type := .named "acme/crm" "Same"
        (.cons (.named "acme/crm" "Same" (.cons (.param "T") .nil)) .nil) },
    { name := "Account", type := .struct (.cons "ID" (.basic .string) "" false .nil) }] }] }

theorem twiceAliased_aliasesOrdered : twiceAliased.scope.AliasesOrdered :=
  Universe.aliasesOrdered_of_decls (fun x => if x = ("acme/crm", "Twice") then 1 else 0)
    (by decide) (by decide)

/-- A pointer to `Twice[Account]` has the account as its key, and its key is its own key. -/
theorem canonical_keys_share_one_descriptor_twice :
    let t : TypeExpr :=
      .pointer (.named "acme/crm" "Twice" (.cons (.plain "acme/crm" "Account") .nil))
    twiceAliased.scope.AliasesOrdered ∧ twiceAliased.canonical t = .plain "acme/crm" "Account" ∧
      twiceAliased.canonical (twiceAliased.canonical t) = twiceAliased.canonical t := by
  intro t
  refine ⟨twiceAliased_aliasesOrdered, by decide, ?_⟩
  exact (canonical_keys_share_one_descriptor twiceAliased twiceAliased_aliasesOrdered).2.1 t

end Analyzer

end EntityQuery
