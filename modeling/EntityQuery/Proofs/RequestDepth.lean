import EntityQuery.Proofs.Inspection
import EntityQuery.Proofs.Canonical
import EntityQuery.Proofs.PromotedFields
import EntityQuery.Proofs.IdentifierAccess
import EntityQuery.Proofs.EntityName
/-!
# How deep requests go

A request to a registry inspects the entities it comes to one below another, and its fuel, the
introspector's reach, runs out only when they nest deeper than the reach; fewer entities than
the reach below the request's key is enough (`Introspector.Bounded`). Analyzers and reflectors
reach as deep as a run's stack, and in a universe without generic declarations
(`Universe.NonGeneric`) that is always enough, because the keys a request comes to are drawn from
a list fixed by the declarations.

For an analyzer whose universe has its aliases ordered, as type checking demands, every entity a
request comes to below its key is a declared type without type arguments, so fewer declarations
than the stack holds levels bound every request (`Analyzer.bounded_of_nonGeneric`). A declared
type mentions no type arguments (`TypeExpr.argsFree`); removing pointers and aliases, unfolding to
the underlying type and taking the fields of a struct or the element of a slice keep a type so
(`argsFree_deref`, `argsFree_of_structFields?`), and so does unfolding a named type whatever its
arguments, since no declaration has parameters for them to replace. Classification
(`argsFree_of_classifyWith`) and the collection of fields through embedded structs
(`argsFree_of_collectWith`) hand on only such types, so every candidate of a shape the analyzer
reports is free of arguments (`argsFree_of_inspect`). A candidate's key is its stripped form, which
is its own key; when that key is an entity it is a named type with a declaration, and with no
arguments it is one of the declared types (`mem_declaredTypes_of_inspect`).

A reflector's key is a type with pointers followed and aliases erased, and that is not shown to
be its own key; its bound counts instead the types written in the declarations
(`Universe.writtenTypes`, every part of every declared type, fewer than the universe's weight).
The visible fields of a named struct have written types (`visibleFields_mem_writtenTypes`), and
a field's candidate is the key of its type or of that type's element
(`Reflector.classifyWith_candidate`), so every key a request comes to below its start is one of
two keys computed from a written type (`Reflector.keysBelow`), and a weight less than half the
stack's levels bounds every request (`Reflector.bounded_of_nonGeneric`). No ordering of aliases is
needed for it.

Scope. With generic declarations a request may meet instances that no declaration names as such
(`T[[]X]` below `T[X]`), and no bound in the size of the universe is claimed for them.
-/

set_option autoImplicit false

namespace EntityQuery

/-! ### Declarations without type arguments -/

namespace TypeExpr

mutual

/-- The named types a type mentions carry no type arguments. -/
def argsFree : TypeExpr → Bool
  | .named _ _ .nil => true
  | .named _ _ (.cons _ _) => false
  | .pointer e | .slice e | .array _ e | .chan e => argsFree e
  | .map k v => argsFree k && argsFree v
  | .struct fs => membersArgsFree fs
  | _ => true

/-- The types of the fields mention no type arguments. -/
def membersArgsFree : Members → Bool
  | .nil => true
  | .cons _ t _ _ rest => argsFree t && membersArgsFree rest

end

theorem membersArgsFree_iff (fs : Members) :
    membersArgsFree fs = true ↔ ∀ m ∈ fs.toList, m.type.argsFree = true := by
  cases fs with
  | nil => simp [membersArgsFree, Members.toList]
  | cons n t g e rest => simp [membersArgsFree, Members.toList, membersArgsFree_iff rest]

end TypeExpr

namespace Universe

variable {u : Universe}

/-- No declaration is generic: none has type parameters, and the named types a declared type
mentions carry no type arguments. -/
def NonGeneric (u : Universe) : Prop :=
  ∀ p n d, u.decl? p n = some d → d.params = [] ∧ d.type.argsFree = true

/-- A universe is without generic declarations when each of its packages' declarations is:
the predeclared types are interfaces. -/
theorem nonGeneric_of_decls
    (h : ∀ pkg ∈ u.packages, ∀ d ∈ pkg.decls, d.params = [] ∧ d.type.argsFree = true) :
    u.NonGeneric := by
  intro p n d hd
  rcases (decl?_eq_some_cases hd).2 with ⟨-, hpd⟩ | ⟨pkg, hpkg, -, hpd⟩
  · simp only [predeclared, List.mem_cons, List.not_mem_nil, or_false] at hpd
    rcases hpd with rfl | rfl <;> simp [TypeExpr.argsFree]
  · exact h pkg hpkg d hpd

/-- Unfolding a named type replaces no parameters: it gives the declared type as it is, whatever
the arguments of the named type. -/
theorem expand?_eq_some_of_nonGeneric (hg : u.NonGeneric) {p n : String} {args : TypeArgs}
    {d : TypeDecl} {body : TypeExpr} (h : u.expand? p n args = some (d, body)) :
    u.decl? p n = some d ∧ body = d.type := by
  unfold expand? at h
  obtain ⟨d', hd', hpair⟩ := Option.map_eq_some_iff.mp h
  simp only [Prod.mk.injEq] at hpair
  obtain ⟨rfl, rfl⟩ := hpair
  rw [(hg p n d' hd').1, List.zip_nil_left, TypeExpr.subst_nil]
  exact ⟨hd', rfl⟩

section Bodies

/-! The underlying type and the fields of a struct keep every property that every unfolded
declaration has. -/

variable {Q : TypeExpr → Prop}
  (hbody : ∀ {p n : String} {args : TypeArgs} {d : TypeDecl} {body : TypeExpr},
    u.expand? p n args = some (d, body) → Q body)
include hbody

theorem underlyingWith_of_bodies :
    ∀ (fuel : Nat) {t : TypeExpr}, Q t → Q (u.underlyingWith fuel t)
  | 0, _, ht => ht
  | fuel + 1, t, ht => by
    cases t with
    | named p n args =>
      simp only [underlyingWith]
      cases hexp : u.expand? p n args with
      | none => exact ht
      | some db => exact underlyingWith_of_bodies fuel (hbody hexp)
    | _ => simpa [underlyingWith] using ht

/-- A struct underlying a named type, whatever its arguments, underlies an unfolded declaration,
so it has the property. -/
theorem underlying_named_of_bodies {p n : String} {args : TypeArgs} {fs : Members}
    (h : u.underlying (.named p n args) = .struct fs) : Q (.struct fs) := by
  obtain ⟨fuel, hfuel⟩ : ∃ fuel, u.unfoldLimit (.named p n args) = fuel + 1 :=
    Nat.exists_eq_succ_of_ne_zero (Nat.pos_iff_ne_zero.mp (u.unfoldLimit_pos _))
  rw [underlying, hfuel] at h
  simp only [underlyingWith] at h
  cases hexp : u.expand? p n args with
  | none =>
    rw [hexp] at h
    cases h
  | some db =>
    rw [hexp] at h
    rw [← h]
    exact underlyingWith_of_bodies hbody fuel (hbody hexp)

/-- The fields of a type with the property, or of a named type, are those of a struct with it. -/
theorem structFields?_of_bodies {t : TypeExpr} {fs : List Member}
    (ht : Q t ∨ ∃ p n args, t = .named p n args) (h : u.structFields? t = some fs) :
    ∃ members, Q (.struct members) ∧ fs = members.toList := by
  unfold structFields? at h
  split at h
  · rename_i members hunder
    cases h
    refine ⟨members, ?_, rfl⟩
    rcases ht with ht | ⟨p, n, args, rfl⟩
    · rw [← hunder]
      exact underlyingWith_of_bodies hbody _ ht
    · exact underlying_named_of_bodies hbody hunder
  · cases h

end Bodies

/-- Unfolding a named type gives a type free of arguments, whatever the arguments of the named
type. -/
theorem argsFree_of_expand? (hg : u.NonGeneric) {p n : String} {args : TypeArgs}
    {d : TypeDecl} {body : TypeExpr} (h : u.expand? p n args = some (d, body)) :
    body.argsFree = true := by
  obtain ⟨hd, rfl⟩ := expand?_eq_some_of_nonGeneric hg h
  exact (hg p n d hd).2

/-- Removing an alias at the top of a named type leaves a type free of arguments. -/
theorem argsFree_of_stripStep?_named (hg : u.NonGeneric) {p n : String} {args : TypeArgs}
    {t' : TypeExpr} (h : u.stripStep? (.named p n args) = some t') : t'.argsFree = true := by
  simp only [stripStep?] at h
  split at h
  · rename_i d body hexp
    split at h
    · cases h
      exact argsFree_of_expand? hg hexp
    · cases h
  · cases h

/-- Removing a pointer or an alias at the top keeps a type free of arguments. -/
theorem argsFree_of_stripStep? (hg : u.NonGeneric) {t t' : TypeExpr} (ht : t.argsFree = true)
    (h : u.stripStep? t = some t') : t'.argsFree = true := by
  cases t with
  | pointer e =>
    cases h
    exact ht
  | named p n args => exact argsFree_of_stripStep?_named hg h
  | _ => cases h

theorem argsFree_derefWith (hg : u.NonGeneric) :
    ∀ (fuel : Nat) {t : TypeExpr}, t.argsFree = true → (u.derefWith fuel t).argsFree = true
  | 0, _, ht => ht
  | fuel + 1, t, ht => by
    simp only [derefWith]
    cases hstep : u.stripStep? t with
    | none => exact ht
    | some t' => exact argsFree_derefWith hg fuel (argsFree_of_stripStep? hg ht hstep)

/-- Removing the pointers and aliases at the top keeps a type free of arguments. -/
theorem argsFree_deref (hg : u.NonGeneric) {t : TypeExpr} (ht : t.argsFree = true) :
    (u.deref t).argsFree = true :=
  argsFree_derefWith hg _ ht

/-- The underlying type of a type free of arguments is free of them. -/
theorem argsFree_underlying (hg : u.NonGeneric) {t : TypeExpr} (ht : t.argsFree = true) :
    (u.underlying t).argsFree = true :=
  underlyingWith_of_bodies (argsFree_of_expand? hg) _ ht

/-- The fields of a struct type free of arguments, or of a named struct type whatever its
arguments, have types free of arguments. -/
theorem argsFree_of_structFields? (hg : u.NonGeneric) {t : TypeExpr} {fs : List Member}
    (ht : t.argsFree = true ∨ ∃ p n args, t = .named p n args) (h : u.structFields? t = some fs) :
    ∀ m ∈ fs, m.type.argsFree = true := by
  obtain ⟨members, hfree, rfl⟩ := structFields?_of_bodies (argsFree_of_expand? hg) ht h
  exact (TypeExpr.membersArgsFree_iff members).mp hfree

/-- A named struct type has a declaration. -/
theorem decl?_of_structFields?_named {p n : String} {args : TypeArgs} {fs : List Member}
    (h : u.structFields? (.named p n args) = some fs) : ∃ d, u.decl? p n = some d := by
  obtain ⟨fuel, hfuel⟩ : ∃ fuel, u.unfoldLimit (.named p n args) = fuel + 1 :=
    Nat.exists_eq_succ_of_ne_zero (Nat.pos_iff_ne_zero.mp (u.unfoldLimit_pos _))
  cases hd : u.decl? p n with
  | some d => exact ⟨d, rfl⟩
  | none =>
    -- without a declaration the named type is its own underlying type, which is no struct
    have hexp : u.expand? p n args = none := by simp [expand?, hd]
    simp [structFields?, underlying, hfuel, underlyingWith, hexp] at h

/-- The named types the packages declare, without type arguments. -/
def declaredTypes (u : Universe) : List TypeExpr :=
  u.packages.flatMap fun pkg => pkg.decls.map fun d => .plain pkg.path d.name

/-- The declared types are fewer than the declarations, which count the predeclared ones too. -/
theorem length_declaredTypes_lt : u.declaredTypes.length < u.declCount := by
  simp only [declaredTypes, declCount, List.length_flatMap, List.length_map, List.sum_eq_foldr,
    predeclared, List.length_cons, List.length_nil]
  omega

/-- A named type of a package, declared there and without arguments, is a declared type. -/
theorem plain_mem_declaredTypes {p n : String} {d : TypeDecl} (hd : u.decl? p n = some d)
    (hp : p ≠ "") : TypeExpr.plain p n ∈ u.declaredTypes := by
  obtain ⟨rfl, hfound⟩ := decl?_eq_some_cases hd
  rcases hfound with ⟨hempty, -⟩ | ⟨pkg, hpkg, rfl, hpd⟩
  · exact absurd hempty hp
  · exact List.mem_flatMap.mpr ⟨pkg, hpkg, List.mem_map.mpr ⟨d, hpd, rfl⟩⟩

end Universe

/-- Every field `dropShadowed` keeps is one of the fields it was given. -/
theorem mem_of_mem_dropShadowed {K : Type} {fields : List (FieldSpec K × Nat)} {f : FieldSpec K}
    (h : f ∈ dropShadowed fields) : ∃ depth, (f, depth) ∈ fields := by
  rw [dropShadowed_eq_foldl, (passed_foldl (shallowestDepth fields) fields).kept] at h
  obtain ⟨⟨⟨f', depth⟩, i⟩, hmem, rfl⟩ := List.mem_map.mp h
  obtain ⟨-, -, hget⟩ := List.mem_zipIdx (List.mem_filter.mp hmem).1
  exact ⟨depth, hget ▸ List.getElem_mem _⟩

/-! ### Analyzers -/

namespace Analyzer

variable {a : Analyzer}

/-- The candidate a classification gives is the type's key, or the key of the element of the
slice or array underlying it. -/
theorem classifyWith_candidate {fuel : Nat} {t : TypeExpr} {k : FieldKind} {c : TypeExpr}
    (h : a.classifyWith fuel t = .ok (k, c)) :
    c = a.scope.deref t ∨ ∃ e, (a.scope.underlying (a.scope.deref t) = .slice e ∨
      ∃ len, a.scope.underlying (a.scope.deref t) = .array len e) ∧ c = a.scope.deref e := by
  cases fuel with
  | zero => cases h
  | succ fuel =>
    simp only [classifyWith] at h
    split at h
    · split at h
      · cases h
        exact .inl rfl
      · cases h
    · cases h
      exact .inl rfl
    · rename_i e hslice
      split at h
      · cases h
        exact .inl rfl
      · cases hc : a.classifyWith fuel e with
        | error err => simp [hc] at h
        | ok r =>
          simp only [hc] at h
          cases h
          exact .inr ⟨e, .inl hslice, rfl⟩
    · rename_i len e harray
      cases hc : a.classifyWith fuel e with
      | error err => simp [hc] at h
      | ok r =>
        simp only [hc] at h
        cases h
        exact .inr ⟨e, .inr ⟨len, harray⟩, rfl⟩
    · split at h
      · cases h
        exact .inl rfl
      · cases h
    · cases h

/-- Classifying a type free of arguments gives a candidate free of them. -/
theorem argsFree_of_classifyWith (hg : a.scope.NonGeneric) {fuel : Nat} {t : TypeExpr}
    {k : FieldKind} {c : TypeExpr} (ht : t.argsFree = true) (h : a.classifyWith fuel t = .ok (k, c)) :
    c.argsFree = true := by
  have hbase := Universe.argsFree_deref hg ht
  have hunder := Universe.argsFree_underlying hg hbase
  rcases classifyWith_candidate h with rfl | ⟨e, hunder_e, rfl⟩
  · exact hbase
  · -- the element is part of the type underlying the key
    apply Universe.argsFree_deref hg
    rcases hunder_e with hslice | ⟨len, harray⟩
    · rw [hslice] at hunder
      exact hunder
    · rw [harray] at hunder
      exact hunder

/-- The fields collected from fields free of arguments have candidates free of them: the fields
of an embedded struct come from its declaration, which has none. -/
theorem argsFree_of_collectWith (hg : a.scope.NonGeneric) (owner : TypeExpr)
    (ownerName ownerId : String) :
    ∀ fuel depth fields collected, (∀ m ∈ fields, m.type.argsFree = true) →
      a.collectWith owner ownerName ownerId fuel depth fields = .ok collected →
      ∀ p ∈ collected, p.1.candidate.argsFree = true
  | 0, _, _, _, _, h => by cases h
  | fuel + 1, depth, fields, collected, hfields, h => by
    -- one field at a time: what is appended is a classified field or an embedded struct's fields
    refine foldlM_invariant (fun acc => ∀ p ∈ acc, p.1.candidate.argsFree = true) fields ?_
      [] collected (by simp) h
    intro acc f acc' hacc hf hstep
    dsimp only at hstep
    split at hstep
    · rename_i inner hinner
      have hinner_free : ∀ m ∈ inner, m.type.argsFree = true := by
        split at hinner
        · exact Universe.argsFree_of_structFields? hg
            (.inl (Universe.argsFree_deref hg (hfields f hf))) hinner
        · cases hinner
      cases hmore : a.collectWith owner ownerName ownerId fuel (depth + 1) inner with
      | error e => simp [hmore, bind, Except.bind] at hstep
      | ok more =>
        simp only [hmore, bind, Except.bind, pure, Except.pure, Except.ok.injEq] at hstep
        subst hstep
        intro p hp
        rcases List.mem_append.mp hp with hp | hp
        · exact hacc p hp
        · exact argsFree_of_collectWith hg owner ownerName ownerId fuel (depth + 1) inner more
            hinner_free hmore p hp
    · split at hstep
      · cases hstep
        exact hacc
      · split at hstep
        · cases hstep
          exact hacc
        · split at hstep
          · cases hstep
          · rename_i kind candidate hclass
            cases hstep
            intro p hp
            rcases List.mem_append.mp hp with hp | hp
            · exact hacc p hp
            · rw [List.mem_singleton] at hp
              subst hp
              exact argsFree_of_classifyWith hg (hfields f hf) hclass

/-- Every candidate of a shape the analyzer reports is free of type arguments. -/
theorem argsFree_of_inspect (hg : a.scope.NonGeneric) {key : TypeExpr} {S : Shape TypeExpr}
    (h : a.inspect key = .ok (some S)) :
    ∀ c ∈ Introspector.candidates S.fields, c.argsFree = true := by
  obtain ⟨pkg, name, args, -, -, -, -, collected, hcollect, hfields⟩ := inspect_eq_some h
  -- the entity's own fields come from its declaration, whatever its arguments
  have hstruct : ∀ m ∈ (a.scope.structFields? (.named pkg name args)).getD [],
      m.type.argsFree = true := by
    cases hfs : a.scope.structFields? (.named pkg name args) with
    | none => simp
    | some fs => exact Universe.argsFree_of_structFields? hg (.inr ⟨pkg, name, args, rfl⟩) hfs
  have hcollected := argsFree_of_collectWith hg _ _ _ _ _ _ _ hstruct hcollect
  intro c hc
  obtain ⟨f, hf, rfl⟩ := List.mem_map.mp hc
  rw [hfields] at hf
  obtain ⟨depth, hmem⟩ := mem_of_mem_dropShadowed (List.mem_filter.mp hf).1
  exact hcollected _ hmem

/-- The key of a candidate free of arguments, when the analyzer reports an entity for it, is
one of the declared types: a named type with a declaration, its own key, and without
arguments. -/
theorem mem_declaredTypes_of_inspect (ho : a.scope.AliasesOrdered) (hg : a.scope.NonGeneric)
    {c : TypeExpr} {S : Shape TypeExpr} (hc : c.argsFree = true)
    (h : a.inspect (a.canonical c) = .ok (some S)) : a.canonical c ∈ a.scope.declaredTypes := by
  obtain ⟨pkg, name, args, hkey, -, -, hentity, -⟩ := inspect_eq_some h
  have hself : a.canonical (a.canonical c) = a.canonical c := a.scope.deref_deref ho c
  rw [hself] at hkey
  have hfree : (TypeExpr.named pkg name args).argsFree = true := by
    rw [← hkey]
    exact Universe.argsFree_deref hg hc
  have hnil : args = .nil := by
    cases args with
    | nil => rfl
    | cons _ _ => simp [TypeExpr.argsFree] at hfree
  subst hnil
  simp only [isEntityType, Bool.and_eq_true] at hentity
  obtain ⟨⟨hp, hsome⟩, -⟩ := hentity
  obtain ⟨fs, hfs⟩ := Option.isSome_iff_exists.mp hsome
  obtain ⟨d, hd⟩ := Universe.decl?_of_structFields?_named hfs
  rw [hkey]
  exact Universe.plain_mem_declaredTypes hd (by simpa using hp)

/-- In a universe without generic declarations whose aliases are ordered, and which declares
fewer types than a run's stack holds levels, the requests of an analyzer never run out of fuel:
every entity a request comes to below its key is one of the declared types. -/
theorem bounded_of_nonGeneric (ho : a.scope.AliasesOrdered) (hg : a.scope.NonGeneric)
    (hcount : a.scope.declCount < stackLevels) (P : Catalog TypeExpr) (key : TypeExpr) :
    a.introspector.Bounded P key := by
  refine ⟨a.canonical key :: a.scope.declaredTypes, ?_, ?_⟩
  · have hlen := a.scope.length_declaredTypes_lt
    simp only [List.length_cons, introspector]
    omega
  · intro j S hj _ hinspect
    cases hj with
    | start => exact List.mem_cons_self
    | @step j' c S' _ _ hinspect' hc =>
      exact List.mem_cons_of_mem _
        (mem_declaredTypes_of_inspect ho hg (argsFree_of_inspect hg hinspect' c hc) hinspect)

example (P : Catalog TypeExpr) (key : TypeExpr) : books.introspector.Bounded P key :=
  books.bounded_of_nonGeneric
    (Universe.aliasesOrdered_of_decls (fun _ => 0) (by decide) (by decide))
    (Universe.nonGeneric_of_decls (by decide)) (by decide) P key

end Analyzer

/-! ### The types written in declarations -/


namespace TypeExpr

mutual

/-- A type and every type written inside it, once for each place it is written. -/
def subterms : TypeExpr → List TypeExpr
  | .named p n args => .named p n args :: argsSubterms args
  | .pointer e => .pointer e :: subterms e
  | .slice e => .slice e :: subterms e
  | .array k e => .array k e :: subterms e
  | .chan e => .chan e :: subterms e
  | .map k v => .map k v :: (subterms k ++ subterms v)
  | .struct fs => .struct fs :: membersSubterms fs
  | t => [t]

def argsSubterms : TypeArgs → List TypeExpr
  | .nil => []
  | .cons t rest => subterms t ++ argsSubterms rest

def membersSubterms : Members → List TypeExpr
  | .nil => []
  | .cons _ t _ _ rest => subterms t ++ membersSubterms rest

end

theorem mem_subterms_self (t : TypeExpr) : t ∈ t.subterms := by
  cases t <;> simp [subterms]

mutual

/-- A type has one part for each of its nodes. -/
theorem length_subterms : ∀ t : TypeExpr, t.subterms.length = t.size
  | .named p n args => by simp [subterms, size, length_argsSubterms args]; omega
  | .pointer e => by simp [subterms, size, length_subterms e]; omega
  | .slice e => by simp [subterms, size, length_subterms e]; omega
  | .array k e => by simp [subterms, size, length_subterms e]; omega
  | .chan e => by simp [subterms, size, length_subterms e]; omega
  | .map k v => by simp [subterms, size, length_subterms k, length_subterms v]; omega
  | .struct fs => by simp [subterms, size, length_membersSubterms fs]; omega
  | .basic _ | .param _ | .func | .interface => rfl

theorem length_argsSubterms : ∀ args : TypeArgs, (argsSubterms args).length = argsSize args
  | .nil => rfl
  | .cons t rest => by simp [argsSubterms, argsSize, length_subterms t, length_argsSubterms rest]

theorem length_membersSubterms : ∀ fs : Members, (membersSubterms fs).length = membersSize fs
  | .nil => rfl
  | .cons _ t _ _ rest => by
    simp [membersSubterms, membersSize, length_subterms t, length_membersSubterms rest]

end

mutual

/-- A part of a type has no parts the type lacks. -/
theorem subterms_subset_of_mem : ∀ {t y : TypeExpr}, y ∈ t.subterms → y.subterms ⊆ t.subterms
  | .named p n args, y, h => by
    simp only [subterms, List.mem_cons] at h ⊢
    rcases h with rfl | h
    · exact List.Subset.refl _
    · exact List.subset_cons_of_subset _ (argsSubterms_subset_of_mem h)
  | .pointer e, y, h | .slice e, y, h | .array _ e, y, h | .chan e, y, h => by
    simp only [subterms, List.mem_cons] at h ⊢
    rcases h with rfl | h
    · exact List.Subset.refl _
    · exact List.subset_cons_of_subset _ (subterms_subset_of_mem h)
  | .map k v, y, h => by
    simp only [subterms, List.mem_cons, List.mem_append] at h ⊢
    rcases h with rfl | h | h
    · exact List.Subset.refl _
    · exact List.subset_cons_of_subset _
        (List.Subset.trans (subterms_subset_of_mem h) (List.subset_append_left _ _))
    · exact List.subset_cons_of_subset _
        (List.Subset.trans (subterms_subset_of_mem h) (List.subset_append_right _ _))
  | .struct fs, y, h => by
    simp only [subterms, List.mem_cons] at h ⊢
    rcases h with rfl | h
    · exact List.Subset.refl _
    · exact List.subset_cons_of_subset _ (membersSubterms_subset_of_mem h)
  | .basic _, y, h | .param _, y, h | .func, y, h | .interface, y, h => by
    simp only [subterms, List.mem_singleton] at h
    subst h
    exact List.Subset.refl _

theorem argsSubterms_subset_of_mem :
    ∀ {args : TypeArgs} {y : TypeExpr}, y ∈ argsSubterms args → y.subterms ⊆ argsSubterms args
  | .nil, _, h => by simp [argsSubterms] at h
  | .cons t rest, y, h => by
    simp only [argsSubterms, List.mem_append] at h ⊢
    rcases h with h | h
    · exact List.Subset.trans (subterms_subset_of_mem h) (List.subset_append_left _ _)
    · exact List.Subset.trans (argsSubterms_subset_of_mem h) (List.subset_append_right _ _)

theorem membersSubterms_subset_of_mem :
    ∀ {fs : Members} {y : TypeExpr}, y ∈ membersSubterms fs → y.subterms ⊆ membersSubterms fs
  | .nil, _, h => by simp [membersSubterms] at h
  | .cons _ t _ _ rest, y, h => by
    simp only [membersSubterms, List.mem_append] at h ⊢
    rcases h with h | h
    · exact List.Subset.trans (subterms_subset_of_mem h) (List.subset_append_left _ _)
    · exact List.Subset.trans (membersSubterms_subset_of_mem h) (List.subset_append_right _ _)

end

/-- The type of a field is a part of the fields. -/
theorem type_mem_membersSubterms : ∀ {fs : Members} {m : Member}, m ∈ fs.toList →
    m.type ∈ membersSubterms fs
  | .nil, _, h => by simp [Members.toList] at h
  | .cons n t g e rest, m, h => by
    simp only [Members.toList, List.mem_cons] at h
    rcases h with rfl | h
    · exact List.mem_append_left _ (mem_subterms_self t)
    · exact List.mem_append_right _ (type_mem_membersSubterms h)

end TypeExpr

namespace Universe

variable {u : Universe}

/-- The types written in the declarations, the predeclared ones included, and every part of
them. -/
def writtenTypes (u : Universe) : List TypeExpr :=
  (predeclared.flatMap fun d => d.type.subterms) ++
    u.packages.flatMap fun pkg => pkg.decls.flatMap fun d => d.type.subterms

/-- The parts of the declared types are fewer than the weight of the universe, which counts the
declarations besides. -/
theorem length_writtenTypes_lt : u.writtenTypes.length < u.weight := by
  -- the two predeclared types are interfaces, of size one
  simp only [writtenTypes, weight, declCount, List.length_append, List.length_flatMap,
    TypeExpr.length_subterms, List.sum_eq_foldr, predeclared, List.map_cons, List.map_nil,
    List.foldr_cons, List.foldr_nil, TypeExpr.size, List.length_cons, List.length_nil]
  omega

/-- Every part of a written type is written. -/
theorem subterms_subset_writtenTypes {y : TypeExpr} (h : y ∈ u.writtenTypes) :
    y.subterms ⊆ u.writtenTypes := by
  simp only [writtenTypes, List.mem_append, List.mem_flatMap] at h
  rcases h with ⟨d, hd, hy⟩ | ⟨pkg, hpkg, d, hd, hy⟩
  · intro z hz
    exact List.mem_append_left _
      (List.mem_flatMap.mpr ⟨d, hd, TypeExpr.subterms_subset_of_mem hy hz⟩)
  · intro z hz
    exact List.mem_append_right _ (List.mem_flatMap.mpr
      ⟨pkg, hpkg, List.mem_flatMap.mpr ⟨d, hd, TypeExpr.subterms_subset_of_mem hy hz⟩⟩)

/-- The type a declaration declares is written. -/
theorem type_mem_writtenTypes {p n : String} {d : TypeDecl} (hd : u.decl? p n = some d) :
    d.type ∈ u.writtenTypes := by
  rcases (decl?_eq_some_cases hd).2 with ⟨-, hpd⟩ | ⟨pkg, hpkg, -, hpd⟩
  · exact List.mem_append_left _ (List.mem_flatMap.mpr ⟨d, hpd, TypeExpr.mem_subterms_self _⟩)
  · exact List.mem_append_right _ (List.mem_flatMap.mpr
      ⟨pkg, hpkg, List.mem_flatMap.mpr ⟨d, hpd, TypeExpr.mem_subterms_self _⟩⟩)

/-- Unfolding a named type gives a written type, whatever the arguments of the named type. -/
theorem mem_writtenTypes_of_expand? (hg : u.NonGeneric) {p n : String} {args : TypeArgs}
    {d : TypeDecl} {body : TypeExpr} (h : u.expand? p n args = some (d, body)) :
    body ∈ u.writtenTypes := by
  obtain ⟨hd, rfl⟩ := expand?_eq_some_of_nonGeneric hg h
  exact type_mem_writtenTypes hd

/-- The underlying type of a written type is written. -/
theorem underlying_mem_writtenTypes (hg : u.NonGeneric) {t : TypeExpr}
    (ht : t ∈ u.writtenTypes) : u.underlying t ∈ u.writtenTypes :=
  underlyingWith_of_bodies (mem_writtenTypes_of_expand? hg) _ ht

/-- The fields of a written struct type, or of a named struct type, have written types. -/
theorem mem_writtenTypes_of_structFields? (hg : u.NonGeneric) {t : TypeExpr} {fs : List Member}
    (ht : t ∈ u.writtenTypes ∨ ∃ p n args, t = .named p n args)
    (h : u.structFields? t = some fs) : ∀ m ∈ fs, m.type ∈ u.writtenTypes := by
  obtain ⟨members, hstruct, rfl⟩ := structFields?_of_bodies (mem_writtenTypes_of_expand? hg) ht h
  intro m hm
  exact subterms_subset_writtenTypes hstruct
    (List.mem_cons_of_mem _ (TypeExpr.type_mem_membersSubterms hm))

/-- The element of a written type is written. -/
theorem mem_writtenTypes_of_elem? (hg : u.NonGeneric) {t e : TypeExpr}
    (ht : t ∈ u.writtenTypes) (h : u.elem? t = some e) : e ∈ u.writtenTypes := by
  have hunder := underlying_mem_writtenTypes hg ht
  unfold elem? at h
  have hpart : e ∈ (u.underlying t).subterms := by
    cases hu : u.underlying t <;> simp only [hu, Option.some.injEq, reduceCtorEq] at h <;>
      subst h <;> simp [TypeExpr.subterms, TypeExpr.mem_subterms_self]
  exact subterms_subset_writtenTypes hunder hpart

/-- Every field the walk over a struct finds has a written type, when the struct is a named type
or a written one. The induction is on the walk's depth; an embedded struct is entered through its
pointer, whose element is written too. -/
theorem walkFields_mem_writtenTypes (hg : u.NonGeneric) : ∀ (fuel : Nat) (t : TypeExpr)
    (pre : List Nat) (visiting : List TypeExpr) (w : FieldWalk),
    (t ∈ u.writtenTypes ∨ ∃ p n args, t = .named p n args) →
    (∀ g ∈ w.fields.toList, g.type ∈ u.writtenTypes) →
    ∀ g ∈ (u.walkFields fuel t pre visiting w).fields.toList, g.type ∈ u.writtenTypes := by
  intro fuel
  induction fuel with
  | zero =>
    intro t pre visiting w _ hw
    simpa [walkFields] using hw
  | succ fuel ih =>
    intro t pre visiting w ht hw
    simp only [walkFields]
    split
    · exact hw
    have hfields : ∀ m ∈ (u.structFields? t).getD [], m.type ∈ u.writtenTypes := by
      cases hfs : u.structFields? t with
      | none => simp
      | some fs => exact mem_writtenTypes_of_structFields? hg ht hfs
    refine List.foldlRecOn (motive := fun w : FieldWalk =>
      ∀ g ∈ w.fields.toList, g.type ∈ u.writtenTypes) _ _ hw ?_
    rintro w' hw' ⟨f, i⟩ hp
    have hf : f.type ∈ u.writtenTypes :=
      hfields f (List.mem_of_getElem? (List.mk_mem_zipIdx_iff_getElem?.mp hp))
    have hmet : ∀ g ∈ (w'.meet ⟨f.name, f.type, f.tag, f.embedded, pre ++ [i]⟩).fields.toList,
        g.type ∈ u.writtenTypes := by
      intro g hg
      rcases FieldWalk.mem_meet hg with rfl | ⟨g0, hg0, _, rfl⟩
      · exact hf
      · exact hw' g0 hg0
    have hinner : (if u.kindOf f.type == .pointer then (u.elem? f.type).getD f.type
        else f.type) ∈ u.writtenTypes := by
      split
      · cases he : u.elem? f.type with
        | none => exact hf
        | some e => exact mem_writtenTypes_of_elem? hg hf he
      · exact hf
    dsimp only
    generalize (if u.kindOf f.type == .pointer then (u.elem? f.type).getD f.type
      else f.type) = inner at hinner ⊢
    split
    · split
      · exact ih _ _ _ _ (.inl hinner) hmet
      · exact hmet
    · exact hmet

/-- The visible fields of a named or written struct type have written types. -/
theorem visibleFields_mem_writtenTypes (hg : u.NonGeneric) {t : TypeExpr}
    (ht : t ∈ u.writtenTypes ∨ ∃ p n args, t = .named p n args) :
    ∀ vf ∈ u.visibleFields t, vf.type ∈ u.writtenTypes := by
  intro vf hvf
  exact walkFields_mem_writtenTypes hg _ t [] [] {} ht (by simp) vf (List.mem_filter.mp hvf).1

end Universe

/-! ### Reflectors -/

namespace Reflector

variable {r : Reflector}

/-- A type that has a name once its aliases are unfolded is a named type: unfolding leaves any
other type as it is. -/
theorem named_of_isNamed {t : TypeExpr} (h : r.isNamed t = true) :
    ∃ p n args, t = .named p n args := by
  unfold isNamed Universe.unalias at h
  generalize r.scope.unfoldLimit t = fuel at h
  cases t <;> cases fuel <;> simp [Universe.unaliasWith] at h ⊢

/-- The candidate a classification gives is the key of the type, or the key of its element. -/
theorem classifyWith_candidate {fuel : Nat} {t : TypeExpr} {k : FieldKind} {c : TypeExpr}
    (h : r.classifyWith fuel t = .ok (k, c)) :
    c = r.base t ∨ c = r.base ((r.scope.elem? (r.base t)).getD .interface) := by
  cases fuel with
  | zero => cases h
  | succ fuel =>
    simp only [classifyWith] at h
    split at h
    · split at h
      · cases h
        exact .inl rfl
      · cases h
    · cases h
      exact .inl rfl
    · split at h
      · cases h
        exact .inl rfl
      · cases hc : r.classifyWith fuel ((r.scope.elem? (r.base t)).getD .interface) with
        | error err => simp [hc, bind, Except.bind] at h
        | ok res =>
          simp only [hc, bind, Except.bind, pure, Except.pure, Except.ok.injEq, Prod.mk.injEq] at h
          exact .inr h.2.symm
    · cases hc : r.classifyWith fuel ((r.scope.elem? (r.base t)).getD .interface) with
      | error err => simp [hc, bind, Except.bind] at h
      | ok res =>
        simp only [hc, bind, Except.bind, pure, Except.pure, Except.ok.injEq, Prod.mk.injEq] at h
        exact .inr h.2.symm
    · split at h
      · cases h
      · split at h
        · cases h
          exact .inl rfl
        · cases h
          exact .inl rfl
    · cases h

/-- The candidates of a shape a reflector reports are the keys the entity's visible fields
classify to. -/
theorem candidates_of_inspect {key : Option TypeExpr} {S : Shape (Option TypeExpr)}
    (h : r.inspect key = .ok (some S)) :
    ∃ k, key = some k ∧ r.isEntityType (r.base k) = true ∧
      ∀ c ∈ Introspector.candidates S.fields, ∃ sf ∈ r.scope.visibleFields (r.base k),
        ∃ kind cand, r.classify sf.type = .ok (kind, cand) ∧ c = some cand := by
  cases key with
  | none => cases h
  | some k =>
    simp only [inspect] at h
    split at h
    · cases h
    · rename_i hentity
      simp only [bind, Except.bind] at h
      split at h
      · cases h
      · rename_i fields hfold
        simp only [pure, Except.pure, Except.ok.injEq, Option.some.injEq] at h
        subst h
        refine ⟨k, rfl, by simpa using hentity, ?_⟩
        -- one visible field at a time: what is appended is a field with its classification
        have hinv := foldlM_invariant (fun acc : List (FieldSpec (Option TypeExpr)) =>
            ∀ f ∈ acc, ∃ sf ∈ r.scope.visibleFields (r.base k),
              ∃ kind cand, r.classify sf.type = .ok (kind, cand) ∧ f.candidate = some cand)
          _ ?_ [] fields (by simp) hfold
        · intro c hc
          obtain ⟨f, hf, rfl⟩ := List.mem_map.mp hc
          exact hinv f (List.mem_filter.mp hf).1
        · intro acc sf acc' hacc hsf hstep
          split at hstep
          · cases hstep
            exact hacc
          split at hstep
          · cases hstep
            exact hacc
          split at hstep
          · cases hstep
            exact hacc
          split at hstep
          · cases hstep
          · rename_i kind cand hclass
            cases hstep
            intro f hf
            rcases List.mem_append.mp hf with hf | hf
            · exact hacc f hf
            · rw [List.mem_singleton] at hf
              subst hf
              exact ⟨sf, hsf, kind, cand, hclass, rfl⟩

variable (r) in
/-- The keys a reflector's request can come to below its start: for each written type, the key
of its key and the key of the key of its element. -/
def keysBelow : List (Option TypeExpr) :=
  r.scope.writtenTypes.flatMap fun s =>
    [some (r.base (r.base s)), some (r.base (r.base ((r.scope.elem? (r.base s)).getD .interface)))]

theorem length_keysBelow : r.keysBelow.length = 2 * r.scope.writtenTypes.length := by
  simp only [keysBelow, List.length_flatMap, List.length_cons, List.length_nil]
  simp [Nat.mul_comm]

/-- The key a written type classifies to is one of the keys below. -/
theorem canonical_mem_keysBelow {s c : TypeExpr} {kind : FieldKind}
    (hs : s ∈ r.scope.writtenTypes) (h : r.classify s = .ok (kind, c)) :
    r.canonical (some c) ∈ r.keysBelow := by
  refine List.mem_flatMap.mpr ⟨s, hs, ?_⟩
  rcases classifyWith_candidate h with rfl | rfl
  · exact List.mem_cons_self
  · exact List.mem_cons_of_mem _ List.mem_cons_self

/-- In a universe without generic declarations whose weight is less than half the levels a
run's stack holds, the requests of a reflector never run out of fuel: every key a request comes
to below its start is the key of a type written in a declaration, or of its element. -/
theorem bounded_of_nonGeneric (hg : r.scope.NonGeneric)
    (hweight : 2 * r.scope.weight < stackLevels) (P : Catalog (Option TypeExpr))
    (key : Option TypeExpr) : r.introspector.Bounded P key := by
  refine ⟨r.canonical key :: r.keysBelow, ?_, ?_⟩
  · have hlen := r.scope.length_writtenTypes_lt
    simp only [List.length_cons, length_keysBelow, introspector]
    omega
  · intro j S hj _ _
    cases hj with
    | start => exact List.mem_cons_self
    | @step j' c S' _ _ hinspect' hc =>
      obtain ⟨k, rfl, hentity, hcands⟩ := candidates_of_inspect hinspect'
      obtain ⟨sf, hsf, kind, cand, hclass, rfl⟩ := hcands c hc
      -- the entity is a named type, so its visible fields have written types
      have hnamed : r.isNamed (r.base k) = true := by
        simp only [isEntityType, Bool.and_eq_true] at hentity
        exact hentity.1.2
      have hs := Universe.visibleFields_mem_writtenTypes hg (.inr (named_of_isNamed hnamed)) sf hsf
      exact List.mem_cons_of_mem _ (canonical_mem_keysBelow hs hclass)

example (P : Catalog (Option TypeExpr)) (key : Option TypeExpr) :
    ({ scope := Analyzer.books.scope } : Reflector).introspector.Bounded P key :=
  bounded_of_nonGeneric (Universe.nonGeneric_of_decls (by decide)) (by decide) P key

end Reflector

end EntityQuery
