import Mathlib.Data.String.Basic
import Mathlib.Data.List.Nodup
import Mathlib.Algebra.BigOperators.Group.List.Basic
import EntityQuery.Declared.Lookup
import EntityQuery.Samples.Build

/-!
# Listing declared types and finding them by name

`types` lists the exported struct types of the registered packages that are not aliases
(`mem_types`), each once and in strictly increasing order of qualified name (`types_sorted`),
and the list does not depend on the order the packages were registered in (`types_perm`).
These need what type checking guarantees of the packages (`Universe.Checked`): packages with
distinct import paths, distinct declaration names within a package, and names that are
identifiers.

A listed type is not always found again by its qualified name. `lookup` matches the package
part against every registered package's path, name and final parts of its path, and refuses a
part that more than one package answers to. So when another package is named like the listed
type's path, or has a path ending in `/` and that path, the lookup fails with "is ambiguous",
and otherwise it returns the type (`lookup_render_of_mem_types`). `sharedStore` is such a pair:
packages at `store` and `acme/store`.
-/

set_option autoImplicit false

namespace EntityQuery

/-- Searching a list whose keys are distinct for the key of one of its members finds that
member. -/
theorem find?_key_eq_some {α : Type} {f : α → String} {l : List α} (hkeys : (l.map f).Nodup)
    {x : α} (hx : x ∈ l) : l.find? (fun y => f y == f x) = some x := by
  obtain ⟨y, hy⟩ := Option.isSome_iff_exists.mp
    (List.find?_isSome.mpr ⟨x, hx, by simp⟩ : (l.find? (fun y => f y == f x)).isSome)
  have hyx : y = x := List.inj_on_of_nodup_map hkeys (List.mem_of_find?_eq_some hy) hx
    (by simpa using List.find?_some hy)
  rw [hy, hyx]

theorem Package.decl?_eq_some {p : Package} (hnames : (p.decls.map (·.name)).Nodup)
    {d : TypeDecl} (hd : d ∈ p.decls) : p.decl? d.name = some d :=
  find?_key_eq_some hnames hd

namespace Universe

/-- What type checking guarantees of a set of packages: import paths that are distinct and not
empty, and in each package declarations of distinct names, each an identifier (no dot). -/
structure Checked (u : Universe) : Prop where
  paths_nodup : (u.packages.map (·.path)).Nodup
  path_ne_empty : ∀ p ∈ u.packages, p.path ≠ ""
  names_nodup : ∀ p ∈ u.packages, (p.decls.map (·.name)).Nodup
  no_dot : ∀ p ∈ u.packages, ∀ d ∈ p.decls, '.' ∉ d.name.toList

variable {u : Universe}

theorem package?_eq_some_iff (hu : u.Checked) {path : String} {p : Package} :
    u.package? path = some p ↔ p ∈ u.packages ∧ p.path = path := by
  constructor
  · intro h
    exact ⟨List.mem_of_find?_eq_some h, by simpa using List.find?_some h⟩
  · rintro ⟨hp, rfl⟩
    exact find?_key_eq_some hu.paths_nodup hp

theorem decl?_eq_some (hu : u.Checked) {p : Package} (hp : p ∈ u.packages) {d : TypeDecl}
    (hd : d ∈ p.decls) : u.decl? p.path d.name = some d := by
  have hpath : (p.path == "") = false := by simpa using hu.path_ne_empty p hp
  simp [decl?, hpath, (package?_eq_some_iff hu).mpr ⟨hp, rfl⟩,
    Package.decl?_eq_some (hu.names_nodup p hp) hd]

/-- A declared type that is not an alias is its own key. -/
theorem deref_plain (hu : u.Checked) {p : Package} (hp : p ∈ u.packages) {d : TypeDecl}
    (hd : d ∈ p.decls) (halias : d.isAlias = false) :
    u.deref (.plain p.path d.name) = .plain p.path d.name := by
  have hstep : u.stripStep? (.plain p.path d.name) = none := by
    simp [stripStep?, TypeExpr.plain, expand?, decl?_eq_some hu hp hd, halias]
  obtain ⟨k, hk⟩ : ∃ k, u.unfoldLimit (.plain p.path d.name) = k + 1 :=
    Nat.exists_eq_add_one.mpr (u.unfoldLimit_pos _)
  rw [deref, hk, derefWith, hstep]

/-! ### Registration order -/

theorem Checked.perm {u' : Universe} (hu : u.Checked) (h : u'.packages.Perm u.packages) :
    u'.Checked where
  paths_nodup := (h.map _).nodup_iff.mpr hu.paths_nodup
  path_ne_empty p hp := hu.path_ne_empty p (h.mem_iff.mp hp)
  names_nodup p hp := hu.names_nodup p (h.mem_iff.mp hp)
  no_dot p hp := hu.no_dot p (h.mem_iff.mp hp)

theorem package?_perm {u' : Universe} (hu : u.Checked) (h : u'.packages.Perm u.packages) :
    u'.package? = u.package? := by
  funext path
  refine Option.ext fun p => ?_
  rw [package?_eq_some_iff (hu.perm h), package?_eq_some_iff hu, h.mem_iff]

theorem weight_perm {u' : Universe} (h : u'.packages.Perm u.packages) : u'.weight = u.weight := by
  simp only [weight, declCount, ← List.sum_eq_foldr, (h.map _).sum_eq]

theorem declCount_perm {u' : Universe} (h : u'.packages.Perm u.packages) :
    u'.declCount = u.declCount := by
  simp only [declCount, ← List.sum_eq_foldr, (h.map _).sum_eq]

theorem unfoldLimit_perm {u' : Universe} (h : u'.packages.Perm u.packages) :
    u'.unfoldLimit = u.unfoldLimit := by
  funext t
  rw [unfoldLimit, unfoldLimit, weight_perm h, declCount_perm h]

theorem underlyingWith_congr {u' : Universe} (h : u'.decl? = u.decl?) (fuel : Nat)
    (t : TypeExpr) : u'.underlyingWith fuel t = u.underlyingWith fuel t := by
  induction fuel generalizing t with
  | zero => rfl
  | succ fuel ih => cases t <;> simp [underlyingWith, expand?, h, ih]

/-- Universes with the same packages in another order see the same structs. -/
theorem structFields?_perm {u' : Universe} (hu : u.Checked) (h : u'.packages.Perm u.packages) :
    u'.structFields? = u.structFields? := by
  have hdecl : u'.decl? = u.decl? := by
    funext pkg name
    simp [decl?, package?_perm hu h]
  funext t
  simp [structFields?, underlying, unfoldLimit_perm h, underlyingWith_congr hdecl]

end Universe

namespace Analyzer

variable (a : Analyzer)

/-- A registered package declares an exported struct type of this name, not an alias. -/
def Declares (id : TypeId) : Prop :=
  ∃ p ∈ a.scope.registered, ∃ d ∈ p.decls, id = ⟨p.path, d.name⟩ ∧
    isExported d.name = true ∧ d.isAlias = false ∧
    (a.scope.structFields? (.plain p.path d.name)).isSome = true

/-- Another registered package answers to a package part too: by its name, or by a final part
of its path. -/
def sharesPart (part : String) : Bool :=
  a.scope.registered.any fun q =>
    q.path != part && (q.name == part || q.path.endsWith ("/" ++ part))

variable {a}

/-! ### What is listed -/

theorem mem_types {id : TypeId} : id ∈ a.types ↔ a.Declares id := by
  unfold types Declares
  rw [(List.mergeSort_perm _ _).mem_iff]
  simp only [List.mem_flatMap, List.mem_map, List.mem_filter, Bool.and_eq_true,
    Bool.not_eq_true']
  constructor
  · rintro ⟨p, hp, d, ⟨hd, ⟨hexp, halias⟩, hstruct⟩, rfl⟩
    exact ⟨p, hp, d, hd, rfl, hexp, halias, hstruct⟩
  · rintro ⟨p, hp, d, hd, rfl, hexp, halias, hstruct⟩
    exact ⟨p, hp, d, ⟨hd, ⟨hexp, halias⟩, hstruct⟩, rfl⟩

theorem mem_packages_of_mem_registered {p : Package} (hp : p ∈ a.scope.registered) :
    p ∈ a.scope.packages :=
  List.mem_of_mem_filter hp

/-- A listed type has a path and a name, and no dot in its name. -/
theorem Declares.wellFormed (hu : a.scope.Checked) {id : TypeId} (h : a.Declares id) :
    id.pkgPath ≠ "" ∧ id.name ≠ "" ∧ '.' ∉ id.name.toList := by
  obtain ⟨p, hp, d, hd, rfl, hexp, -, -⟩ := h
  have hpk := mem_packages_of_mem_registered hp
  refine ⟨hu.path_ne_empty p hpk, ?_, hu.no_dot p hpk d hd⟩
  -- an exported name starts with an upper-case letter
  intro hempty
  simp [isExported, show d.name = "" from hempty] at hexp

theorem registered_paths_nodup (hu : a.scope.Checked) :
    (a.scope.registered.map (·.path)).Nodup :=
  hu.paths_nodup.sublist (List.filter_sublist.map _)

theorem registered_nodup (hu : a.scope.Checked) : a.scope.registered.Nodup :=
  (registered_paths_nodup hu).of_map _

theorem types_nodup (hu : a.scope.Checked) : a.types.Nodup := by
  unfold types
  rw [(List.mergeSort_perm _ _).nodup_iff, List.nodup_flatMap]
  constructor
  · -- within a package, declarations have distinct names
    intro p hp
    have hnames := hu.names_nodup p (mem_packages_of_mem_registered hp)
    refine ((hnames.of_map _).filter _).map_on ?_
    intro d hd e he hde
    exact List.inj_on_of_nodup_map hnames (List.mem_of_mem_filter hd) (List.mem_of_mem_filter he)
      (TypeId.mk.inj hde).2
  · -- packages have distinct paths
    refine (List.pairwise_map.mp (registered_paths_nodup hu)).imp ?_
    intro p q hpq id hidp hidq
    simp only [List.mem_map] at hidp hidq
    obtain ⟨d, -, rfl⟩ := hidp
    obtain ⟨e, -, he⟩ := hidq
    exact hpq (TypeId.mk.inj he).1.symm

/-- The listed types are in strictly increasing order of their qualified names: sorted, and
no two with one name. -/
theorem types_sorted (hu : a.scope.Checked) :
    a.types.Pairwise fun x y => x.render < y.render := by
  have hle : a.types.Pairwise fun x y => decide (x.render ≤ y.render) = true :=
    List.pairwise_mergeSort
      (fun _ _ _ hxy hyz => by
        simpa using String.le_trans (by simpa using hxy) (by simpa using hyz))
      (fun x y => by simpa using le_total x.render y.render) _
  refine (hle.and (types_nodup hu)).imp_of_mem ?_
  rintro x y hx hy ⟨hxy, hne⟩
  refine lt_of_le_of_ne (by simpa using hxy) fun hrender => hne ?_
  exact TypeId.render_injective ((mem_types.mp hx).wellFormed hu) ((mem_types.mp hy).wellFormed hu)
    hrender

/-- The listed types do not depend on the order the packages were registered in. -/
theorem types_perm (hu : a.scope.Checked) {ps : List Package} (hps : ps.Perm a.scope.packages) :
    ({ a with scope := ⟨ps⟩ } : Analyzer).types = a.types := by
  set a' : Analyzer := { a with scope := ⟨ps⟩ }
  have hu' : a'.scope.Checked := hu.perm hps
  have hregistered : a'.scope.registered.Perm a.scope.registered := hps.filter _
  have hfields : a'.scope.structFields? = a.scope.structFields? :=
    Universe.structFields?_perm hu hps
  have hmem : ∀ id, id ∈ a'.types ↔ id ∈ a.types := by
    intro id
    simp only [mem_types, Declares, hfields, hregistered.mem_iff]
  -- two strictly sorted lists with the same members are equal
  refine List.Perm.eq_of_pairwise (fun x y _ _ hxy hyx => absurd hyx (lt_asymm hxy))
    (types_sorted hu') (types_sorted hu) ?_
  exact (List.perm_ext_iff_of_nodup (types_nodup hu') (types_nodup hu)).mpr hmem

/-! ### Finding a listed type -/

/-- When no other registered package answers to a package's path, that package is the only
one matching it. -/
theorem matchingPackages_eq_singleton (hu : a.scope.Checked) {p : Package}
    (hp : p ∈ a.scope.registered) (hshare : a.sharesPart p.path = false) :
    a.matchingPackages p.path = [p] := by
  have hall : ∀ q ∈ a.matchingPackages p.path, q = p := by
    intro q hq
    obtain ⟨hq, hmatch⟩ := List.mem_filter.mp hq
    by_cases hpath : q.path = p.path
    · exact List.inj_on_of_nodup_map (registered_paths_nodup hu) hq hp hpath
    · have hnot := List.any_eq_false.mp hshare q hq
      simp_all
  have hmem : p ∈ a.matchingPackages p.path := List.mem_filter.mpr ⟨hp, by simp⟩
  have hnodup : (a.matchingPackages p.path).Nodup := (registered_nodup hu).filter _
  match hm : a.matchingPackages p.path, hmem, hnodup with
  | [], hmem, _ => simp at hmem
  | [x], hmem, _ => simp_all
  | x :: y :: rest, _, hnodup =>
    have hx := hall x (by simp [hm])
    have hy := hall y (by simp [hm])
    simp_all

/-- When another registered package answers to a package's path too, at least two packages
match it. -/
theorem two_matchingPackages {p : Package} (hp : p ∈ a.scope.registered)
    (hshare : a.sharesPart p.path = true) :
    ∃ x y rest, a.matchingPackages p.path = x :: y :: rest := by
  obtain ⟨q, hq, hqp⟩ := List.any_eq_true.mp hshare
  simp only [Bool.and_eq_true, bne_iff_ne, ne_eq] at hqp
  have hpm : p ∈ a.matchingPackages p.path := List.mem_filter.mpr ⟨hp, by simp⟩
  have hqm : q ∈ a.matchingPackages p.path := by
    have hanswers : q.name = p.path ∨ q.path.endsWith ("/" ++ p.path) = true := by
      simpa using hqp.2
    refine List.mem_filter.mpr ⟨hq, ?_⟩
    rcases hanswers with h | h <;> simp [h]
  have hqne : q ≠ p := by
    rintro rfl
    exact hqp.1 rfl
  match hm : a.matchingPackages p.path, hpm, hqm with
  | [], hpm, _ => simp at hpm
  | [x], hpm, hqm => simp_all
  | x :: y :: rest, _, _ => exact ⟨x, y, rest, rfl⟩

/-- A listed type is found by its qualified name unless another registered package answers to
its package's path, by name or by a final part of its path. -/
theorem lookup_render_of_mem_types (hu : a.scope.Checked) {id : TypeId} (hid : id ∈ a.types) :
    a.lookup id.render =
      if a.sharesPart id.pkgPath then .error ("package " ++ id.pkgPath ++ " is ambiguous")
      else .ok (.plain id.pkgPath id.name) := by
  have hwf := (mem_types.mp hid).wellFormed hu
  obtain ⟨p, hp, d, hd, rfl, -, halias, -⟩ := mem_types.mp hid
  have hpk := mem_packages_of_mem_registered hp
  unfold lookup
  rw [TypeId.parse_render hwf.1 hwf.2.1 hwf.2.2]
  dsimp only
  cases hshare : a.sharesPart p.path with
  | true =>
    obtain ⟨x, y, rest, hm⟩ := two_matchingPackages hp hshare
    simp [hm]
  | false =>
    simp [matchingPackages_eq_singleton hu hp hshare,
      Package.decl?_eq_some (hu.names_nodup p hpk) hd, canonical,
      Universe.deref_plain hu hpk hd halias]

/-- The listed types are the exported struct types of the registered packages, each once, in
increasing order of qualified name whatever order the packages were registered in; each is
found again by its qualified name exactly when no other registered package answers to its
package's path. -/
theorem listed_types_found_unless_shared (a : Analyzer) (hu : a.scope.Checked) :
    (∀ id, id ∈ a.types ↔ a.Declares id) ∧
    a.types.Pairwise (fun x y => x.render < y.render) ∧
    (∀ ps : List Package, ps.Perm a.scope.packages →
      ({ a with scope := ⟨ps⟩ } : Analyzer).types = a.types) ∧
    ∀ id ∈ a.types, a.lookup id.render =
      if a.sharesPart id.pkgPath then .error ("package " ++ id.pkgPath ++ " is ambiguous")
      else .ok (.plain id.pkgPath id.name) :=
  ⟨fun _ => mem_types, types_sorted hu, fun _ hps => types_perm hu hps,
    fun _ hid => lookup_render_of_mem_types hu hid⟩

/-- Packages at `store` and `acme/store`, one struct type each. -/
def sharedStore : Analyzer :=
  { scope := ⟨[{ path := "store", name := "store", decls := [Samples.withId "A" [] []] },
      { path := "acme/store", name := "store", decls := [Samples.withId "B" [] []] }]⟩ }

theorem listed_types_found_unless_shared_store :
    sharedStore.scope.Checked ∧
      sharedStore.lookup "store.A" = .error "package store is ambiguous" := by
  have hu : sharedStore.scope.Checked :=
    ⟨by decide +kernel, by decide +kernel, by decide +kernel, by decide +kernel⟩
  have hlisted := listed_types_found_unless_shared sharedStore hu
  have hA : (⟨"store", "A"⟩ : TypeId) ∈ sharedStore.types :=
    (hlisted.1 _).mpr ⟨_, List.mem_cons_self .., _, List.mem_cons_self .., rfl,
      by decide +kernel, rfl, by decide +kernel⟩
  have hshared : sharedStore.sharesPart "store" = true := by decide +kernel
  refine ⟨hu, ?_⟩
  rw [show "store.A" = TypeId.render ⟨"store", "A"⟩ by decide +kernel, hlisted.2.2.2 _ hA]
  simp [hshared]

end Analyzer

end EntityQuery
