import EntityQuery.Declared.Inspect
import EntityQuery.Proofs.Registry

/-!
# Entity names declared by a method

An entity read from declarations takes the name its `EntityName` method returns when that
method is a constant one (`Analyzer.DeclaresName`): selected on a pointer to the type, so
promoted methods count and an ambiguous selector selects nothing; declared in a registered
package on a type that is not an instance of a generic type; its body a single `return` of one
string constant (a literal, literals joined by `+`, or a package constant); and that constant
not empty. Every other entity is named by its type name, without package or type arguments.
Every descriptor a registry publishes follows that rule, whatever requests it answered
(`published_names_follow_declared_constants`).

A method reached through an instance of a generic type is never a constant one, even when its
generic declaration returns a constant: names are recorded for methods as declared, and the
methods of an instance (`Box[string]`, or an embedded `Base[T]`) are copies of those. So a
field of type `Box[string]` relates to an entity named `Box` while the generic `Box` is named by
its constant (`published_names_follow_declared_constants_box`).
-/

set_option autoImplicit false

namespace EntityQuery

namespace Universe

/-- A method found by name is the method the selection selects. -/
theorem select_of_method? {u : Universe} {t owner : TypeExpr} {name : String} {m : Method}
    {path : List Nat} (h : u.method? t name = some (owner, m, path)) :
    u.select t name = .method owner m path := by
  unfold method? at h
  split at h
  · cases h
    assumption
  · cases h

end Universe

namespace Analyzer

variable (a : Analyzer)

/-- The `EntityName` method selected on a pointer to `t` returns the non-empty constant `v`: it
is declared on a type of a registered package that is no instance of a generic type, and its
body is a single `return` of one string constant. -/
def DeclaresName (t : TypeExpr) (v : String) : Prop :=
  ∃ pkg owner m path e,
    a.scope.select (.pointer t) "EntityName" = .method (.named pkg owner .nil) m path ∧
    a.isRegistered pkg = true ∧ m.body = .returns [e] ∧ e.stringConstant? = some v ∧ v ≠ ""

variable {a}

theorem entityName_of_declaresName {t : TypeExpr} {v : String} (h : a.DeclaresName t v) :
    a.entityName t = v := by
  obtain ⟨pkg, owner, m, path, e, hsel, hreg, hbody, hv, -⟩ := h
  simp [entityName, hsel, hreg, Method.constantResult?, hbody, hv]

/-- Without a constant `EntityName` method a type declares no entity name. -/
theorem entityName_eq_empty {t : TypeExpr} (h : ∀ v, ¬ a.DeclaresName t v) :
    a.entityName t = "" := by
  unfold entityName
  split
  · rename_i pkg owner m path hsel
    by_cases hreg : a.isRegistered pkg = true
    · -- only a single return of a constant can name the entity, and then only an empty one
      rw [if_pos hreg]
      unfold Method.constantResult?
      split
      · rename_i e hbody
        cases hv : e.stringConstant? with
        | none => rfl
        | some v =>
          by_contra hne
          exact h v ⟨pkg, owner, m, path, e, hsel, hreg, hbody, hv, hne⟩
      · rfl
    · rw [if_neg hreg]
  · rfl

/-- The shape an analyzer reports is named after the type its key stands for, an entity type,
with the entity name that type declares, and its fields are those collected from the type's
struct with the shadowed ones dropped. -/
theorem inspect_eq_some {key : TypeExpr} {S : Shape TypeExpr}
    (h : a.inspect key = .ok (some S)) :
    ∃ pkg name args, a.canonical key = .named pkg name args ∧ S.typeName = name ∧
      S.entityName = a.entityName (.named pkg name args) ∧
      a.isEntityType (.named pkg name args) = true ∧
      ∃ collected, a.collectWith (.named pkg name args) name (a.scope.typeIdOf pkg name args).render
          stackLevels 0 ((a.scope.structFields? (.named pkg name args)).getD []) = .ok collected ∧
        S.fields = dropShadowed collected := by
  unfold inspect at h
  dsimp only at h
  split at h
  · rename_i pkg name args hkey
    rw [hkey] at h
    by_cases hentity : a.isEntityType (.named pkg name args) = true
    · rw [if_neg (by simp [hentity])] at h
      cases hc : a.collectWith (.named pkg name args) name
          (a.scope.typeIdOf pkg name args).render stackLevels 0
          ((a.scope.structFields? (.named pkg name args)).getD []) with
      | error e => simp [hc, Functor.map, Except.map] at h
      | ok collected =>
        simp only [hc] at h
        cases h
        exact ⟨pkg, name, args, hkey, rfl, rfl, hentity, collected, hc, rfl⟩
    · rw [if_pos (by simpa using hentity)] at h
      cases h
  · cases h

end Analyzer

/-- Whatever requests a registry over declarations has answered, each descriptor it publishes
is named by the non-empty constant that the `EntityName` method of its type returns, when that
method is a constant one, and by the type's name otherwise; its type name is the type's name. -/
theorem published_names_follow_declared_constants (a : Analyzer) (keys : List TypeExpr) :
    let c := (({ introspector := a.introspector } : Registry TypeExpr).getAll keys).catalog
    ∀ t d, c.find? t = some (some d) →
      ∃ pkg name args, a.canonical t = .named pkg name args ∧ d.typeName = name ∧
        (∀ v, a.DeclaresName (.named pkg name args) v → d.name = v) ∧
        ((∀ v, ¬ a.DeclaresName (.named pkg name args) v) → d.name = name) := by
  intro c t d hd
  have hbuilt : c.Built a.introspector := by
    simpa using Registry.getAll_built keys { introspector := a.introspector }
      (Catalog.built_empty _)
  obtain ⟨S, hS, rfl, -⟩ := hbuilt t d hd
  obtain ⟨pkg, name, args, hcanon, htype, hname, -⟩ := Analyzer.inspect_eq_some hS
  refine ⟨pkg, name, args, hcanon, htype, ?_, ?_⟩
  · intro v hv
    have hv' : S.entityName = v := hname.trans (Analyzer.entityName_of_declaresName hv)
    obtain ⟨-, -, -, -, -, -, -, -, -, hne⟩ := hv
    simp [Descriptor.ofShape, hv', hne]
  · intro hnone
    have hempty : S.entityName = "" := hname.trans (Analyzer.entityName_eq_empty hnone)
    simp [Descriptor.ofShape, hempty, htype]

namespace Analyzer

/-- A generic `Box[T]` whose `EntityName` returns `"Box__c"`, and a `Holder` with a field of type
`Box[string]`. -/
def genericBox : Analyzer where
  scope := { packages := [{ path := "acme/gen", name := "gen", decls := [
    { name := "Box", params := ["T"],
      type := .struct (.cons "ID" (.basic .string) "soql:\"Id,id\"" false
        (.cons "Item" (.param "T") "" false .nil)),
      methods := [⟨"EntityName", false, [], [.basic .string], .returns [.text "Box__c"]⟩] },
    { name := "Holder",
      type := .struct (.cons "ID" (.basic .string) "soql:\"Id,id\"" false
        (.cons "B" (.named "acme/gen" "Box" (.cons (.basic .string) .nil)) "" false .nil)) }] }] }

end Analyzer

/-- The generic `Box` declares the name `Box__c`, yet the instance `Box[string]` that a holder
relates to is published under its type name. -/
theorem published_names_follow_declared_constants_box :
    let a := Analyzer.genericBox
    let box : TypeExpr := .named "acme/gen" "Box" (.cons (.basic .string) .nil)
    let c := (({ introspector := a.introspector } : Registry TypeExpr).getAll
      [.plain "acme/gen" "Holder"]).catalog
    a.DeclaresName (.plain "acme/gen" "Box") "Box__c" ∧
      ∃ d, c.find? box = some (some d) ∧ d.name = "Box" := by
  intro a box c
  -- the generic declaration's method, selected on the generic type itself
  have hgeneric : (a.scope.method? (.pointer (.plain "acme/gen" "Box")) "EntityName").any
      (fun s => s.1 == .plain "acme/gen" "Box" && s.2.1.body == .returns [.text "Box__c"]) =
        true := by
    decide +kernel
  obtain ⟨⟨owner, m, path⟩, hsel, hgood⟩ := (Option.any_eq_true _ _).mp hgeneric
  simp only [Bool.and_eq_true, beq_iff_eq] at hgood
  obtain ⟨rfl, hbody⟩ := hgood
  have hdeclares : a.DeclaresName (.plain "acme/gen" "Box") "Box__c" :=
    ⟨"acme/gen", "Box", m, path, .text "Box__c", Universe.select_of_method? hsel,
      by decide +kernel, hbody, rfl, by decide⟩
  -- the instance's method is found on the instance, which has type arguments
  have hinstance : (a.scope.method? (.pointer box) "EntityName").any (·.1 == box) = true := by
    decide +kernel
  obtain ⟨⟨owner', m', path'⟩, hsel', hbox'⟩ := (Option.any_eq_true _ _).mp hinstance
  have howner : owner' = box := by simpa using hbox'
  subst howner
  have hnone : ∀ v, ¬ a.DeclaresName box v := by
    rintro v ⟨pkg, owner, m, path, e, hsel, -⟩
    rw [Universe.select_of_method? hsel'] at hsel
    simp [box] at hsel
  have hfound : (c.find? box).join.isSome = true := by
    decide +kernel
  obtain ⟨d, hd⟩ := Option.isSome_iff_exists.mp hfound
  have hd := Option.join_eq_some_iff.mp hd
  obtain ⟨pkg, name, args, hcanon, -, -, hname⟩ :=
    published_names_follow_declared_constants a [.plain "acme/gen" "Holder"] box d hd
  have hbox : a.canonical box = .named "acme/gen" "Box" (.cons (.basic .string) .nil) := by
    decide +kernel
  have hsame := hbox.symm.trans hcanon
  injection hsame with hp hn ha
  subst hp hn ha
  exact ⟨hdeclares, d, hd, hname hnone⟩

end EntityQuery
