import EntityQuery.Declared.Inspect

/-!
# Finding declared types by name

A qualified name `pkg.Type` is split at its last dot. The package part is matched against the
registered packages: a package matches when it is the package's path, its name, or a final
part of its path (the path ends with `/` and the part). Exactly one package must match; the
type is then looked up among its declarations, and the key returned is the declared type with
pointers and aliases removed.

`types` lists the exported struct types (not aliases) of the registered packages, ordered by
their qualified names.
-/

set_option autoImplicit false

namespace EntityQuery

namespace Analyzer

variable (a : Analyzer)

/-- The registered packages a package part of a qualified name matches. -/
def matchingPackages (part : String) : List Package :=
  a.scope.registered.filter fun p =>
    p.path == part || p.name == part || p.path.endsWith ("/" ++ part)

/-- The key of the type a qualified name names, or why it names none. -/
def lookup (qualified : String) : Except String TypeExpr :=
  match TypeId.parse? qualified with
  | none => .error (TypeId.parseError qualified)
  | some id =>
    match a.matchingPackages id.pkgPath with
    | [] => .error ("package " ++ id.pkgPath ++ " not loaded")
    | [p] =>
      match p.decl? id.name with
      | some _ => .ok (a.canonical (.plain p.path id.name))
      | none => .error ("type " ++ id.render ++ " not found")
    | _ => .error ("package " ++ id.pkgPath ++ " is ambiguous")

/-- The exported struct types of the registered packages, by qualified name. -/
def types : List TypeId :=
  let ids := a.scope.registered.flatMap fun p =>
    (p.decls.filter fun d =>
      isExported d.name && !d.isAlias && (a.scope.structFields? (.plain p.path d.name)).isSome).map
      fun d => (⟨p.path, d.name⟩ : TypeId)
  ids.mergeSort fun x y => decide (x.render ≤ y.render)

end Analyzer

end EntityQuery
