import EntityQuery.Proofs.Expansion
import EntityQuery.Proofs.Escaping
/-!
# Querying one record by its identifier

`findById` builds the template `SELECT * FROM <entity> WHERE <id wire name> = '<escaped id>'`
and expands it with limit one. Whatever the identifier holds, it lands after the opening quote,
where the template's scan has already stopped: the text before that quote does not end in a
backslash (`splitAtLiteral_stops_by_quote`). When the entity name and the wire name hold no star,
the only marker is the star after `SELECT`, which has no lead and no qualifier
(`pieces_star_after_blank`). So the query is the root's field list at the requested depth,
asked of the expander once, inside the fixed text (`record_query_selects_by_escaped_id`): the
identifier can neither add nor change a marker, nor change anything outside its literal.
-/

set_option autoImplicit false

namespace EntityQuery.Query

variable {K : Type}

namespace Cached

variable {α β : Type}

theorem run_bind [DecidableEq K] (p : Cached K α) (f : α → Cached K β) (e : Expander K) :
    (p.bind f).run e = (f (p.run e).1).run (p.run e).2 := by
  induction p generalizing e with
  | pure a => rfl
  | load key next ih => exact ih _ e
  | loadOrStore key s next ih => exact ih _ _

end Cached

/-- A star right after a blank and not followed by a brace, in text without other stars, is the
one marker: it has no lead and no qualifier. -/
theorem pieces_star_after_blank {pre post : List Char} (hpre : '*' ∉ pre)
    (hblank : ∃ c, pre.getLast? = some c ∧ Text.isPatternSpace c = true) (hpost : '*' ∉ post)
    (hbrace : post.head? ≠ some '{') :
    pieces (pre ++ '*' :: post) = [.text pre, .marker [] none, .text post] := by
  have hnostar : ∀ c ∈ pre, (c != '*') = true := by
    intro c hc
    simp only [bne_iff_ne, ne_eq]
    rintro rfl
    exact hpre hc
  have htake : (pre ++ '*' :: post).takeWhile (· != '*') = pre := by
    rw [List.takeWhile_append_of_pos hnostar]
    simp
  have hdrop : (pre ++ '*' :: post).dropWhile (· != '*') = '*' :: post := by
    rw [List.dropWhile_append_of_pos hnostar]
    simp
  rw [pieces]
  split
  · rename_i hnil
    rw [hdrop] at hnil
    simp at hnil
  · rename_i star after hcons
    rw [hdrop] at hcons
    obtain ⟨-, rfl⟩ := List.cons.inj hcons
    -- the star follows a blank, so it has no lead; no brace follows it, so no qualifier
    obtain ⟨c, hlast, hc⟩ := hblank
    have hhead : pre.reverse.head? = some c := by rw [List.head?_reverse]; exact hlast
    have hlead : (pre.reverse.takeWhile fun c => !Text.isPatternSpace c) = [] := by
      cases hr : pre.reverse with
      | nil => simp [hr] at hhead
      | cons c' rest =>
        rw [hr, List.head?_cons, Option.some_inj] at hhead
        subst hhead
        simp [hc]
    have hqual : readQualifier post = (none, post) := by
      cases post with
      | nil => rfl
      | cons x xs =>
        have hx : x ≠ '{' := by simpa using hbrace
        simp [readQualifier, hx]
    simp only [htake, hlead, hqual, pieces_of_not_mem hpost]
    simp

theorem paging_zero_one : paging 0 1 = " LIMIT 1" := by
  simp [paging]
  rfl

section Template

variable (d : Descriptor K)

theorem findByIdTemplate_toList (wire id : String) :
    (findByIdTemplate d wire id).toList =
      "SELECT *".toList ++ ((" FROM " ++ d.name ++ " WHERE " ++ wire ++ " = ").toList ++
        '\'' :: (escapeLiteral id ++ "'").toList) := by
  unfold findByIdTemplate
  simp only [String.toList_append, List.append_assoc]
  simp

/-- The scanned part of the record template: `SELECT *` and a part of the text after it that
ends before the opening quote of the identifier; the rest of the template follows. -/
theorem splitAtLiteral_findByIdTemplate (wire id : String) (hname : '*' ∉ d.name.toList)
    (hwire : '*' ∉ wire.toList) :
    ∃ scan rest, splitAtLiteral (findByIdTemplate d wire id).toList =
        ("SELECT ".toList ++ '*' :: scan, rest) ∧
      '*' ∉ scan ∧ scan.head? ≠ some '{' ∧
      scan ++ rest = (" FROM " ++ d.name ++ " WHERE " ++ wire ++ " = '" ++ escapeLiteral id ++
        "'").toList := by
  -- the text between the star and the opening quote, and what follows that quote
  generalize hbetween : (" FROM " ++ d.name ++ " WHERE " ++ wire ++ " = ").toList = between
  generalize hliteral : (escapeLiteral id ++ "'").toList = literal
  have hsplit : splitAtLiteral (findByIdTemplate d wire id).toList =
      ("SELECT *".toList ++ (splitAtLiteral (between ++ '\'' :: literal)).1,
        (splitAtLiteral (between ++ '\'' :: literal)).2) := by
    rw [findByIdTemplate_toList, hbetween, hliteral]
    exact splitAtLiteral_plain_append (by simp) _
  have hlast : between.getLast? ≠ some '\\' := by
    rw [← hbetween, String.toList_append, List.getLast?_append_of_ne_nil _ (by simp)]
    simp
  obtain ⟨tail, htail⟩ := splitAtLiteral_stops_by_quote (.inl rfl) literal between hlast
  refine ⟨(splitAtLiteral (between ++ '\'' :: literal)).1,
    (splitAtLiteral (between ++ '\'' :: literal)).2, by rw [hsplit]; simp, ?_, ?_, ?_⟩
  · -- the scanned part lies in the text before the quote, which holds no star
    intro hstar
    have hmem : '*' ∈ between := htail ▸ List.mem_append_left tail hstar
    rw [← hbetween] at hmem
    simp [hname, hwire] at hmem
  · -- it starts with the blank before `FROM`, if with anything
    intro hhead
    rw [List.head?_eq_some_iff] at hhead
    obtain ⟨more, hmore⟩ := hhead
    have hpre : '{' :: more <+: between := hmore ▸ ⟨tail, htail⟩
    rw [← hbetween] at hpre
    simp at hpre
  · rw [splitAtLiteral_append, ← hbetween, ← hliteral]
    simp

end Template

section Record

variable [DecidableEq K] (c : Catalog K) (e : Expander K) (d : Descriptor K) (depth : Int)

/-- Plain text, a marker without lead or qualifier and plain text render as the texts around the
root's field list, asked of the expander once. -/
theorem run_renderOf_single_marker (pre post : List Char) :
    (renderOf c d depth [.text pre, .marker [] none, .text post]).run e =
      (.ok (String.ofList pre ++ ((e.fieldList c d "" depth).1 ++ String.ofList post)),
        (e.fieldList c d "" depth).2) := by
  simp [renderOf, target, Cached.run_bind, Expander.fieldList, Cached.run, Except.map]

/-- With an identifier field, and no star in the entity name or in the identifier's wire name,
the record query is the root's field list inside the fixed text, asked of the expander once. -/
theorem findById_of_idField {f : Field} (hid : d.idField? = some f) (id : String)
    (hname : '*' ∉ d.name.toList) (hwire : '*' ∉ f.wire.toList) :
    e.findById c (some d) id depth =
      (.ok ("SELECT " ++ (e.fieldList c d "" depth).1 ++ " FROM " ++ d.name ++ " WHERE " ++
        f.wire ++ " = '" ++ escapeLiteral id ++ "' LIMIT 1"), (e.fieldList c d "" depth).2) := by
  obtain ⟨scan, rest, hsplit, hstar, hbrace, hjoin⟩ :=
    splitAtLiteral_findByIdTemplate d f.wire id hname hwire
  have hpieces : pieces ("SELECT ".toList ++ '*' :: scan) =
      [.text "SELECT ".toList, .marker [] none, .text scan] :=
    pieces_star_after_blank (by simp) ⟨' ', by simp, rfl⟩ hstar hbrace
  have hblank : Text.isBlank (findByIdTemplate d f.wire id) = false := by
    simp [Text.isBlank, findByIdTemplate_toList, Text.isSpace]
  simp only [Expander.findById, findByIdOf, hid, expandOf, hblank, hsplit, hpieces,
    Bool.false_eq_true, if_false, Cached.bind_eq_bind, Cached.pure_eq_pure, Cached.run_bind,
    run_renderOf_single_marker, Cached.run, Except.map]
  -- the text after the star and the rest of the template give back the template's tail
  have htail : String.ofList scan ++ String.ofList rest =
      " FROM " ++ d.name ++ " WHERE " ++ f.wire ++ " = '" ++ escapeLiteral id ++ "'" := by
    rw [← String.ofList_append, hjoin, String.ofList_toList]
  have hbody : String.ofList "SELECT ".toList ++ ((e.fieldList c d "" depth).1 ++
      String.ofList scan) ++ String.ofList rest =
      "SELECT " ++ (e.fieldList c d "" depth).1 ++ (String.ofList scan ++ String.ofList rest) := by
    simp only [String.ofList_toList, String.append_assoc]
  rw [hbody, htail, paging_zero_one]
  simp [String.append_assoc]

/-- The query for one record. Without a root it fails, and without an identifier field it fails
naming the entity, the expander untouched either way. With one, and no star in the entity name
or in the identifier's wire name, it is `SELECT <field list> FROM <entity> WHERE <wire> =
'<escaped id>' LIMIT 1` for every identifier, the field list being the root's at the requested
depth with no lead, asked of the expander once. At the default depth the query follows five
levels. -/
theorem record_query_selects_by_escaped_id (id : String) :
    e.findById c none id depth = (.error .noDescriptor, e) ∧
    (∀ d : Descriptor K, d.idField? = none →
      e.findById c (some d) id depth =
        (.error (.config { entity := d.name, problem := .noIdentifier }), e)) ∧
    (∀ (d : Descriptor K) (f : Field), d.idField? = some f → '*' ∉ d.name.toList →
      '*' ∉ f.wire.toList →
      e.findById c (some d) id depth =
        (.ok ("SELECT " ++ (e.fieldList c d "" depth).1 ++ " FROM " ++ d.name ++ " WHERE " ++
          f.wire ++ " = '" ++ escapeLiteral id ++ "' LIMIT 1"), (e.fieldList c d "" depth).2)) ∧
    ∀ root, e.findByIdDefault c root id = e.findById c root id 5 := by
  refine ⟨rfl, fun d hid => ?_, fun d f hid hname hwire => findById_of_idField c e d depth hid id
    hname hwire, fun root => rfl⟩
  simp [Expander.findById, findByIdOf, hid, Cached.run]

end Record

/-- A record query for an identifier holding a quote and ending in a backslash. -/
theorem record_query_selects_by_escaped_id_quoted :
    let f : Field := { name := "ID", wire := "Id", kind := .scalar, isIdentifier := true }
    let d : Descriptor String := ⟨"Account", "Account", "Account", [f], []⟩
    d.idField? = some f ∧ '*' ∉ d.name.toList ∧ '*' ∉ f.wire.toList ∧
      ({} : Expander String).findById {} (some d) "O'Hara\\" 2 =
        (.ok ("SELECT " ++ (({} : Expander String).fieldList {} d "" 2).1 ++
          " FROM Account WHERE Id = '" ++ escapeLiteral "O'Hara\\" ++ "' LIMIT 1"),
          (({} : Expander String).fieldList {} d "" 2).2) := by
  intro f d
  have hid : d.idField? = some f := rfl
  have hname : '*' ∉ d.name.toList := by simp [d]
  have hwire : '*' ∉ f.wire.toList := by simp [f]
  refine ⟨hid, hname, hwire, ?_⟩
  rw [(record_query_selects_by_escaped_id {} {} 2 "O'Hara\\").2.2.1 d f hid hname hwire]
  simp [d, f, String.append_assoc]

end EntityQuery.Query
