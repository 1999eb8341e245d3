import Mathlib.Data.List.Forall2
import Mathlib.Data.List.Induction
import EntityQuery.Proofs.Expander
/-!
# Field lists as paths of fields

A field list has one item for every path of fields that the expansion follows and that ends in a
column or a sub-select. A path is a list of field positions: the first picks a field of the entity,
every further one a field of the entity that the previous field relates to. `Selects c depth d lead
path item` says, hop by hop, which paths give an item and which item. A field that is no attributes
carrier and relates to nothing gives its wire name after the lead; a multi-valued relationship with
depth left gives a sub-select of the related entity's field list, with no lead and one level less;
a singular relationship with depth left is followed, with its wire name and a dot added to the lead
and one level spent. A relationship with no depth left gives nothing, and neither does an attributes
carrier. So the path `f₁ … fⱼ` is followed through `j - 1` singular relationships, the `i`-th of
them at depth `depth - (i - 1)`, which must be positive.

Main statements. The items of a field list are the items of the paths that `Selects` admits, one
per path, in increasing lexicographic order of the paths (`fieldItems_enumerate`). Sibling fields
come in declaration order and the fields of a followed relationship come before the next sibling,
so this order is the depth-first order of the fields. When no chain of relationships from an entity
has more than `h` hops, every depth from `h` on gives the field list at depth `h`
(`fieldList_eq_of_walks_le`): the expansion of an acyclic graph stops growing at its longest chain.
-/

set_option autoImplicit false

namespace EntityQuery

variable {K : Type} [DecidableEq K]

/-- `c.Walk d n`: `n` relationships can be followed one after the other from `d`, each through a
field that is no attributes carrier. A cycle gives walks of every length. -/
inductive Catalog.Walk (c : Catalog K) : Descriptor K → Nat → Prop
  | stay (d : Descriptor K) : c.Walk d 0
  | hop {d r : Descriptor K} {f : Field} {n : Nat} : f ∈ d.fields → f.isAttributes = false →
      c.relatedOf? d f.name = some r → c.Walk r n → c.Walk d (n + 1)

namespace Query

/-- Which paths of field positions give an item of the field list of `d` at a depth after a lead,
and the item each gives. -/
inductive Selects (c : Catalog K) : Int → Descriptor K → String → List Nat → String → Prop
  /-- A field that relates to nothing is a column: its wire name after the lead. -/
  | column {depth : Int} {d : Descriptor K} {lead : String} {i : Nat} {f : Field} :
      d.fields[i]? = some f → f.isAttributes = false → c.relatedOf? d f.name = none →
      Selects c depth d lead [i] (lead ++ f.wire)
  /-- A multi-valued relationship with depth left is a sub-select of the related entity. -/
  | subSelect {depth : Int} {d r : Descriptor K} {lead : String} {i : Nat} {f : Field} :
      d.fields[i]? = some f → f.isAttributes = false → c.relatedOf? d f.name = some r →
      0 < depth → f.kind.isMultiValued = true →
      Selects c depth d lead [i]
        ("(SELECT " ++ fieldList c r "" (depth - 1) ++ " FROM " ++ lead ++ f.wire ++ ")")
  /-- A singular relationship with depth left is followed under a longer lead, one level down. -/
  | follow {depth : Int} {d r : Descriptor K} {lead : String} {i : Nat} {f : Field}
      {path : List Nat} {item : String} :
      d.fields[i]? = some f → f.isAttributes = false → c.relatedOf? d f.name = some r →
      0 < depth → f.kind.isMultiValued = false →
      Selects c (depth - 1) r (lead ++ f.wire ++ ".") path item →
      Selects c depth d lead (i :: path) item

/-- `paths`, in strictly increasing order, are the paths that `S` admits, and `items` are their
items, one for each. -/
structure Enumerates (S : List Nat → String → Prop) (paths : List (List Nat))
    (items : List String) : Prop where
  sorted : paths.Pairwise (· < ·)
  mem_iff : ∀ path, path ∈ paths ↔ ∃ item, S path item
  items : List.Forall₂ S paths items

/-! ### Putting enumerations together -/

namespace Enumerates

variable {S S' : List Nat → String → Prop} {paths paths' : List (List Nat)}
  {items items' : List String}

theorem congr (h : Enumerates S paths items) (hS : ∀ path item, S path item ↔ S' path item) :
    Enumerates S' paths items :=
  ⟨h.sorted, fun path => by simp only [h.mem_iff, hS],
    h.items.imp fun path item => (hS path item).mp⟩

theorem nil (hS : ∀ path item, ¬ S path item) : Enumerates S [] [] :=
  ⟨List.Pairwise.nil, fun path => by simp [hS], List.Forall₂.nil⟩

theorem single {path : List Nat} {item : String}
    (hS : ∀ path' item', S path' item' ↔ path' = path ∧ item' = item) :
    Enumerates S [path] [item] := by
  refine ⟨List.pairwise_singleton _ _, fun path' => ?_, ?_⟩
  · simp [hS]
  · exact List.Forall₂.cons ((hS path item).mpr ⟨rfl, rfl⟩) List.Forall₂.nil

/-- Putting one position in front of every path keeps the order. -/
theorem cons (i : Nat) (h : Enumerates S paths items) :
    Enumerates (fun path item => ∃ rest, path = i :: rest ∧ S rest item)
      (paths.map (i :: ·)) items := by
  refine ⟨?_, fun path => ?_, ?_⟩
  · rw [List.pairwise_map]
    exact h.sorted.imp fun hlt => List.cons_lt_cons_self.mpr hlt
  · constructor
    · rintro hmem
      obtain ⟨rest, hrest, rfl⟩ := List.mem_map.mp hmem
      obtain ⟨item, hitem⟩ := (h.mem_iff rest).mp hrest
      exact ⟨item, rest, rfl, hitem⟩
    · rintro ⟨item, rest, rfl, hitem⟩
      exact List.mem_map_of_mem ((h.mem_iff rest).mpr ⟨item, hitem⟩)
  · rw [List.forall₂_map_left_iff]
    exact h.items.imp fun rest _ hitem => ⟨rest, rfl, hitem⟩

/-- Two enumerations, every path of the first below every path of the second, make one. -/
theorem append (h : Enumerates S paths items) (h' : Enumerates S' paths' items')
    (hlt : ∀ p ∈ paths, ∀ p' ∈ paths', p < p') :
    Enumerates (fun path item => S path item ∨ S' path item) (paths ++ paths')
      (items ++ items') := by
  refine ⟨List.pairwise_append.mpr ⟨h.sorted, h'.sorted, hlt⟩, fun path => ?_, ?_⟩
  · rw [List.mem_append, h.mem_iff, h'.mem_iff]
    constructor
    · rintro (⟨item, hitem⟩ | ⟨item, hitem⟩)
      · exact ⟨item, .inl hitem⟩
      · exact ⟨item, .inr hitem⟩
    · rintro ⟨item, hitem | hitem⟩
      · exact .inl ⟨item, hitem⟩
      · exact .inr ⟨item, hitem⟩
  · exact List.rel_append (h.items.imp fun _ _ hitem => .inl hitem)
      (h'.items.imp fun _ _ hitem => .inr hitem)

end Enumerates

/-- The items of the fields of a list, field after field: when the items of each field are
enumerated by the rest of their paths, the items of all of them are enumerated by the field's
position followed by that rest. -/
theorem enumerates_flatMap {T : Field → List Nat → String → Prop} {g : Field → List String}
    (fields : List Field) (hfield : ∀ f ∈ fields, ∃ paths, Enumerates (T f) paths (g f)) :
    ∃ paths, Enumerates
      (fun path item => ∃ i f rest, path = i :: rest ∧ fields[i]? = some f ∧ T f rest item)
      paths (fields.flatMap g) := by
  induction fields using List.reverseRecOn with
  | nil =>
    refine ⟨[], Enumerates.nil fun path item => ?_⟩
    simp
  | append_singleton fields f ih =>
    -- the last field's position is the length of the fields before it
    obtain ⟨paths, hpaths⟩ := ih fun f' hf' => hfield f' (List.mem_append_left _ hf')
    obtain ⟨pathsF, hpathsF⟩ := hfield f (List.mem_append_right _ (List.mem_singleton_self f))
    have hlt : ∀ p ∈ paths, ∀ p' ∈ pathsF.map (fields.length :: ·), p < p' := by
      intro p hp p' hp'
      obtain ⟨item, i, f', rest, rfl, hi, -⟩ := (hpaths.mem_iff p).mp hp
      obtain ⟨rest', -, rfl⟩ := List.mem_map.mp hp'
      exact List.Lex.rel (List.getElem?_eq_some_iff.mp hi).1
    refine ⟨paths ++ pathsF.map (fields.length :: ·), ?_⟩
    rw [List.flatMap_append, List.flatMap_singleton]
    refine (hpaths.append (hpathsF.cons fields.length) hlt).congr fun path item => ?_
    constructor
    · rintro (⟨i, f', rest, rfl, hi, hT⟩ | ⟨rest, rfl, hT⟩)
      · exact ⟨i, f', rest, rfl, by rw [List.getElem?_append_left
          (List.getElem?_eq_some_iff.mp hi).1]; exact hi, hT⟩
      · exact ⟨fields.length, f, rest, rfl, by simp, hT⟩
    · rintro ⟨i, f', rest, rfl, hi, hT⟩
      rcases Nat.lt_or_ge i fields.length with hlen | hlen
      · rw [List.getElem?_append_left hlen] at hi
        exact .inl ⟨i, f', rest, rfl, hi, hT⟩
      · rw [List.getElem?_append_right hlen] at hi
        obtain ⟨hzero, rfl⟩ : i - fields.length = 0 ∧ f = f' := by
          simpa [List.getElem?_singleton] using hi
        obtain rfl : i = fields.length := by omega
        exact .inr ⟨rest, rfl, hT⟩

/-! ### The paths of one field -/

variable {c : Catalog K}

/-- The items one field of `d` gives, by the rest of their paths after the field's position. -/
def FieldSelects (c : Catalog K) (depth : Int) (d : Descriptor K) (lead : String) (f : Field)
    (rest : List Nat) (item : String) : Prop :=
  f.isAttributes = false ∧
    (c.relatedOf? d f.name = none ∧ rest = [] ∧ item = lead ++ f.wire ∨
      ∃ r, c.relatedOf? d f.name = some r ∧ 0 < depth ∧
        (f.kind.isMultiValued = true ∧ rest = [] ∧
            item = "(SELECT " ++ fieldList c r "" (depth - 1) ++ " FROM " ++ lead ++ f.wire ++ ")" ∨
          f.kind.isMultiValued = false ∧ Selects c (depth - 1) r (lead ++ f.wire ++ ".") rest item))

theorem not_selects_nil {depth : Int} {d : Descriptor K} {lead item : String} :
    ¬ Selects c depth d lead [] item := by
  intro h
  cases h

/-- A path is the position of a field of `d` and the rest of the path for that field. -/
theorem selects_cons_iff {depth : Int} {d : Descriptor K} {lead item : String} {i : Nat}
    {rest : List Nat} :
    Selects c depth d lead (i :: rest) item ↔
      ∃ f, d.fields[i]? = some f ∧ FieldSelects c depth d lead f rest item := by
  constructor
  · intro h
    cases h with
    | column hf hattr hrel => exact ⟨_, hf, hattr, .inl ⟨hrel, rfl, rfl⟩⟩
    | subSelect hf hattr hrel hpos hmulti =>
      exact ⟨_, hf, hattr, .inr ⟨_, hrel, hpos, .inl ⟨hmulti, rfl, rfl⟩⟩⟩
    | follow hf hattr hrel hpos hmulti hsub =>
      exact ⟨_, hf, hattr, .inr ⟨_, hrel, hpos, .inr ⟨hmulti, hsub⟩⟩⟩
  · rintro ⟨f, hf, hattr, ⟨hrel, rfl, rfl⟩ | ⟨r, hrel, hpos, ⟨hmulti, rfl, rfl⟩ | ⟨hmulti, hsub⟩⟩⟩
    · exact .column hf hattr hrel
    · exact .subSelect hf hattr hrel hpos hmulti
    · exact .follow hf hattr hrel hpos hmulti hsub

/-- One field's items, when the entities it may relate to have their items enumerated one level
down. -/
theorem enumerates_fieldItemsAt {n : Nat} {depth : Int} (hn : depth.toNat = n)
    (ih : ∀ m, n = m + 1 → ∀ r lead', ∃ paths,
      Enumerates (Selects c (depth - 1) r lead') paths (fieldItems c m r lead'))
    (d : Descriptor K) (lead : String) (f : Field) :
    ∃ paths, Enumerates (FieldSelects c depth d lead f) paths (fieldItemsAt c n d lead f) := by
  unfold fieldItemsAt
  by_cases hattr : f.isAttributes = true
  · -- an attributes carrier gives nothing
    refine ⟨[], ?_⟩
    simp only [hattr, ↓reduceIte]
    exact Enumerates.nil fun _ _ h => by simp [FieldSelects, hattr] at h
  simp only [hattr, Bool.false_eq_true, ↓reduceIte]
  rw [Bool.not_eq_true] at hattr
  cases hrel : c.relatedOf? d f.name with
  | none =>
    exact ⟨[[]], Enumerates.single fun rest item => by simp [FieldSelects, hattr, hrel]⟩
  | some r =>
    cases n with
    | zero =>
      -- no depth left: the relationship is dropped
      have hdepth : ¬ 0 < depth := by omega
      exact ⟨[], Enumerates.nil fun _ _ h => by simp [FieldSelects, hrel, hdepth] at h⟩
    | succ m =>
      have hdepth : 0 < depth := by omega
      by_cases hmulti : f.kind.isMultiValued = true
      · have hlist : ",".intercalate (fieldItems c m r "") = fieldList c r "" (depth - 1) := by
          rw [fieldList_eq_uncachedFieldList, uncachedFieldList]
          congr 2
          omega
        simp only [hmulti, ↓reduceIte]
        refine ⟨[[]], Enumerates.single fun rest item => ?_⟩
        simp [FieldSelects, hattr, hrel, hdepth, hmulti, hlist]
      · rw [Bool.not_eq_true] at hmulti
        obtain ⟨paths, hpaths⟩ := ih m rfl r (lead ++ f.wire ++ ".")
        refine ⟨paths, ?_⟩
        simp only [hmulti, Bool.false_eq_true, ↓reduceIte]
        exact hpaths.congr fun rest item => by simp [FieldSelects, hattr, hrel, hdepth, hmulti]

/-! ### The items of a field list -/

/-- The items of a field list are the items of the paths `Selects` admits, one per path, in
increasing order of the paths. The induction is on the levels left, which fall by one with every
relationship followed or sub-selected. -/
theorem fieldItems_enumerate (c : Catalog K) :
    ∀ (n : Nat) (depth : Int), depth.toNat = n → ∀ (d : Descriptor K) (lead : String),
      ∃ paths, Enumerates (Selects c depth d lead) paths (fieldItems c n d lead) := by
  intro n
  induction n with
  | zero =>
    intro depth hn d lead
    obtain ⟨paths, hpaths⟩ := enumerates_flatMap d.fields fun f _ =>
      enumerates_fieldItemsAt hn (fun m hm => absurd hm (by omega)) d lead f
    rw [fieldItems_eq_flatMap]
    exact ⟨paths, hpaths.congr fun path item => by
      cases path <;> simp [not_selects_nil, selects_cons_iff]⟩
  | succ m ih =>
    intro depth hn d lead
    have hsub : ∀ m', m + 1 = m' + 1 → ∀ r lead', ∃ paths,
        Enumerates (Selects c (depth - 1) r lead') paths (fieldItems c m' r lead') := by
      intro m' hm' r lead'
      obtain rfl : m = m' := by omega
      exact ih (depth - 1) (by omega) r lead'
    obtain ⟨paths, hpaths⟩ := enumerates_flatMap d.fields fun f _ =>
      enumerates_fieldItemsAt hn hsub d lead f
    rw [fieldItems_eq_flatMap]
    exact ⟨paths, hpaths.congr fun path item => by
      cases path <;> simp [not_selects_nil, selects_cons_iff]⟩

/-! ### Depth beyond the longest chain -/

/-- With no chain of relationships longer than `h` hops from `d`, the items at any two numbers of
levels from `h` on are the same. The induction is on `h`: every relationship of `d` starts a chain,
so it needs a level, and the related entity has chains one hop shorter. -/
theorem fieldItems_eq_of_walks_le (c : Catalog K) :
    ∀ (h : Nat) (d : Descriptor K) (lead : String) (n m : Nat),
      (∀ w, c.Walk d w → w ≤ h) → h ≤ n → h ≤ m → fieldItems c n d lead = fieldItems c m d lead := by
  intro h
  induction h with
  | zero =>
    intro d lead n m hwalks _ _
    rw [fieldItems_eq_flatMap, fieldItems_eq_flatMap]
    refine List.flatMap_congr fun f hf => ?_
    unfold fieldItemsAt
    split
    · rfl
    · rename_i hattr
      cases hrel : c.relatedOf? d f.name with
      | none => rfl
      | some r =>
        have := hwalks 1 (.hop hf (by simpa using hattr) hrel (.stay r))
        omega
  | succ h ih =>
    intro d lead n m hwalks hn hm
    obtain ⟨n, rfl⟩ : ∃ n', n = n' + 1 := ⟨n - 1, by omega⟩
    obtain ⟨m, rfl⟩ : ∃ m', m = m' + 1 := ⟨m - 1, by omega⟩
    rw [fieldItems_eq_flatMap, fieldItems_eq_flatMap]
    refine List.flatMap_congr fun f hf => ?_
    unfold fieldItemsAt
    split
    · rfl
    · rename_i hattr
      cases hrel : c.relatedOf? d f.name with
      | none => rfl
      | some r =>
        -- the chains from the related entity are one hop shorter
        have hshorter : ∀ w, c.Walk r w → w ≤ h := fun w hw =>
          Nat.le_of_succ_le_succ (hwalks (w + 1) (.hop hf (by simpa using hattr) hrel hw))
        simp only
        rw [ih r "" n m hshorter (by omega) (by omega),
          ih r (lead ++ f.wire ++ ".") n m hshorter (by omega) (by omega)]

/-- With no chain of relationships longer than `h` hops from `d`, every depth from `h` on gives
the field list at depth `h`. -/
theorem fieldList_eq_of_walks_le (c : Catalog K) (d : Descriptor K) (lead : String) (h : Nat)
    (hwalks : ∀ w, c.Walk d w → w ≤ h) (k : Int) (hk : h ≤ k) :
    fieldList c d lead k = fieldList c d lead h := by
  rw [fieldList_eq_uncachedFieldList, fieldList_eq_uncachedFieldList, uncachedFieldList,
    uncachedFieldList, fieldItems_eq_of_walks_le c h d lead k.toNat (h : Int).toNat hwalks
      (by omega) (by omega)]

/-- The field list of `d` at a depth after a lead joins its items with commas. Its items are, in
depth-first field order, one for each path of fields that `Selects` admits: a column at the end of
a chain of singular relationships followed with depth left, its wire names joined by dots after the
lead, or a multi-valued relationship at the end of such a chain, with depth left, as a sub-select of
the related entity's field list one level down. When no chain of relationships from `d` has more
than `h` hops, every depth from `h` on gives the field list at depth `h`. -/
theorem field_list_items_follow_field_paths (c : Catalog K) (d : Descriptor K) (lead : String)
    (depth : Int) :
    fieldList c d lead depth = ",".intercalate (fieldItems c depth.toNat d lead) ∧
      (∃ paths, Enumerates (Selects c depth d lead) paths (fieldItems c depth.toNat d lead)) ∧
      ∀ h : Nat, (∀ w, c.Walk d w → w ≤ h) → ∀ k : Int, h ≤ k →
        fieldList c d lead k = fieldList c d lead h :=
  ⟨fieldList_eq_uncachedFieldList c d lead depth,
    fieldItems_enumerate c depth.toNat depth rfl d lead,
    fun h hwalks k hk => fieldList_eq_of_walks_le c d lead h hwalks k hk⟩

end Query

end EntityQuery
