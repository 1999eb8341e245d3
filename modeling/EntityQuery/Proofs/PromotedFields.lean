import Mathlib.Data.List.Induction
import EntityQuery.Declared.Inspect
/-!
# Fields promoted from embedded structs

The fields of an entity read from declarations come with the depth of the embedding they were
promoted through, and of several fields of one name `dropShadowed` keeps one. It makes two passes:
the first records, for each name, the smallest depth of a field of that name
(`shallowestDepth`); the second (`keepFirst`) walks the fields in order and keeps a field when it
lies at the recorded depth of its name and no field of that name has been kept yet.

The second pass is a loop, and `Passed` is what it holds after a prefix of the fields: the
fields kept are those first at their recorded depth (`FirstAtDepth`), in order, and the names
seen are theirs, each once. One step keeps it (`Passed.keepFirst`), so the whole loop does
(`passed_foldl`). With the depths of the first pass, being first at the recorded depth is being
the first of the shallowest fields of its name (`FirstShallowest`, `firstAtDepth_shallowest_iff`),
a condition stated with no recorded depth at all.

Main statement: `dropShadowed_keeps_first_shallowest`. The kept fields are, in the order of the
list, exactly the first of the shallowest fields of each name; no name is kept twice and none is
lost.
-/

set_option autoImplicit false

namespace EntityQuery

variable {K : Type}

/-- The depth the first pass records for a name: the smallest depth of a field of that name, and
zero when there is none. -/
def shallowestDepth (fields : List (FieldSpec K × Nat)) (name : String) : Nat :=
  ((fields.filter (·.1.field.name == name)).map (·.2)).min?.getD 0

/-- One step of the second pass over the fields kept and the names seen: a field is kept when it
lies at the depth recorded for its name and that name has not been seen. -/
def keepFirst (depthOf : String → Nat) (acc : List (FieldSpec K) × List String)
    (p : FieldSpec K × Nat) : List (FieldSpec K) × List String :=
  if (p.2 != depthOf p.1.field.name || acc.2.contains p.1.field.name) = true then acc
  else (acc.1 ++ [p.1], acc.2 ++ [p.1.field.name])

/-- `dropShadowed` is the second pass run with the depths of the first. -/
theorem dropShadowed_eq_foldl (fields : List (FieldSpec K × Nat)) :
    dropShadowed fields = (fields.foldl (keepFirst (shallowestDepth fields)) ([], [])).1 := rfl

/-- The depth recorded for the name of a field is reached by a field of that name, and no field
of that name is shallower. -/
theorem shallowestDepth_spec {fields : List (FieldSpec K × Nat)} {q : FieldSpec K × Nat}
    (hq : q ∈ fields) :
    (∃ p ∈ fields, p.1.field.name = q.1.field.name ∧
      p.2 = shallowestDepth fields q.1.field.name) ∧
    ∀ p ∈ fields, p.1.field.name = q.1.field.name → shallowestDepth fields q.1.field.name ≤ p.2 := by
  have hne : (fields.filter (·.1.field.name == q.1.field.name)).map (·.2) ≠ [] :=
    List.ne_nil_of_mem (List.mem_map.mpr ⟨q, List.mem_filter.mpr ⟨hq, by simp⟩, rfl⟩)
  cases hmin : ((fields.filter (·.1.field.name == q.1.field.name)).map (·.2)).min? with
  | none => exact absurd (List.min?_eq_none_iff.mp hmin) hne
  | some m =>
    have hdepth : shallowestDepth fields q.1.field.name = m := by simp [shallowestDepth, hmin]
    obtain ⟨hmem, hle⟩ := List.min?_eq_some_iff.mp hmin
    rw [hdepth]
    refine ⟨?_, fun p hp hname => hle p.2 ?_⟩
    · obtain ⟨p, hp, rfl⟩ := List.mem_map.mp hmem
      have hp' := List.mem_filter.mp hp
      exact ⟨p, hp'.1, by simpa using hp'.2, rfl⟩
    · exact List.mem_map.mpr ⟨p, List.mem_filter.mpr ⟨hp, by simpa using hname⟩, rfl⟩

/-- The step's test read as a proposition. -/
theorem keepFirst_eq (depthOf : String → Nat) (acc : List (FieldSpec K) × List String)
    (p : FieldSpec K × Nat) :
    keepFirst depthOf acc p =
      if p.2 = depthOf p.1.field.name ∧ p.1.field.name ∉ acc.2 then
        (acc.1 ++ [p.1], acc.2 ++ [p.1.field.name])
      else acc := by
  by_cases hkeep : p.2 = depthOf p.1.field.name ∧ p.1.field.name ∉ acc.2
  · simp [keepFirst, hkeep]
  · rw [if_neg hkeep]
    rw [not_and_or, not_not] at hkeep
    rcases hkeep with hdepth | hseen
    · simp [keepFirst, hdepth]
    · simp [keepFirst, hseen]

/-- The field at position `i` of `xs` lies at the depth recorded for its name, and no field of
that name before it does. -/
def FirstAtDepth (depthOf : String → Nat) (xs : List (FieldSpec K × Nat))
    (p : FieldSpec K × Nat) (i : Nat) : Prop :=
  p.2 = depthOf p.1.field.name ∧
    ∀ q ∈ xs.take i, q.1.field.name = p.1.field.name → q.2 ≠ depthOf p.1.field.name

instance (depthOf : String → Nat) (xs : List (FieldSpec K × Nat)) (p : FieldSpec K × Nat)
    (i : Nat) : Decidable (FirstAtDepth depthOf xs p i) :=
  inferInstanceAs (Decidable (p.2 = depthOf p.1.field.name ∧
    ∀ q ∈ xs.take i, q.1.field.name = p.1.field.name → q.2 ≠ depthOf p.1.field.name))

/-- What the second pass holds after the fields `xs`: the fields that are first at their
recorded depth, in order, and their names, each once; a name is seen exactly when a field of
`xs` with that name lies at its recorded depth. -/
structure Passed (depthOf : String → Nat) (xs : List (FieldSpec K × Nat))
    (acc : List (FieldSpec K) × List String) : Prop where
  kept : acc.1 =
    (xs.zipIdx.filter fun e => decide (FirstAtDepth depthOf xs e.1 e.2)).map (·.1.1)
  seen : acc.2 = acc.1.map (·.field.name)
  nodup : acc.2.Nodup
  mem_seen : ∀ n, n ∈ acc.2 ↔ ∃ q ∈ xs, q.1.field.name = n ∧ q.2 = depthOf n

/-- Nothing is kept before the first field. -/
theorem passed_nil (depthOf : String → Nat) : Passed (K := K) depthOf [] ([], []) where
  kept := rfl
  seen := rfl
  nodup := List.nodup_nil
  mem_seen := by simp

/-- The fields already passed keep their verdict when one more field follows them. -/
theorem filter_firstAtDepth_append (depthOf : String → Nat) (xs : List (FieldSpec K × Nat))
    (p : FieldSpec K × Nat) :
    (xs ++ [p]).zipIdx.filter (fun e => decide (FirstAtDepth depthOf (xs ++ [p]) e.1 e.2)) =
      xs.zipIdx.filter (fun e => decide (FirstAtDepth depthOf xs e.1 e.2)) ++
        if FirstAtDepth depthOf (xs ++ [p]) p xs.length then [(p, xs.length)] else [] := by
  rw [List.zipIdx_append, List.filter_append]
  congr 1
  · apply List.filter_congr
    rintro ⟨q, i⟩ hq
    have hi : i < xs.length := by simpa using (List.mem_zipIdx hq).2.1
    have htake : (xs ++ [p]).take i = xs.take i := List.take_append_of_le_length (Nat.le_of_lt hi)
    exact decide_eq_decide.mpr (by rw [FirstAtDepth, FirstAtDepth, htake])
  · by_cases hfirst : FirstAtDepth depthOf (xs ++ [p]) p xs.length <;> simp [hfirst]

/-- One step of the second pass keeps what it holds. -/
theorem Passed.keepFirst {depthOf : String → Nat} {xs : List (FieldSpec K × Nat)}
    {acc : List (FieldSpec K) × List String} (h : Passed depthOf xs acc) (p : FieldSpec K × Nat) :
    Passed depthOf (xs ++ [p]) (keepFirst depthOf acc p) := by
  -- the new field is first at its depth exactly when its name has not been seen
  have hfirst : FirstAtDepth depthOf (xs ++ [p]) p xs.length ↔
      p.2 = depthOf p.1.field.name ∧ p.1.field.name ∉ acc.2 := by
    rw [h.mem_seen]
    simp only [FirstAtDepth, List.take_append_of_le_length (Nat.le_refl _), List.take_length,
      not_exists, not_and]
  have hmem : ∀ n, (∃ q ∈ xs ++ [p], q.1.field.name = n ∧ q.2 = depthOf n) ↔
      n ∈ acc.2 ∨ (p.1.field.name = n ∧ p.2 = depthOf n) := by
    intro n
    rw [h.mem_seen]
    simp only [List.mem_append, List.mem_singleton, or_and_right, exists_or, exists_eq_left]
  by_cases hkeep : p.2 = depthOf p.1.field.name ∧ p.1.field.name ∉ acc.2
  · rw [keepFirst_eq, if_pos hkeep]
    refine ⟨?_, ?_, ?_, fun n => ?_⟩
    · rw [filter_firstAtDepth_append, if_pos (hfirst.mpr hkeep), h.kept]
      simp
    · simp [h.seen]
    · exact List.nodup_append.mpr ⟨h.nodup, by simp, fun a ha b hb => by
        rintro rfl
        exact hkeep.2 (List.mem_singleton.mp hb ▸ ha)⟩
    · rw [hmem, List.mem_append, List.mem_singleton]
      constructor
      · rintro (hn | rfl)
        · exact .inl hn
        · exact .inr ⟨rfl, hkeep.1⟩
      · rintro (hn | ⟨rfl, -⟩)
        · exact .inl hn
        · exact .inr rfl
  · rw [keepFirst_eq, if_neg hkeep]
    refine ⟨?_, h.seen, h.nodup, fun n => ?_⟩
    · rw [filter_firstAtDepth_append, if_neg (mt hfirst.mp hkeep), h.kept]
      simp
    · rw [hmem]
      constructor
      · exact .inl
      · -- a field at its recorded depth whose name was not seen would have been kept
        rintro (hn | ⟨rfl, hdepth⟩)
        · exact hn
        · by_contra hseen
          exact hkeep ⟨hdepth, hseen⟩

/-- What the second pass holds after the whole list. -/
theorem passed_foldl (depthOf : String → Nat) (xs : List (FieldSpec K × Nat)) :
    Passed depthOf xs (xs.foldl (keepFirst depthOf) ([], [])) := by
  induction xs using List.reverseRecOn with
  | nil => exact passed_nil depthOf
  | append_singleton xs p ih =>
    rw [List.foldl_append, List.foldl_cons, List.foldl_nil]
    exact ih.keepFirst p

/-- The field `p` at position `i` of `fields` is the first of the shallowest fields of its name:
no field of that name is shallower, and every one before it is deeper. -/
def FirstShallowest (fields : List (FieldSpec K × Nat)) (p : FieldSpec K × Nat) (i : Nat) :
    Prop :=
  (∀ q ∈ fields, q.1.field.name = p.1.field.name → p.2 ≤ q.2) ∧
    ∀ q ∈ fields.take i, q.1.field.name = p.1.field.name → p.2 < q.2

instance (fields : List (FieldSpec K × Nat)) (p : FieldSpec K × Nat) (i : Nat) :
    Decidable (FirstShallowest fields p i) :=
  inferInstanceAs (Decidable ((∀ q ∈ fields, q.1.field.name = p.1.field.name → p.2 ≤ q.2) ∧
    ∀ q ∈ fields.take i, q.1.field.name = p.1.field.name → p.2 < q.2))

/-- With the depths the first pass records, the second pass's test on a field of the list is
being the first of the shallowest fields of its name. -/
theorem firstAtDepth_shallowest_iff {fields : List (FieldSpec K × Nat)} {p : FieldSpec K × Nat}
    (hp : p ∈ fields) (i : Nat) :
    FirstAtDepth (shallowestDepth fields) fields p i ↔ FirstShallowest fields p i := by
  obtain ⟨⟨r, hr, hrname, hrdepth⟩, hle⟩ := shallowestDepth_spec hp
  constructor
  · rintro ⟨hdepth, hbefore⟩
    refine ⟨fun q hq hname => hdepth ▸ hle q hq hname, fun q hq hname => ?_⟩
    have hq' := hle q (List.mem_of_mem_take hq) hname
    have hne := hbefore q hq hname
    omega
  · rintro ⟨hmin, hbefore⟩
    -- the recorded depth is reached by `r`, so a field no deeper than any is at that depth
    have hdepth : p.2 = shallowestDepth fields p.1.field.name :=
      Nat.le_antisymm (hrdepth ▸ hmin r hr hrname) (hle p hp rfl)
    refine ⟨hdepth, fun q hq hname => ?_⟩
    have hlt := hbefore q hq hname
    omega

/-- Of the fields of one name, found at several embedding depths, only the first of the
shallowest is kept: the kept fields are, in the order of the list, exactly those that no field of
their name is shallower than and that come before every other field of their name at that depth.
So every name of the list is kept, by one field. -/
theorem dropShadowed_keeps_first_shallowest (fields : List (FieldSpec K × Nat)) :
    dropShadowed fields =
      (fields.zipIdx.filter fun e => decide (FirstShallowest fields e.1 e.2)).map (·.1.1) ∧
    ((dropShadowed fields).map (·.field.name)).Nodup ∧
    ∀ name, name ∈ (dropShadowed fields).map (·.field.name) ↔
      name ∈ fields.map (·.1.field.name) := by
  have hpass := passed_foldl (shallowestDepth fields) fields
  rw [dropShadowed_eq_foldl, ← hpass.seen]
  refine ⟨hpass.kept.trans ?_, hpass.nodup, fun name => ?_⟩
  · congr 1
    apply List.filter_congr
    rintro ⟨p, i⟩ hp
    have hmem : p ∈ fields := by
      obtain ⟨-, -, hget⟩ := List.mem_zipIdx hp
      exact hget ▸ List.getElem_mem _
    exact decide_eq_decide.mpr (firstAtDepth_shallowest_iff hmem i)
  · rw [hpass.mem_seen]
    constructor
    · rintro ⟨q, hq, rfl, -⟩
      exact List.mem_map.mpr ⟨q, hq, rfl⟩
    · intro hname
      obtain ⟨q, hq, rfl⟩ := List.mem_map.mp hname
      exact (shallowestDepth_spec hq).1

example :
    ((dropShadowed [(⟨{ name := "Name", wire := "a", kind := .scalar }, ()⟩, 1),
        (⟨{ name := "X", wire := "b", kind := .scalar }, ()⟩, 0),
        (⟨{ name := "Name", wire := "c", kind := .scalar }, ()⟩, 0),
        (⟨{ name := "Name", wire := "d", kind := .scalar }, ()⟩, 0)]).map (·.field.wire)) =
      ["b", "c"] := by
  decide +kernel

end EntityQuery
