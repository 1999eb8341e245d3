import EntityQuery.Compiled.Access
import EntityQuery.Compiled.Inspect

/-!
# Setting an identifier and reading it back

Setting the identifier of an instance, when the identifier field has no setter, assigns the
field through its index path: the embedded structs on the way are entered, through their
pointers, and the field is set to the identifier converted to the field's type. Reading follows
the same path.

For an entity read from compiled types, every field's index path runs through embedded structs
and pointers to structs only (`Universe.FieldPath`): the walk over the visible fields enters no
other field (`walkFields_fieldPath`), and the entity keeps the paths it finds
(`Reflector.inspect_fieldPath`). Along such a path writing and reading agree
(`alongPath_setField`): when a pointer on the way is nil, setting fails and reading finds
nothing; otherwise setting changes only the field at the end of the path, which then reads as
the value set, and every field on a path apart from it reads as before.

So for an identifier of a string kind, or a pointer to one (`Universe.HoldsText`), setting
either fails on a nil embedded pointer, where the identifier reads as empty, or succeeds, after
which the identifier reads back as set and every other field is unchanged; for an identifier of
any other type setting fails (`identifier_set_reads_back`). A failed setting returns no
instance: the one given is left as it was. Reading formats the value it finds and consults no
method of its type.
-/
set_option autoImplicit false

namespace EntityQuery

/-! ### Values -/

namespace Value

theorem lookup_filter_of_ne (fs : List (Nat × Value)) {i j : Nat} (h : j ≠ i) :
    (fs.filter (·.1 != i)).lookup j = fs.lookup j := by
  induction fs with
  | nil => rfl
  | cons p fs ih =>
    obtain ⟨k, w⟩ := p
    by_cases hk : k = i
    · subst hk
      have hjk : (j == k) = false := by simpa using h
      simp [List.lookup_cons, hjk, ih]
    · simp [hk, List.lookup_cons, ih]

theorem lookup_filter_self (fs : List (Nat × Value)) (i : Nat) :
    (fs.filter (·.1 != i)).lookup i = none := by
  rw [List.lookup_eq_none_iff]
  intro p hp
  have hne := (List.mem_filter.mp hp).2
  simp only [bne_iff_ne, ne_eq] at hne ⊢
  exact Ne.symm hne

@[simp] theorem field?_setField_self (v : Value) (i : Nat) (x : Value) :
    (v.setField i x).field? i = some x := by
  cases v <;> simp [setField, field?, List.lookup_append, lookup_filter_self]

theorem field?_setField_of_ne (v : Value) {i j : Nat} (x : Value) (h : j ≠ i) :
    (v.setField i x).field? j = v.field? j := by
  have hji : (j == i) = false := by simpa using h
  have hone : [(i, x)].lookup j = none := by simp [List.lookup_cons, hji]
  cases v <;> simp [setField, field?, List.lookup_append, lookup_filter_of_ne _ h, hone,
    Option.or_none]

end Value

/-! ### Index paths -/

namespace Universe

variable (u : Universe)

/-- The type a field of type `ft` leads into when it is an embedded struct on an index path: the
struct a pointer points to, or the field's own type. -/
def stepInto (ft : TypeExpr) : TypeExpr := if u.kindOf ft == .pointer then u.elemOf ft else ft

/-- The struct type that the embedded fields at `front` lead to from `t`. -/
def typeAt (t : TypeExpr) : List Nat → TypeExpr
  | [] => t
  | j :: rest => typeAt (u.stepInto (u.fieldType t j)) rest

/-- The type of the field at an index path, as the path's types give it. -/
def fieldTypeAt (t : TypeExpr) : List Nat → TypeExpr
  | [] => t
  | [i] => u.fieldType t i
  | j :: rest => fieldTypeAt (u.stepInto (u.fieldType t j)) rest

/-- The embedded fields at `front` are structs or pointers to structs. -/
def Embeds (t : TypeExpr) : List Nat → Prop
  | [] => True
  | j :: rest =>
    (u.kindOf (u.fieldType t j) = .pointer → u.kindOf (u.elemOf (u.fieldType t j)) = .struct) ∧
      Embeds (u.stepInto (u.fieldType t j)) rest

/-- Two index paths lead to different fields: neither extends the other. -/
def Apart (q p : List Nat) : Prop := ¬ q.IsPrefix p ∧ ¬ p.IsPrefix q

variable {u}

theorem fieldTypeAt_append (t : TypeExpr) (front : List Nat) (i : Nat) :
    u.fieldTypeAt t (front ++ [i]) = u.fieldType (u.typeAt t front) i := by
  induction front generalizing t with
  | nil => rfl
  | cons j rest ih =>
    cases rest with
    | nil => rfl
    | cons k rest' => exact ih _

theorem embeds_append {t : TypeExpr} {front : List Nat} {j : Nat} :
    u.Embeds t (front ++ [j]) ↔ u.Embeds t front ∧
      (u.kindOf (u.fieldType (u.typeAt t front) j) = .pointer →
        u.kindOf (u.elemOf (u.fieldType (u.typeAt t front) j)) = .struct) := by
  induction front generalizing t with
  | nil => simp [Embeds, typeAt]
  | cons k rest ih => simp [Embeds, typeAt, ih, and_assoc]

theorem apart_cons_cons {j : Nat} {q p : List Nat} (h : Apart (j :: q) (j :: p)) : Apart q p :=
  ⟨fun hq => h.1 (List.prefix_cons_inj _ |>.mpr hq),
    fun hp => h.2 (List.prefix_cons_inj _ |>.mpr hp)⟩

theorem typeAt_append (t : TypeExpr) (front : List Nat) (j : Nat) :
    u.typeAt t (front ++ [j]) = u.stepInto (u.fieldType (u.typeAt t front) j) := by
  induction front generalizing t with
  | nil => rfl
  | cons k rest ih => exact ih _

theorem elem?_of_kindOf_pointer {t : TypeExpr} (h : u.kindOf t = .pointer) :
    u.elem? t = some (u.elemOf t) := by
  unfold kindOf at h
  unfold elemOf elem?
  split at h <;> simp_all

/-! ### The visible fields lie on such paths -/

variable (u) in
/-- An index path the walk over the visible fields of `t` can give: embedded structs or pointers
to structs, then the field, no more levels deep than the walk goes. -/
def FieldPath (t : TypeExpr) (p : List Nat) : Prop :=
  ∃ front i, p = front ++ [i] ∧ u.Embeds t front ∧ front.length ≤ u.weight

end Universe

namespace FieldWalk

/-- Hiding a field changes at most its name. -/
theorem exists_of_mem_hide {w : FieldWalk} {i : Nat} {g : VisibleField}
    (h : g ∈ (w.hide i).fields.toList) :
    ∃ g0 ∈ w.fields.toList, ∃ name, g = { g0 with name := name } := by
  simp only [hide, Array.toList_modify] at h
  obtain ⟨j, hj, rfl⟩ := List.mem_iff_getElem.mp h
  have hj' : j < w.fields.toList.length := by simpa using hj
  refine ⟨w.fields.toList[j], List.getElem_mem hj', ?_⟩
  rw [List.getElem_modify]
  split
  · exact ⟨"", rfl⟩
  · exact ⟨_, rfl⟩

/-- Meeting a field adds it at most, and changes at most the names of the fields met before. -/
theorem mem_meet {w : FieldWalk} {f g : VisibleField} (h : g ∈ (w.meet f).fields.toList) :
    g = f ∨ ∃ g0 ∈ w.fields.toList, ∃ name, g = { g0 with name := name } := by
  have keep : ∀ w' : FieldWalk, g ∈ (w'.fields.push f).toList → g = f ∨ g ∈ w'.fields.toList := by
    intro w' hg
    simp only [Array.toList_push, List.mem_append, List.mem_singleton] at hg
    exact hg.symm
  unfold meet at h
  split at h
  · rcases keep w h with rfl | hg
    · exact .inl rfl
    · exact .inr ⟨g, hg, _, rfl⟩
  · -- the field hides the one met before, or both hide each other, or it is hidden
    dsimp only at h
    split at h
    · exact .inr (exists_of_mem_hide h)
    split at h
    · rcases keep _ h with rfl | hg
      · exact .inl rfl
      · exact .inr (exists_of_mem_hide hg)
    · exact .inr ⟨g, h, _, rfl⟩

end FieldWalk

namespace Universe

variable {u : Universe}

/-- Every field the walk finds below the struct at `pre` lies on a field path of `root`. The
induction is on the walk's depth; within a level the fold keeps the invariant, and an embedded
struct is entered with its position added to `pre`, one level deeper. -/
theorem walkFields_fieldPath (root : TypeExpr) : ∀ (fuel : Nat) (t : TypeExpr) (pre : List Nat)
    (visiting : List TypeExpr) (w : FieldWalk), u.typeAt root pre = t → u.Embeds root pre →
    pre.length + fuel ≤ u.weight + 1 → (∀ g ∈ w.fields.toList, u.FieldPath root g.index) →
    ∀ g ∈ (u.walkFields fuel t pre visiting w).fields.toList, u.FieldPath root g.index := by
  intro fuel
  induction fuel with
  | zero =>
    intro t pre visiting w _ _ _ hw
    simpa [walkFields] using hw
  | succ fuel ih =>
    intro t pre visiting w ht hemb hlen hw
    simp only [walkFields]
    split
    · exact hw
    refine List.foldlRecOn (motive := fun w : FieldWalk =>
      ∀ g ∈ w.fields.toList, u.FieldPath root g.index) _ _ hw ?_
    rintro w' hw' ⟨f, i⟩ hp
    have hf : u.fieldType t i = f.type := by
      rw [fieldType, List.mk_mem_zipIdx_iff_getElem?.mp hp]
      rfl
    have hpath : u.FieldPath root (pre ++ [i]) := ⟨pre, i, rfl, hemb, by omega⟩
    have hmet : ∀ g ∈ (w'.meet ⟨f.name, f.type, f.tag, f.embedded, pre ++ [i]⟩).fields.toList,
        u.FieldPath root g.index := by
      intro g hg
      rcases FieldWalk.mem_meet hg with rfl | ⟨g0, hg0, _, rfl⟩
      · exact hpath
      · exact hw' g0 hg0
    -- an embedded struct, reached through a pointer or not, is where the path leads next
    have hinner : u.stepInto f.type =
        if u.kindOf f.type == .pointer then (u.elem? f.type).getD f.type else f.type := by
      unfold stepInto
      split
      · rename_i hptr
        rw [elem?_of_kindOf_pointer (by simpa using hptr)]
        rfl
      · rfl
    dsimp only
    rw [← hinner]
    split
    · split
      · rename_i hstruct
        apply ih _ (pre ++ [i]) _ _ _ _ (by simp; omega) hmet
        · rw [typeAt_append, ht, hf]
        · refine embeds_append.mpr ⟨hemb, fun hptr => ?_⟩
          rw [ht, hf] at hptr ⊢
          simpa [stepInto, hptr] using hstruct
      · exact hmet
    · exact hmet

/-- Every visible field of a struct type lies on a field path of it. -/
theorem visibleFields_fieldPath (t : TypeExpr) :
    ∀ vf ∈ u.visibleFields t, u.FieldPath t vf.index := by
  intro vf hvf
  have hmem : vf ∈ (u.walkFields (u.weight + 1) t [] [] {}).fields.toList :=
    (List.mem_filter.mp hvf).1
  exact walkFields_fieldPath t _ t [] [] {} rfl trivial (by simp) (by simp) vf hmem

/-! ### Reading and writing along a path -/

variable (u) in
/-- The value an index path enters at the field `j` of `v`: the struct a pointer there points to,
or the field's own value. -/
def Enters (t : TypeExpr) (v : Value) (j : Nat) (y : Value) : Prop :=
  if u.kindOf (u.fieldType t j) = .pointer then
    (v.field? j).getD (u.zeroOf (u.fieldType t j)) = .ptr y
  else (v.field? j).getD (u.zeroOf (u.fieldType t j)) = y

/-- Reading a field depends only on the value of the first field of its path. -/
theorem fieldAt_cons_congr {t : TypeExpr} {v w : Value} {j : Nat} (h : v.field? j = w.field? j)
    (q : List Nat) (m : Nat) : u.fieldAt m t v (j :: q) = u.fieldAt m t w (j :: q) := by
  cases m with
  | zero => rfl
  | succ m => simp only [fieldAt, h]

/-- One step of reading below an embedded field that is a struct or a pointer to one. -/
theorem fieldAt_succ_cons {t : TypeExpr} {v : Value} {j : Nat} {q : List Nat} (hq : q ≠ [])
    (hemb : u.kindOf (u.fieldType t j) = .pointer →
      u.kindOf (u.elemOf (u.fieldType t j)) = .struct) (m : Nat) :
    u.fieldAt (m + 1) t v (j :: q) =
      if u.kindOf (u.fieldType t j) = .pointer then
        match (v.field? j).getD (u.zeroOf (u.fieldType t j)) with
        | .ptr x => u.fieldAt m (u.elemOf (u.fieldType t j)) x q
        | _ => none
      else u.fieldAt m (u.fieldType t j) ((v.field? j).getD (u.zeroOf (u.fieldType t j))) q := by
  cases q with
  | nil => exact absurd rfl hq
  | cons k q =>
    by_cases hp : u.kindOf (u.fieldType t j) = .pointer
    · rw [if_pos hp]
      -- both sides match on the field's value, each by a matcher of its own
      cases hfv : (v.field? j).getD (u.zeroOf (u.fieldType t j)) <;>
        simp only [fieldAt, hp, hemb hp, hfv, beq_self_eq_true, Bool.and_self, if_true]
    · simp [fieldAt, hp]

theorem fieldAt_succ_single (t : TypeExpr) (v : Value) (i m : Nat) :
    u.fieldAt (m + 1) t v [i] = some (u.fieldType t i, (v.field? i).getD (u.zeroOf (u.fieldType t i))) :=
  rfl

/-- Reading goes on in the value the path enters. -/
theorem fieldAt_enters {t : TypeExpr} {v y : Value} {j : Nat} {q : List Nat} (hq : q ≠ [])
    (hemb : u.kindOf (u.fieldType t j) = .pointer →
      u.kindOf (u.elemOf (u.fieldType t j)) = .struct)
    (hy : u.Enters t v j y) (m : Nat) :
    u.fieldAt (m + 1) t v (j :: q) = u.fieldAt m (u.stepInto (u.fieldType t j)) y q := by
  rw [fieldAt_succ_cons hq hemb]
  unfold Enters at hy
  by_cases hp : u.kindOf (u.fieldType t j) = .pointer
  · rw [if_pos hp] at hy
    simp [hp, hy, stepInto]
  · rw [if_neg hp] at hy
    simp [hp, hy, stepInto]

/-- Reading finds nothing past a nil pointer to an embedded struct. -/
theorem fieldAt_nil_pointer {t : TypeExpr} {v : Value} {j : Nat} {q : List Nat} (hq : q ≠ [])
    (hp : u.kindOf (u.fieldType t j) = .pointer)
    (hemb : u.kindOf (u.elemOf (u.fieldType t j)) = .struct)
    (hnil : ∀ y, (v.field? j).getD (u.zeroOf (u.fieldType t j)) ≠ .ptr y) (m : Nat) :
    u.fieldAt (m + 1) t v (j :: q) = none := by
  rw [fieldAt_succ_cons hq (fun _ => hemb), if_pos hp]
  split
  · rename_i y hy
    exact absurd hy (hnil y)
  · rfl

variable (stop : TypeExpr → AccessError)

/-- One step of a write that succeeds: the value the path enters at its first field is written,
and put back in its place. -/
theorem alongPath_cons_ok {t : TypeExpr} {v v' : Value} {j : Nat} {rest : List Nat} {n : Nat}
    {k : TypeExpr → Value → Except AccessError Value}
    (h : u.alongPath stop (n + 1) t v (j :: rest) k = .ok v') :
    ∃ y y', u.Enters t v j y ∧
      u.alongPath stop n (u.stepInto (u.fieldType t j)) y rest k = .ok y' ∧
      v' = v.setField j (if u.kindOf (u.fieldType t j) = .pointer then .ptr y' else y') := by
  simp only [alongPath] at h
  split at h
  · rename_i hp
    have hp : u.kindOf (u.fieldType t j) = .pointer := by simpa using hp
    split at h
    · rename_i y hy
      cases hrec : u.alongPath stop n (u.elemOf (u.fieldType t j)) y rest k with
      | error e => rw [hrec] at h; cases h
      | ok y' =>
        rw [hrec] at h
        cases h
        exact ⟨y, y', by simpa [Enters, hp] using hy, by simpa [stepInto, hp] using hrec,
          by simp [hp]⟩
    · cases h
  · rename_i hp
    have hp : u.kindOf (u.fieldType t j) ≠ .pointer := by simpa using hp
    cases hrec : u.alongPath stop n (u.fieldType t j)
        ((v.field? j).getD (u.zeroOf (u.fieldType t j))) rest k with
    | error e => rw [hrec] at h; cases h
    | ok y' =>
      rw [hrec] at h
      cases h
      exact ⟨(v.field? j).getD (u.zeroOf (u.fieldType t j)), y', by simp [Enters, hp],
        by simpa [stepInto, hp] using hrec, by simp [hp]⟩

/-- One step of a write that fails: a nil pointer at the first field, or a failure below it. -/
theorem alongPath_cons_error {t : TypeExpr} {v : Value} {j : Nat} {rest : List Nat} {n : Nat}
    {k : TypeExpr → Value → Except AccessError Value} {e : AccessError}
    (h : u.alongPath stop (n + 1) t v (j :: rest) k = .error e) :
    (u.kindOf (u.fieldType t j) = .pointer ∧
      ∀ y, (v.field? j).getD (u.zeroOf (u.fieldType t j)) ≠ .ptr y) ∨
    ∃ y, u.Enters t v j y ∧ u.alongPath stop n (u.stepInto (u.fieldType t j)) y rest k = .error e := by
  simp only [alongPath] at h
  split at h
  · rename_i hp
    have hp : u.kindOf (u.fieldType t j) = .pointer := by simpa using hp
    split at h
    · rename_i y hy
      cases hrec : u.alongPath stop n (u.elemOf (u.fieldType t j)) y rest k with
      | error e' =>
        rw [hrec] at h
        cases h
        exact .inr ⟨y, by simpa [Enters, hp] using hy, by simpa [stepInto, hp] using hrec⟩
      | ok y' => rw [hrec] at h; cases h
    · rename_i hnil
      exact .inl ⟨hp, hnil⟩
  · rename_i hp
    have hp : u.kindOf (u.fieldType t j) ≠ .pointer := by simpa using hp
    cases hrec : u.alongPath stop n (u.fieldType t j)
        ((v.field? j).getD (u.zeroOf (u.fieldType t j))) rest k with
    | error e' =>
      rw [hrec] at h
      cases h
      exact .inr ⟨(v.field? j).getD (u.zeroOf (u.fieldType t j)), by simp [Enters, hp],
        by simpa [stepInto, hp] using hrec⟩
    | ok y' => rw [hrec] at h; cases h

variable (i : Nat) (x : Value)

/-- Setting a field fails only on a nil pointer to an embedded struct, where reading the field
finds nothing. -/
theorem alongPath_setField_error {front : List Nat} {t : TypeExpr} {v : Value} {n : Nat}
    {e : AccessError} (hemb : u.Embeds t front) (hn : front.length < n)
    (h : u.alongPath stop n t v front (fun _ sv => .ok (sv.setField i x)) = .error e) (m : Nat) :
    u.fieldAt m t v (front ++ [i]) = none := by
  induction front generalizing t v n m e with
  | nil =>
    obtain ⟨n, rfl⟩ := Nat.exists_eq_add_one.mpr (Nat.zero_lt_of_lt hn)
    cases h
  | cons j rest ih =>
    obtain ⟨n, rfl⟩ := Nat.exists_eq_add_one.mpr (Nat.zero_lt_of_lt hn)
    cases m with
    | zero => rfl
    | succ m =>
      rw [List.cons_append]
      rcases alongPath_cons_error stop h with ⟨hp, hnil⟩ | ⟨y, hy, hrec⟩
      · exact fieldAt_nil_pointer (by simp) hp (hemb.1 hp) hnil m
      · rw [fieldAt_enters (by simp) hemb.1 hy]
        exact ih hemb.2 (by simpa using hn) hrec m

/-- Setting a field changes only that field: afterwards it reads as the value set, and every
field on a path apart from it reads as before. -/
theorem alongPath_setField_ok {front : List Nat} {t : TypeExpr} {v v' : Value} {n : Nat}
    (hemb : u.Embeds t front) (hn : front.length < n)
    (h : u.alongPath stop n t v front (fun _ sv => .ok (sv.setField i x)) = .ok v') :
    (∀ m, front.length < m →
      u.fieldAt m t v' (front ++ [i]) = some (u.fieldType (u.typeAt t front) i, x)) ∧
    ∀ q, Apart q (front ++ [i]) → ∀ m, u.fieldAt m t v' q = u.fieldAt m t v q := by
  induction front generalizing t v v' n with
  | nil =>
    obtain ⟨n, rfl⟩ := Nat.exists_eq_add_one.mpr (Nat.zero_lt_of_lt hn)
    cases h
    refine ⟨fun m hm => ?_, fun q hq m => ?_⟩
    · obtain ⟨m, rfl⟩ := Nat.exists_eq_add_one.mpr (Nat.zero_lt_of_lt hm)
      simp [fieldAt_succ_single, typeAt]
    · -- a path apart from `[i]` starts with another field
      obtain ⟨j, q, rfl⟩ : ∃ j q', q = j :: q' := by
        cases q with
        | nil => exact absurd (List.nil_prefix) hq.1
        | cons j q' => exact ⟨j, q', rfl⟩
      have hj : j ≠ i := by
        rintro rfl
        exact hq.2 (List.prefix_cons_inj _ |>.mpr (List.nil_prefix))
      exact fieldAt_cons_congr (Value.field?_setField_of_ne v _ hj) q m
  | cons j rest ih =>
    obtain ⟨n, rfl⟩ := Nat.exists_eq_add_one.mpr (Nat.zero_lt_of_lt hn)
    obtain ⟨y, y', hy, hrec, rfl⟩ := alongPath_cons_ok stop h
    obtain ⟨hread, hframe⟩ := ih hemb.2 (by simpa using hn) hrec
    -- after the write the path enters the written value
    have hy' : u.Enters t (v.setField j
        (if u.kindOf (u.fieldType t j) = .pointer then .ptr y' else y')) j y' := by
      unfold Enters
      split <;> simp [*]
    refine ⟨fun m hm => ?_, fun q hq m => ?_⟩
    · obtain ⟨m, rfl⟩ := Nat.exists_eq_add_one.mpr (Nat.zero_lt_of_lt hm)
      rw [List.cons_append, fieldAt_enters (by simp) hemb.1 hy']
      exact hread m (by simpa using hm)
    · cases q with
      | nil => exact absurd List.nil_prefix hq.1
      | cons j' q =>
        by_cases hj : j' = j
        · subst hj
          have hne : q ≠ [] := by
            rintro rfl
            exact hq.1 (List.prefix_cons_inj _ |>.mpr List.nil_prefix)
          cases m with
          | zero => rfl
          | succ m =>
            rw [fieldAt_enters hne hemb.1 hy', fieldAt_enters hne hemb.1 hy,
              hframe q (apart_cons_cons hq) m]
        · exact fieldAt_cons_congr (Value.field?_setField_of_ne v _ hj) q m

omit i x in
/-- A write along a path calls its continuation at the struct type the path leads to, and only
there. -/
theorem alongPath_congr {front : List Nat} {t : TypeExpr} {v : Value} {n : Nat}
    (k k' : TypeExpr → Value → Except AccessError Value) (hn : front.length < n)
    (hk : ∀ sv, k (u.typeAt t front) sv = k' (u.typeAt t front) sv) :
    u.alongPath stop n t v front k = u.alongPath stop n t v front k' := by
  induction front generalizing t v n with
  | nil =>
    obtain ⟨n, rfl⟩ := Nat.exists_eq_add_one.mpr (Nat.zero_lt_of_lt hn)
    exact hk v
  | cons j rest ih =>
    obtain ⟨n, rfl⟩ := Nat.exists_eq_add_one.mpr (Nat.zero_lt_of_lt hn)
    have hrest : rest.length < n := by simpa using hn
    simp only [alongPath]
    split
    · rename_i hp
      have hp : u.kindOf (u.fieldType t j) = .pointer := by simpa using hp
      have hk' : ∀ sv, k (u.typeAt (u.elemOf (u.fieldType t j)) rest) sv =
          k' (u.typeAt (u.elemOf (u.fieldType t j)) rest) sv := by
        simpa [typeAt, stepInto, hp] using hk
      split
      · rw [ih hrest hk']
      · rfl
    · rename_i hp
      have hp : u.kindOf (u.fieldType t j) ≠ .pointer := by simpa using hp
      have hk' : ∀ sv, k (u.typeAt (u.fieldType t j) rest) sv =
          k' (u.typeAt (u.fieldType t j) rest) sv := by
        simpa [typeAt, stepInto, hp] using hk
      rw [ih hrest hk']

omit i x in
/-- A write that succeeds had its continuation succeed at the struct type of the path. -/
theorem alongPath_ok_continuation {front : List Nat} {t : TypeExpr} {v v' : Value} {n : Nat}
    {k : TypeExpr → Value → Except AccessError Value} (hn : front.length < n)
    (h : u.alongPath stop n t v front k = .ok v') :
    ∃ sv sv', k (u.typeAt t front) sv = .ok sv' := by
  induction front generalizing t v v' n with
  | nil =>
    obtain ⟨n, rfl⟩ := Nat.exists_eq_add_one.mpr (Nat.zero_lt_of_lt hn)
    exact ⟨v, v', h⟩
  | cons j rest ih =>
    obtain ⟨n, rfl⟩ := Nat.exists_eq_add_one.mpr (Nat.zero_lt_of_lt hn)
    obtain ⟨y, y', -, hrec, -⟩ := alongPath_cons_ok stop h
    exact ih (by simpa using hn) hrec

/-- Writing a field along a path either stops at a nil pointer, where the field reads as
nothing, or sets the field and nothing else. -/
theorem alongPath_setField {front : List Nat} {t : TypeExpr} {v : Value} {n : Nat}
    (hemb : u.Embeds t front) (hn : front.length < n) :
    (∃ e, u.alongPath stop n t v front (fun _ sv => .ok (sv.setField i x)) = .error e ∧
      ∀ m, u.fieldAt m t v (front ++ [i]) = none) ∨
    (∃ v', u.alongPath stop n t v front (fun _ sv => .ok (sv.setField i x)) = .ok v' ∧
      (∀ m, front.length < m →
        u.fieldAt m t v' (front ++ [i]) = some (u.fieldType (u.typeAt t front) i, x)) ∧
      ∀ q, Apart q (front ++ [i]) → ∀ m, u.fieldAt m t v' q = u.fieldAt m t v q) := by
  cases h : u.alongPath stop n t v front (fun _ sv => .ok (sv.setField i x)) with
  | error e => exact .inl ⟨e, rfl, alongPath_setField_error stop i x hemb hn h⟩
  | ok v' => exact .inr ⟨v', rfl, alongPath_setField_ok stop i x hemb hn h⟩

omit i x in
/-- A write whose continuation fails at the struct type of the path fails. -/
theorem alongPath_error_of_continuation {front : List Nat} {t : TypeExpr} {v : Value} {n : Nat}
    {k : TypeExpr → Value → Except AccessError Value} (hn : front.length < n)
    (hk : ∀ sv, ∃ e, k (u.typeAt t front) sv = .error e) :
    ∃ e, u.alongPath stop n t v front k = .error e := by
  cases h : u.alongPath stop n t v front k with
  | error e => exact ⟨e, rfl⟩
  | ok v' =>
    obtain ⟨sv, sv', hok⟩ := alongPath_ok_continuation stop hn h
    obtain ⟨e, herr⟩ := hk sv
    rw [hok] at herr
    cases herr

/-! ### Setting and reading the identifier -/

@[simp] theorem underlying_pointer (t : TypeExpr) : u.underlying (.pointer t) = .pointer t := by
  unfold underlying
  obtain ⟨n, hn⟩ : ∃ n, u.unfoldLimit (.pointer t) = n + 1 :=
    ⟨_, (Nat.succ_pred_eq_of_pos (u.unfoldLimit_pos _)).symm⟩
  rw [hn]
  rfl

@[simp] theorem kindOf_pointer (t : TypeExpr) : u.kindOf (.pointer t) = .pointer := by
  simp [kindOf]

@[simp] theorem elemOf_pointer (t : TypeExpr) : u.elemOf (.pointer t) = t := by
  simp [elemOf, elem?]

@[simp] theorem splitLast_append (front : List Nat) (i : Nat) :
    splitLast (front ++ [i]) = some (front, i) := by
  induction front with
  | nil => rfl
  | cons j rest ih =>
    cases rest with
    | nil => rfl
    | cons k rest' => simp only [List.cons_append] at ih ⊢; simp [splitLast, ih]

variable (u) in
/-- A type the identifier converts to: one of string kind, or a pointer to one. -/
def HoldsText (t : TypeExpr) : Prop :=
  u.kindOf t = .basic .string ∨ (u.kindOf t = .pointer ∧ u.kindOf (u.elemOf t) = .basic .string)

instance (t : TypeExpr) : Decidable (u.HoldsText t) :=
  inferInstanceAs (Decidable (_ ∨ _))

/-- The identifier converts to a type that holds text, as a value that reads back as the
identifier. -/
theorem convertId_of_holdsText {t : TypeExpr} (h : u.HoldsText t) (s : String) :
    ∃ X, u.convertId s t = .ok X ∧
      ∀ n, (u.derefValue (n + 2) t X).map (·.2.display) = some s := by
  rcases h with hstr | ⟨hptr, helem⟩
  · refine ⟨.text s, by simp [convertId, hstr], fun n => ?_⟩
    simp [derefValue, hstr, Value.display]
  · refine ⟨.ptr (.text s), by simp [convertId, hptr, helem], fun n => ?_⟩
    simp [derefValue, hptr, helem, Value.display]

/-- The identifier converts to no other type. -/
theorem convertId_of_not_holdsText {t : TypeExpr} (h : ¬ u.HoldsText t) (s : String) :
    ∃ text, u.convertId s t = .error text := by
  unfold convertId
  split
  · rename_i hstr
    exact absurd (.inl hstr) h
  · rename_i hptr
    split
    · rename_i helem
      exact absurd (.inr ⟨hptr, by simpa using helem⟩) h
    · exact ⟨_, rfl⟩
  · exact ⟨_, rfl⟩

/-- Assigning an identifier that converts to the field's type writes it along the field's
path. -/
theorem assignId_of_convertId (what : String) {s : String} {T : TypeExpr} {x X : Value} {front : List Nat}
    {i : Nat} (hemb : u.Embeds T front) (hn : front.length < u.stepsFor T)
    (hX : u.convertId s (u.fieldType (u.typeAt T front) i) = .ok X) :
    (∃ e, u.assignId what s T x (front ++ [i]) = .error e ∧
      ∀ m, u.fieldAt m T x (front ++ [i]) = none) ∨
    (∃ x', u.assignId what s T x (front ++ [i]) = .ok x' ∧
      (∀ m, front.length < m →
        u.fieldAt m T x' (front ++ [i]) = some (u.fieldType (u.typeAt T front) i, X)) ∧
      ∀ q, Apart q (front ++ [i]) → ∀ m, u.fieldAt m T x' q = u.fieldAt m T x q) := by
  unfold assignId
  rw [splitLast_append]
  dsimp only
  rw [alongPath_congr _ _ (fun _ sv => .ok (sv.setField i X)) hn (fun sv => by simp only [hX]; rfl)]
  exact alongPath_setField _ i X hemb hn

/-- Assigning an identifier that does not convert to the field's type fails. -/
theorem assignId_of_convertId_error (what : String) {s text : String} {T : TypeExpr} {x : Value}
    {front : List Nat} {i : Nat} (hn : front.length < u.stepsFor T)
    (hX : u.convertId s (u.fieldType (u.typeAt T front) i) = .error text) :
    ∃ e, u.assignId what s T x (front ++ [i]) = .error e := by
  unfold assignId
  rw [splitLast_append]
  dsimp only
  exact alongPath_error_of_continuation _ hn fun sv => ⟨.failed (what ++ ": " ++ text), by simp [hX]⟩

/-- Without a setter the identifier of a pointer to a struct is assigned through its index
path. -/
theorem writeId_of_no_setter {K : Type} {d : Descriptor K} {f : Field}
    (hid : d.idField? = some f) (hsetter : f.hasSetter = false) (hne : f.index ≠ [])
    {T : TypeExpr} (hT : u.kindOf T = .struct) (x : Value) (s : String) :
    u.writeId d ⟨some (.pointer T), .ptr x⟩ s = do
      let x' ← u.assignId ("set id of " ++ d.name) s T x f.index
      return ⟨some (.pointer T), .ptr x'⟩ := by
  simp [writeId, hid, hsetter, hne, hT]

/-- The identifier of a pointer to a struct is what its index path holds, pointers followed. -/
theorem readId_pointer {K : Type} {d : Descriptor K} {f : Field} (hid : d.idField? = some f)
    (hne : f.index ≠ []) {T : TypeExpr} (hT : u.kindOf T = .struct) (x : Value) :
    u.readId d ⟨some (.pointer T), .ptr x⟩ =
      .ok ((((u.fieldAt (u.stepsFor (.pointer T)) T x f.index).bind fun p =>
        u.derefValue (u.stepsFor (.pointer T)) p.1 p.2).map (·.2.display)).getD "") := by
  obtain ⟨n, hn⟩ : ∃ n, u.stepsFor (.pointer T) = n + 2 :=
    ⟨(TypeExpr.pointer T).size + u.weight + 6, by unfold stepsFor; omega⟩
  simp [readId, readField, hid, hne, hn, structOf, hT, Functor.map, Except.map]

end Universe

/-! ### The identifier of an inspected entity -/

/-- A fold in which each step that succeeds keeps an invariant keeps it to the end. -/
theorem foldlM_invariant {α β ε : Type} {g : β → α → Except ε β} (I : β → Prop)
    (l : List α) (hg : ∀ b a b', I b → a ∈ l → g b a = .ok b' → I b') :
    ∀ b res, I b → l.foldlM g b = .ok res → I res := by
  induction l with
  | nil =>
    intro b res hb h
    cases h
    exact hb
  | cons a l ih =>
    intro b res hb h
    rw [List.foldlM_cons] at h
    cases hstep : g b a with
    | error e => rw [hstep] at h; cases h
    | ok b' =>
      rw [hstep] at h
      have hl : ∀ c a' c', I c → a' ∈ l → g c a' = .ok c' → I c' :=
        fun c a' c' hc ha => hg c a' c' hc (List.mem_cons_of_mem _ ha)
      exact ih hl b' res (hg b a b' hb List.mem_cons_self hstep) h

namespace Reflector

/-- An entity read from compiled types is a struct, and each of its fields keeps the index path
of a visible field. -/
theorem inspect_fieldPath {r : Reflector} {key : TypeExpr} {S : Shape (Option TypeExpr)}
    (h : r.inspect (some key) = .ok (some S)) :
    r.scope.kindOf (r.base key) = .struct ∧
      ∀ fs ∈ S.fields, r.scope.FieldPath (r.base key) fs.field.index := by
  unfold inspect at h
  dsimp only at h
  split at h
  · cases h
  rename_i hent
  refine ⟨by simp_all [isEntityType], ?_⟩
  simp only [bind, Except.bind] at h
  split at h
  · cases h
  rename_i fields hfold
  cases h
  refine foldlM_invariant (fun acc => ∀ fs ∈ acc, r.scope.FieldPath (r.base key) fs.field.index)
    _ ?_ [] fields (by simp) hfold
  intro acc sf acc' hacc hsf hstep
  have hpath := Universe.visibleFields_fieldPath _ sf hsf
  -- a field is left out, or added with the index path it was found at
  split at hstep
  · cases hstep
    exact hacc
  split at hstep
  · cases hstep
    exact hacc
  split at hstep
  · cases hstep
    exact hacc
  split at hstep
  · cases hstep
  cases hstep
  intro fs hfs
  rcases List.mem_append.mp hfs with hfs | hfs
  · exact hacc fs hfs
  · rw [List.mem_singleton.mp hfs]
    exact hpath

end Reflector

/-- For an entity read from compiled types whose identifier field has no setter, and a pointer to
a struct of its type: when the identifier field holds text (a string kind, or a pointer to one),
setting the identifier either fails, on a nil pointer to an embedded struct on the field's path,
where the identifier reads as empty, or succeeds, after which the identifier reads as set and
every field on a path apart from the identifier's reads as before; for a field of any other type
setting fails. A failed setting gives no instance: the one given stays as it was. The identifier
reads in default formatting of a type without `Error` or `String` methods (`Value.display`). -/
theorem identifier_set_reads_back (r : Reflector) {key : TypeExpr} {S : Shape (Option TypeExpr)}
    (hS : r.inspect (some key) = .ok (some S)) (d : Descriptor (Option TypeExpr))
    (hfields : d.fields = S.fields.map (·.field)) {f : Field} (hid : d.idField? = some f)
    (hsetter : f.hasSetter = false) (x : Value) (s : String) :
    let u := r.scope
    let T := r.base key
    let inst : Instance := ⟨some (.pointer T), .ptr x⟩
    (u.HoldsText (u.fieldTypeAt T f.index) →
      (∃ e, u.writeId d inst s = .error e ∧ (∀ m, u.fieldAt m T x f.index = none) ∧
        u.readId d inst = .ok "") ∨
      (∃ x', u.writeId d inst s = .ok ⟨some (.pointer T), .ptr x'⟩ ∧
        u.readId d ⟨some (.pointer T), .ptr x'⟩ = .ok s ∧
        ∀ q, Universe.Apart q f.index → ∀ m, u.fieldAt m T x' q = u.fieldAt m T x q)) ∧
    (¬ u.HoldsText (u.fieldTypeAt T f.index) → ∃ e, u.writeId d inst s = .error e) := by
  intro u T inst
  obtain ⟨hT, hpaths⟩ := Reflector.inspect_fieldPath hS
  -- the identifier is one of the fields the shape reports, on a path through embedded structs
  obtain ⟨fs, hfs, rfl⟩ : ∃ fs ∈ S.fields, fs.field = f := by
    have hmem : f ∈ d.fields := List.mem_of_find?_eq_some hid
    rw [hfields] at hmem
    simpa using hmem
  obtain ⟨front, i, hidx, hemb, hdepth⟩ := hpaths fs hfs
  replace hdepth : front.length ≤ u.weight := hdepth
  have hne : fs.field.index ≠ [] := by simp [hidx]
  have hn : front.length < u.stepsFor T := by unfold Universe.stepsFor; omega
  have hn' : front.length < u.stepsFor (.pointer T) := by unfold Universe.stepsFor; omega
  have hwrite := Universe.writeId_of_no_setter hid hsetter hne hT x s
  have hread := Universe.readId_pointer hid hne hT
  rw [hidx] at hwrite hread ⊢
  rw [Universe.fieldTypeAt_append]
  refine ⟨fun htext => ?_, fun htext => ?_⟩
  · obtain ⟨X, hX, hshow⟩ := Universe.convertId_of_holdsText htext s
    rcases Universe.assignId_of_convertId ("set id of " ++ d.name) (x := x) hemb hn hX with
      ⟨e, he, hnone⟩ | ⟨x', hok, hat, hframe⟩
    · refine .inl ⟨e, by rw [hwrite, he]; rfl, hnone, ?_⟩
      rw [hread x, hnone]
      rfl
    · refine .inr ⟨x', by rw [hwrite, hok]; rfl, ?_, hframe⟩
      obtain ⟨n, hsteps⟩ : ∃ n, u.stepsFor (.pointer T) = n + 2 :=
        ⟨(TypeExpr.pointer T).size + u.weight + 6, by unfold Universe.stepsFor; omega⟩
      rw [hread x', hat _ hn', Option.bind_some, hsteps, hshow n]
      rfl
  · obtain ⟨text, hX⟩ := Universe.convertId_of_not_holdsText htext s
    obtain ⟨e, he⟩ := Universe.assignId_of_convertId_error ("set id of " ++ d.name) (x := x) hn hX
    exact ⟨e, by rw [hwrite, he]; rfl⟩

namespace Reflector

/-- An `Account` embedding a pointer to a `Base` that holds the identifier. -/
def accounts : Reflector where
  scope := { packages := [{ path := "acme/crm", name := "crm", decls := [
    { name := "Base",
      type := .struct (.cons "ID" (.basic .string) "soql:\"Id,id\"" false .nil) },
    { name := "Account",
      type := .struct (.cons "Base" (.pointer (.plain "acme/crm" "Base")) "" true
        (.cons "Name" (.basic .string) "" false .nil)) }] }] }

end Reflector

/-- The identifier of an account sits in its embedded base, reached through a pointer; setting
it on an account whose base is there reads back. -/
theorem identifier_set_reads_back_account :
    let r := Reflector.accounts
    let key : TypeExpr := .plain "acme/crm" "Account"
    let T := r.base key
    let x : Value := .record [(0, .ptr (.record [(0, .text "old")])), (1, .text "Acme")]
    ∃ S f, r.inspect (some key) = .ok (some S) ∧
      (Descriptor.ofShape (some key) S).idField? = some f ∧ f.hasSetter = false ∧
      ∃ x', r.scope.writeId (Descriptor.ofShape (some key) S) ⟨some (.pointer T), .ptr x⟩ "001" =
          .ok ⟨some (.pointer T), .ptr x'⟩ ∧
        r.scope.readId (Descriptor.ofShape (some key) S) ⟨some (.pointer T), .ptr x'⟩ = .ok "001" := by
  intro r key T x
  -- the reflector reads the entity, and writing on this instance does not stop on the way
  have htest : ((r.inspect (some key)).toOption.join.any fun S =>
      (Descriptor.ofShape (some key) S).idField?.any fun f =>
        !f.hasSetter && decide (r.scope.HoldsText (r.scope.fieldTypeAt T f.index)) &&
          (r.scope.writeId (Descriptor.ofShape (some key) S) ⟨some (.pointer T), .ptr x⟩
            "001").isOk) = true := by
    decide +kernel
  obtain ⟨S, hjoin, hshape⟩ := (Option.any_eq_true _ _).mp htest
  have hS : r.inspect (some key) = .ok (some S) := by
    cases hinspect : r.inspect (some key) with
    | error e => rw [hinspect] at hjoin; cases hjoin
    | ok o =>
      rw [hinspect] at hjoin
      change o = some S at hjoin
      rw [hjoin]
  obtain ⟨f, hid, hfield⟩ := (Option.any_eq_true _ _).mp hshape
  simp only [Bool.and_eq_true, Bool.not_eq_true', decide_eq_true_eq] at hfield
  obtain ⟨⟨hsetter, hholds⟩, hwrites⟩ := hfield
  obtain ⟨hset, -⟩ := identifier_set_reads_back r hS _ rfl hid hsetter x "001"
  rcases hset hholds with ⟨e, he, -⟩ | ⟨x', hok, hread, -⟩
  · rw [he] at hwrites
    cases hwrites
  · exact ⟨S, f, hS, hid, hsetter, x', hok, hread⟩

end EntityQuery
