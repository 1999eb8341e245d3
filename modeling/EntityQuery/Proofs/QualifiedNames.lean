import Mathlib.Data.List.Induction
import EntityQuery.Universe.TypeId
/-!
# Reading qualified type names

A qualified name is split at its last dot. Every text with a dot is, in exactly one way, a
text, the dot and a text with no dot (`exists_last_dot`, `eq_of_last_dot`), and `TypeId.parse?`
reads it as that path and that name unless one of the two is empty (`parse?_at_last_dot`).

So reading fails exactly on a text with no dot or whose last dot is its first or its last
character, and what it reads is a non-empty path and a non-empty name without dots that
write back to the text read. With `TypeId.parse_render`, reading and writing are inverse on the
names whose path and name are not empty and whose name has no dot
(`parse_splits_at_last_dot_and_reads_back`).
-/

set_option autoImplicit false

namespace EntityQuery.TypeId

/-- A text with no dot has no last dot. -/
theorem lastDot?_eq_none {cs : List Char} (h : '.' ∉ cs) : lastDot? cs = none := by
  simp [lastDot?, zipIdx_filter_dot_eq_nil h]

/-- A text with a dot is a text, its last dot, and a text with no dot. -/
theorem exists_last_dot {cs : List Char} (h : '.' ∈ cs) :
    ∃ pre post, cs = pre ++ '.' :: post ∧ '.' ∉ post := by
  induction cs using List.reverseRecOn with
  | nil => simp at h
  | append_singleton xs c ih =>
    by_cases hc : c = '.'
    · exact ⟨xs, [], by simp [hc], by simp⟩
    · -- the last character is no dot, so the dot is in what comes before it
      have hxs : '.' ∈ xs := by
        rcases List.mem_append.mp h with hx | hx
        · exact hx
        · exact absurd (List.mem_singleton.mp hx).symm hc
      obtain ⟨pre, post, rfl, hpost⟩ := ih hxs
      refine ⟨pre, post ++ [c], by simp, ?_⟩
      simp only [List.mem_append, List.mem_singleton, not_or]
      exact ⟨hpost, fun hdot => hc hdot.symm⟩

/-- The last dot splits a text in one way only. -/
theorem eq_of_last_dot {pre post pre' post' : List Char} (hpost : '.' ∉ post)
    (hpost' : '.' ∉ post') (h : pre ++ '.' :: post = pre' ++ '.' :: post') :
    pre = pre' ∧ post = post' := by
  have hlen : pre.length = pre'.length := by
    have hdot : lastDot? (pre ++ '.' :: post) = some pre.length := lastDot?_append_dot hpost
    rw [h, lastDot?_append_dot hpost'] at hdot
    exact (Option.some.inj hdot).symm
  obtain ⟨hpre, htail⟩ := List.append_inj h hlen
  exact ⟨hpre, (List.cons.inj htail).2⟩

/-- Reading a text split at its last dot: the path before it and the name after it, unless
either is empty. -/
theorem parse?_at_last_dot {q : String} {pre post : List Char}
    (hq : q.toList = pre ++ '.' :: post) (hpost : '.' ∉ post) :
    parse? q = if pre = [] ∨ post = [] then none
      else some ⟨String.ofList pre, String.ofList post⟩ := by
  have hlen : q.toList.length = pre.length + 1 + post.length := by
    simp [hq]; omega
  unfold parse?
  simp only [hq, lastDot?_append_dot hpost]
  by_cases hpre : pre = []
  · simp [hpre]
  · by_cases hnil : post = []
    · simp [hnil]
    · have hlen' : pre.length + 1 ≠ pre.length + 1 + post.length := by
        have : post.length ≠ 0 := by simpa using hnil
        omega
      simp [hpre, hnil, List.drop_append]

/-- A text with no dot is read as nothing. -/
theorem parse?_of_no_dot {q : String} (h : '.' ∉ q.toList) : parse? q = none := by
  simp [parse?, lastDot?_eq_none h]

/-- The last dot is the first character exactly when nothing stands before it. -/
theorem last_dot_first_iff {pre post : List Char} (hpost : '.' ∉ post) :
    (∃ rest, pre ++ '.' :: post = '.' :: rest ∧ '.' ∉ rest) ↔ pre = [] := by
  constructor
  · rintro ⟨rest, h, hrest⟩
    exact (eq_of_last_dot hpost hrest (h : pre ++ '.' :: post = [] ++ '.' :: rest)).1
  · rintro rfl
    exact ⟨post, rfl, hpost⟩

/-- The last dot is the last character exactly when nothing stands after it. -/
theorem last_dot_last_iff {pre post : List Char} (hpost : '.' ∉ post) :
    (pre ++ '.' :: post).getLast? = some '.' ↔ post = [] := by
  constructor
  · intro h
    cases hlast : post.getLast? with
    | none => exact List.getLast?_eq_none_iff.mp hlast
    | some c =>
      -- the last character belongs to the text after the dot, which has none
      have hc : c = '.' := by simpa [List.getLast?_append, List.getLast?_cons, hlast] using h
      exact absurd (hc ▸ List.mem_of_getLast? hlast) hpost
  · rintro rfl
    simp

/-- Reading fails exactly on a text with no dot, or whose last dot is its first or its last
character. -/
theorem parse?_eq_none_iff (q : String) :
    parse? q = none ↔ '.' ∉ q.toList ∨ (∃ rest, q.toList = '.' :: rest ∧ '.' ∉ rest) ∨
      q.toList.getLast? = some '.' := by
  by_cases hdot : '.' ∈ q.toList
  · obtain ⟨pre, post, hq, hpost⟩ := exists_last_dot hdot
    rw [parse?_at_last_dot hq hpost, hq, last_dot_first_iff hpost, last_dot_last_iff hpost]
    simp [or_iff_not_imp_left]
  · simp [parse?_of_no_dot hdot, hdot]

/-- What is read is a non-empty path and a non-empty name without dots, which write back to the
text read. -/
theorem parse?_eq_some {q : String} {id : TypeId} (h : parse? q = some id) :
    id.render = q ∧ id.pkgPath ≠ "" ∧ id.name ≠ "" ∧ '.' ∉ id.name.toList := by
  have hdot : '.' ∈ q.toList := by
    by_contra hno
    rw [parse?_of_no_dot hno] at h
    cases h
  obtain ⟨pre, post, hq, hpost⟩ := exists_last_dot hdot
  rw [parse?_at_last_dot hq hpost] at h
  split_ifs at h with hempty
  cases h
  have hpre : pre ≠ [] := fun h => hempty (.inl h)
  have hname : post ≠ [] := fun h => hempty (.inr h)
  have hpath : String.ofList pre ≠ "" := by simpa using hpre
  refine ⟨?_, hpath, by simpa using hname, by simpa using hpost⟩
  apply String.toList_injective
  simp [render, hpath, hq]

/-- Qualified names are read at their last dot: reading fails exactly when there is no dot or the
last one is the first or the last character, what is read writes back to the text and has a
non-empty path and a non-empty name without dots, and every such path and name is read back from
what it writes. -/
theorem parse_splits_at_last_dot_and_reads_back (q : String) :
    (parse? q = none ↔ '.' ∉ q.toList ∨ (∃ rest, q.toList = '.' :: rest ∧ '.' ∉ rest) ∨
        q.toList.getLast? = some '.') ∧
    (∀ id, parse? q = some id →
      id.render = q ∧ id.pkgPath ≠ "" ∧ id.name ≠ "" ∧ '.' ∉ id.name.toList) ∧
    (∀ id : TypeId, id.pkgPath ≠ "" → id.name ≠ "" → '.' ∉ id.name.toList →
      parse? id.render = some id) :=
  ⟨parse?_eq_none_iff q, fun _ h => parse?_eq_some h, fun _ => parse_render⟩

end EntityQuery.TypeId
