import Mathlib.Order.Bounds.Defs
import EntityQuery.Proofs.Expansion
/-!
# One marker per star

The markers of a scanned text are what successive searches for a wildcard find, each search
starting where the previous marker ends (`Scan`). A search from position `e` finds the first star
at `e` or later; its lead is the longest run of characters before the star, starting at `e` or
later, with no ASCII blank (tab, line feed, form feed, carriage return, space) in it, so the marker
starts at the least such position; right after the star a `{`, a possibly empty run `w` of word
characters and a `}` make the qualifier `w`, and the marker ends after the `}`; otherwise it ends
right after the star (`FoundFrom`). This is the leftmost-first match of the wildcard pattern
`([^*\s]*?)\*(\{(\w*)\})?`: no match can start before that position, since the lead may hold no
blank and no star, and the optional qualifier is taken whenever it is there.

Main statement (`markers_are_found_one_per_star`): the markers that `findMarkers` reports are
exactly what the successive searches find. Hence there is one marker for every star and no other,
in order; the markers are disjoint and increasing, each covering its own star; and the gaps between
them and their texts, each written from its lead and qualifier, put together give the text back.
The proof follows `pieces`, one marker per cut (`scan_markersFrom`), with the arithmetic of places
done once (`foundFrom_cut`).
-/

set_option autoImplicit false

namespace EntityQuery.Query

/-- The characters of a text from position `i` up to position `j`. -/
def slice (cs : List Char) (i j : Nat) : List Char := (cs.drop i).take (j - i)

/-- The place of a marker's star, right after its lead. -/
def Marker.star (m : Marker) : Nat := m.start + m.lead.length

/-- The text of a marker: its lead, its star and its qualifier in braces. -/
def Marker.text (m : Marker) : List Char := m.lead ++ '*' :: qualifierSource m.qualifier

/-- `QualifierAt after q`: the text `after` a star starts with `{`, a run `w` of word characters
and `}` exactly when `q` is `some w`. -/
def QualifierAt (after : List Char) : Option (List Char) → Prop
  | some w => (∀ c ∈ w, isWordChar c = true) ∧ ∃ rest, after = '{' :: w ++ '}' :: rest
  | none => ∀ w rest, (∀ c ∈ w, isWordChar c = true) → after ≠ '{' :: w ++ '}' :: rest

/-- The marker that a search from position `e` of a text finds. -/
structure FoundFrom (cs : List Char) (e : Nat) (m : Marker) : Prop where
  /-- The marker's star is a star of the text, -/
  star : cs[m.star]? = some '*'
  /-- the first one from `e` on. -/
  first_star : ∀ i, e ≤ i → i < m.star → cs[i]? ≠ some '*'
  /-- The marker starts at the least position from `e` on with no blank up to the star, -/
  least_start :
    IsLeast {i | e ≤ i ∧ ∀ c ∈ slice cs i m.star, Text.isPatternSpace c = false} m.start
  /-- and what lies in between is its lead. -/
  lead : m.lead = slice cs m.start m.star
  /-- The qualifier is the word in braces right after the star, when there is one, -/
  qualifier : QualifierAt (cs.drop (m.star + 1)) m.qualifier
  /-- and the marker ends after it. -/
  stop : m.stop = m.star + 1 + (qualifierSource m.qualifier).length

/-- The markers that successive searches find from position `e` on, each search starting where
the previous marker ends; the last search finds no star. -/
inductive Scan (cs : List Char) : Nat → List Marker → Prop
  | done {e : Nat} : (∀ i, e ≤ i → cs[i]? ≠ some '*') → Scan cs e []
  | found {e : Nat} {m : Marker} {ms : List Marker} :
      FoundFrom cs e m → Scan cs m.stop ms → Scan cs e (m :: ms)

/-- The text put back together from markers found from position `e` on: the gap before each
marker, the marker's own text, and what follows the last one. -/
def Marker.stitch (cs : List Char) : Nat → List Marker → List Char
  | e, [] => cs.drop e
  | e, m :: ms => slice cs e m.start ++ m.text ++ stitch cs m.stop ms

/-! ### Qualifiers -/

/-- What `readQualifier` takes after a star is the qualifier there. -/
theorem qualifierAt_readQualifier (after : List Char) :
    QualifierAt after (readQualifier after).1 := by
  unfold readQualifier
  split
  · rename_i rest
    split
    · rename_i after' hdrop
      have hsplit := List.takeWhile_append_dropWhile (p := isWordChar) (l := rest)
      rw [hdrop] at hsplit
      exact ⟨fun c hc => List.mem_takeWhile_imp hc, after', by simp only [List.cons_append, hsplit]⟩
    · rename_i hnot
      -- a word followed by `}` would have been taken whole
      intro w rest' hw heq
      obtain rfl : rest = w ++ '}' :: rest' := by simpa using heq
      have hdrop : (w ++ '}' :: rest').dropWhile isWordChar = '}' :: rest' := by
        rw [List.dropWhile_append, List.dropWhile_eq_nil_iff.mpr hw]
        simp [isWordChar]
      exact hnot _ hdrop
  · rename_i hnot
    intro w rest' _ heq
    exact hnot _ heq

/-- The text after a star starts with the written qualifier. -/
theorem QualifierAt.eq_append {after : List Char} {q : Option (List Char)}
    (h : QualifierAt after q) : ∃ rest, after = qualifierSource q ++ rest := by
  cases q with
  | none => exact ⟨after, rfl⟩
  | some w =>
    obtain ⟨-, rest, rfl⟩ := h
    exact ⟨rest, by simp [qualifierSource]⟩

/-- A qualifier is written without a star. -/
theorem star_not_mem_qualifierSource {after : List Char} {q : Option (List Char)}
    (h : QualifierAt after q) : '*' ∉ qualifierSource q := by
  cases q with
  | none => simp [qualifierSource]
  | some w =>
    have hword : isWordChar '*' = false := by decide
    intro hmem
    simp only [qualifierSource, List.cons_append, List.mem_cons, List.mem_append] at hmem
    rcases hmem with h1 | h2 | h3
    · exact absurd h1 (by decide)
    · exact absurd (h.1 _ h2) (by rw [hword]; decide)
    · exact absurd h3 (by decide)

/-! ### The last word before a star -/

/-- Every element of the longest run at the end of a list satisfies the predicate. -/
theorem mem_lastRun {α : Type} {p : α → Bool} {l : List α} {x : α}
    (hx : x ∈ (l.reverse.takeWhile p).reverse) : p x = true :=
  List.mem_takeWhile_imp (List.mem_reverse.mp hx)

/-- Before the longest run at the end of a list comes an element that fails the predicate. -/
theorem getLast_before_lastRun {α : Type} (p : α → Bool) (l : List α)
    (h : l.take (l.length - (l.reverse.takeWhile p).reverse.length) ≠ []) :
    p ((l.take (l.length - (l.reverse.takeWhile p).reverse.length)).getLast h) = false := by
  have hsplit := List.takeWhile_append_dropWhile (p := p) (l := l.reverse)
  have hfront : l.take (l.length - (l.reverse.takeWhile p).reverse.length) =
      (l.reverse.dropWhile p).reverse := by
    have hl : l = (l.reverse.dropWhile p).reverse ++ (l.reverse.takeWhile p).reverse := by
      rw [← List.reverse_append, hsplit, List.reverse_reverse]
    generalize (l.reverse.dropWhile p).reverse = front at hl
    generalize (l.reverse.takeWhile p).reverse = word at hl
    subst hl
    simp
  have hne : l.reverse.dropWhile p ≠ [] := by
    rw [hfront] at h
    simpa using h
  simp only [hfront, List.getLast_reverse]
  exact List.head_dropWhile_not p hne

/-! ### Places -/

theorem slice_of_drop_eq {cs xs ys : List Char} {i : Nat} (h : cs.drop i = xs ++ ys) :
    slice cs i (i + xs.length) = xs := by
  simp [slice, h]

/-- A character between two positions lies in the slice between them. -/
theorem mem_slice {cs : List Char} {i j k : Nat} {c : Char} (hij : i ≤ j) (hjk : j < k)
    (h : cs[j]? = some c) : c ∈ slice cs i k := by
  apply List.mem_of_getElem? (i := j - i)
  rw [slice, List.getElem?_take, if_pos (by omega), List.getElem?_drop,
    show i + (j - i) = j by omega]
  exact h

/-- The text from `i` on is the slice up to a later `j`, then the text from `j` on. -/
theorem slice_append_drop (cs : List Char) {i j : Nat} (h : i ≤ j) :
    slice cs i j ++ cs.drop j = cs.drop i := by
  obtain ⟨k, rfl⟩ := Nat.exists_eq_add_of_le h
  rw [slice, Nat.add_sub_cancel_left, ← List.drop_drop, List.take_append_drop]

/-- A cut of the text at `e` into a run with no star, the last word of that run (no blank in it,
and a blank or nothing before it), a star and the rest gives the marker that a search from `e`
finds. -/
theorem foundFrom_cut {cs : List Char} {e : Nat} {plain lead after : List Char} {m : Marker}
    (hdrop : cs.drop e = plain ++ lead ++ '*' :: after)
    (hstars : ∀ c ∈ plain ++ lead, c ≠ '*')
    (hlead : ∀ c ∈ lead, Text.isPatternSpace c = false)
    (hplain : ∀ h : plain ≠ [], Text.isPatternSpace (plain.getLast h) = true)
    (hstart : m.start = e + plain.length) (hleadm : m.lead = lead)
    (hq : m.qualifier = (readQualifier after).1)
    (hstop : m.stop = m.start + (Piece.marker lead (readQualifier after).1).source.length) :
    FoundFrom cs e m := by
  have hat : ∀ k, cs[e + k]? = (plain ++ lead ++ '*' :: after)[k]? := by
    intro k
    rw [← hdrop, List.getElem?_drop]
  have hstar : m.star = e + (plain ++ lead).length := by
    simp [Marker.star, hstart, hleadm, Nat.add_assoc]
  -- from the marker's start to its star lies the lead
  have hslice : slice cs m.start m.star = lead := by
    have hrest : cs.drop (e + plain.length) = lead ++ '*' :: after := by
      rw [← List.drop_drop, hdrop]; simp
    rw [hstar, hstart, List.length_append, ← Nat.add_assoc]
    exact slice_of_drop_eq hrest
  refine ⟨?_, ?_, ⟨⟨by simp [hstart], by rw [hslice]; exact hlead⟩, ?_⟩, ?_, ?_, ?_⟩
  · -- the star right after the lead
    rw [hstar, hat]
    simp
  · -- every character before it comes from the run with no star
    intro i hei hi
    rw [hstar] at hi
    obtain ⟨k, rfl⟩ : ∃ k, i = e + k := ⟨i - e, by omega⟩
    rw [hat, List.append_assoc, ← List.append_assoc plain, List.getElem?_append_left (by omega)]
    intro hget
    exact hstars _ (List.mem_of_getElem? hget) rfl
  · -- a start before it would take in the blank that ends the run
    rintro i ⟨hei, hblank⟩
    rw [hstart]
    by_contra hlt
    have hne : plain ≠ [] := by
      intro hnil
      simp [hnil] at hlt
      omega
    have hpos := List.length_pos_iff.mpr hne
    have hlast : cs[e + (plain.length - 1)]? = some (plain.getLast hne) := by
      rw [hat, List.append_assoc, List.getElem?_append_left (by omega), List.getLast_eq_getElem,
        List.getElem?_eq_getElem]
    have hmem : plain.getLast hne ∈ slice cs i m.star :=
      mem_slice (by omega) (by rw [hstar]; simp; omega) hlast
    have hfalse := hblank _ hmem
    rw [hplain hne] at hfalse
    exact absurd hfalse (by decide)
  · rw [hslice, hleadm]
  · have hafter : cs.drop (m.star + 1) = after := by
      rw [hstar, ← List.drop_drop, ← List.drop_drop, hdrop, List.append_assoc]
      simp
    rw [hafter, hq]
    exact qualifierAt_readQualifier after
  · rw [hstop, hq, Marker.star, hleadm, source_marker]
    simp only [List.length_append, List.length_cons]
    omega

/-- After a marker cut at `e`, the text goes on with what follows its qualifier. -/
theorem drop_after_marker {cs : List Char} {e : Nat} {plain lead after : List Char}
    (hcut : cs.drop e = plain ++ lead ++ '*' :: after) :
    cs.drop (e + plain.length + (Piece.marker lead (readQualifier after).1).source.length) =
      (readQualifier after).2 := by
  generalize hq : readQualifier after = q
  have hafter : qualifierSource q.1 ++ q.2 = after := hq ▸ qualifierSource_readQualifier after
  subst hafter
  rw [← List.drop_drop, ← List.drop_drop, hcut, source_marker]
  simp

/-! ### The markers of a text -/

/-- The markers of the pieces of the text from `e` on are what successive searches from `e` find:
every cut that `pieces` makes is one search (`foundFrom_cut`). The induction follows `pieces`. -/
theorem scan_markersFrom (cs : List Char) :
    ∀ (r : List Char) (e : Nat), cs.drop e = r → Scan cs e (markersFrom e (pieces r)) := by
  intro r
  induction r using pieces.induct with
  | case1 r hnone =>
    intro e hcs
    have hnostar : ∀ c ∈ r, (c != '*') = true := List.dropWhile_eq_nil_iff.mp hnone
    rw [pieces]
    split
    · -- no star is left: the last search finds nothing
      refine Scan.done fun i hi hget => ?_
      obtain ⟨k, rfl⟩ : ∃ k, i = e + k := ⟨i - e, by omega⟩
      rw [← List.getElem?_drop, hcs] at hget
      have := hnostar _ (List.mem_of_getElem? hget)
      simp at this
    · rename_i hcons
      rw [hnone] at hcons
      simp at hcons
  | case2 r star after hdrop _ _ _ ih =>
    intro e hcs
    have hstar : star = '*' := by
      have h := List.head_dropWhile_not (· != '*') (l := r) (by rw [hdrop]; simp)
      simp only [hdrop, List.head_cons, bne_eq_false_iff_eq] at h
      exact h
    have hsplit := List.takeWhile_append_dropWhile (p := (· != '*')) (l := r)
    rw [hdrop, hstar] at hsplit
    rw [pieces]
    split
    · rename_i hnil
      rw [hdrop] at hnil
      simp at hnil
    rename_i star' after' hcons
    rw [hdrop] at hcons
    obtain ⟨-, rfl⟩ := List.cons.inj hcons
    -- the run before the star is its plain part and its last word
    set head := r.takeWhile (· != '*') with hhead_def
    set lead := (head.reverse.takeWhile fun c => !Text.isPatternSpace c).reverse with hlead_def
    have hhead : head.take (head.length - lead.length) ++ lead = head :=
      take_append_reverse_takeWhile_reverse (fun c => !Text.isPatternSpace c) head
    have hcut : cs.drop e = head.take (head.length - lead.length) ++ lead ++ '*' :: after := by
      rw [hhead, hcs, hsplit]
    simp only [markersFrom]
    refine Scan.found (foundFrom_cut hcut ?_ ?_ ?_ rfl rfl rfl rfl) ?_
    · intro c hc
      rw [hhead] at hc
      simpa using List.mem_takeWhile_imp hc
    · intro c hc
      simpa using mem_lastRun hc
    · intro hne
      have hlast : (!Text.isPatternSpace ((head.take (head.length - lead.length)).getLast hne)) =
          false := getLast_before_lastRun (fun c => !Text.isPatternSpace c) head hne
      simpa using hlast
    · -- the next search starts after the qualifier
      exact ih _ (drop_after_marker hcut)

/-! ### What successive searches give -/

namespace FoundFrom

variable {cs : List Char} {e : Nat} {m : Marker}

theorem le_start (h : FoundFrom cs e m) : e ≤ m.start := h.least_start.1.1

theorem start_le_star (m : Marker) : m.start ≤ m.star := Nat.le_add_right _ _

theorem star_lt_stop (h : FoundFrom cs e m) : m.star < m.stop := by
  rw [h.stop]
  omega

/-- The characters from a marker's start are its text, then the rest of the text. -/
theorem drop_start (h : FoundFrom cs e m) : cs.drop m.start = m.text ++ cs.drop m.stop := by
  have hlen : m.star < cs.length := (List.getElem?_eq_some_iff.mp h.star).1
  have hget : cs[m.star] = '*' := (List.getElem?_eq_some_iff.mp h.star).2
  obtain ⟨rest, hrest⟩ := h.qualifier.eq_append
  have hstop : cs.drop m.stop = rest := by
    rw [h.stop, ← List.drop_drop, hrest, List.drop_left]
  have hlead : cs.drop m.start = m.lead ++ cs.drop m.star := by
    rw [h.lead, slice_append_drop cs (start_le_star m)]
  rw [hlead, List.drop_eq_getElem_cons hlen, hget, hrest, hstop, Marker.text]
  simp

/-- No star lies after a marker's star and before its end. -/
theorem not_star_of_lt (h : FoundFrom cs e m) {i : Nat} (hi : m.star < i) (hi' : i < m.stop) :
    cs[i]? ≠ some '*' := by
  obtain ⟨rest, hrest⟩ := h.qualifier.eq_append
  obtain ⟨k, rfl⟩ : ∃ k, i = m.star + 1 + k := ⟨i - (m.star + 1), by omega⟩
  have hk : k < (qualifierSource m.qualifier).length := by
    rw [h.stop] at hi'
    omega
  rw [← List.getElem?_drop, hrest, List.getElem?_append_left hk]
  intro hget
  exact star_not_mem_qualifierSource h.qualifier (List.mem_of_getElem? hget)

end FoundFrom

namespace Scan

variable {cs : List Char}

/-- Every marker found from `e` on starts at `e` or later and covers its own star. -/
theorem bounds {e : Nat} {ms : List Marker} (h : Scan cs e ms) :
    ∀ m ∈ ms, e ≤ m.start ∧ m.start ≤ m.star ∧ m.star < m.stop := by
  induction h with
  | done _ => simp
  | @found e m ms hm _ ih =>
    intro m' hm'
    rcases List.mem_cons.mp hm' with rfl | hrest
    · exact ⟨hm.le_start, FoundFrom.start_le_star m', hm.star_lt_stop⟩
    · -- a later marker starts after this one ends
      obtain ⟨hlater, hcovers⟩ := ih m' hrest
      have hle := hm.le_start
      have hmid := FoundFrom.start_le_star m
      have hstop := hm.star_lt_stop
      exact ⟨by omega, hcovers⟩

/-- Markers found one after the other do not overlap: each ends before the next starts. -/
theorem pairwise {e : Nat} {ms : List Marker} (h : Scan cs e ms) :
    ms.Pairwise (fun m m' => m.stop ≤ m'.start) := by
  induction h with
  | done _ => exact List.Pairwise.nil
  | found _ hrest ih =>
    exact List.Pairwise.cons (fun m' hm' => (hrest.bounds m' hm').1) ih

/-- From `e` on, the stars of the text are exactly the stars of the markers found. -/
theorem stars {e : Nat} {ms : List Marker} (h : Scan cs e ms) :
    ∀ i, e ≤ i → (cs[i]? = some '*' ↔ ∃ m ∈ ms, m.star = i) := by
  induction h with
  | done hnone =>
    intro i hi
    simp [hnone i hi]
  | @found e m ms hm hrest ih =>
    intro i hi
    -- the markers found later lie after this one
    have hlater : ∀ m' ∈ ms, m.stop ≤ m'.star := fun m' hm' =>
      (hrest.bounds m' hm').1.trans (hrest.bounds m' hm').2.1
    have hstop := hm.star_lt_stop
    rcases Nat.lt_or_ge i m.stop with hlt | hge
    · -- up to the end of this marker, its star is the only one
      have hnot : ¬ ∃ m' ∈ ms, m'.star = i := by
        rintro ⟨m', hm', rfl⟩
        have := hlater m' hm'
        omega
      rcases Nat.lt_trichotomy i m.star with hbefore | rfl | hafter
      · simp only [List.mem_cons, exists_eq_or_imp, hnot, or_false]
        exact ⟨fun hget => absurd hget (hm.first_star i hi hbefore), fun heq => by omega⟩
      · simp [hm.star]
      · simp only [List.mem_cons, exists_eq_or_imp, hnot, or_false]
        exact ⟨fun hget => absurd hget (hm.not_star_of_lt hafter hlt), fun heq => by omega⟩
    · rw [ih i hge]
      simp only [List.mem_cons, exists_eq_or_imp]
      constructor
      · exact Or.inr
      · rintro (heq | hmem)
        · omega
        · exact hmem

/-- The gaps and the marker texts put together give the text from `e` on. -/
theorem stitch {e : Nat} {ms : List Marker} (h : Scan cs e ms) :
    Marker.stitch cs e ms = cs.drop e := by
  induction h with
  | done _ => rfl
  | @found e m ms hm _ ih =>
    rw [Marker.stitch, ih, List.append_assoc, ← hm.drop_start, slice_append_drop cs hm.le_start]

end Scan

/-- The markers of a text are what successive searches for a wildcard find, the first search from
the start of the text and each next one from the end of the previous marker: so every star of the
text, and nothing else, is the star of one marker, the markers are disjoint and in order, each
covering its star, and the gaps between them and their texts, written from their leads and
qualifiers, put together give the text back. -/
theorem markers_are_found_one_per_star (cs : List Char) :
    Scan cs 0 (findMarkers cs) ∧
      (∀ i, cs[i]? = some '*' ↔ ∃ m ∈ findMarkers cs, m.star = i) ∧
      (∀ m ∈ findMarkers cs, m.start ≤ m.star ∧ m.star < m.stop) ∧
      (findMarkers cs).Pairwise (fun m m' => m.stop ≤ m'.start) ∧
      Marker.stitch cs 0 (findMarkers cs) = cs := by
  have hscan : Scan cs 0 (findMarkers cs) := scan_markersFrom cs cs 0 rfl
  refine ⟨hscan, fun i => hscan.stars i (Nat.zero_le i), fun m hm => (hscan.bounds m hm).2,
    hscan.pairwise, ?_⟩
  rw [hscan.stitch, List.drop_zero]

end EntityQuery.Query
