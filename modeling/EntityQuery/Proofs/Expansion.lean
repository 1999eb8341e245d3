import Mathlib.Data.List.TakeWhile
import EntityQuery.Proofs.Expander
/-!
# Expanding a template

The pieces of a text give the text back: plain runs and markers, each marker written as its lead,
its star and its qualifier in braces, put together in order are the text (`source_pieces`).

Expanding a template for a root entity needs a root, then a template that is not blank.
Otherwise its scanned part, the text before its first unescaped quote, is cut into pieces, and
every piece is replaced (`Piece.replacement`): plain text by itself, a marker by the field list,
computed afresh with the marker's lead, of the entity its qualifier names. The first marker
whose qualifier names no entity reachable from the root fails the expansion
(`uncached_renderOf_of_error`); when none does, the replacements put together are followed by
the rest of the template unchanged and the paging clauses (`uncached_renderOf_of_ok`). An
expander whose map is sound expands templates exactly so (`expand_eq_uncached`).
-/

set_option autoImplicit false

namespace EntityQuery.Query

variable {K : Type}

/-! ## Pieces give the text back -/

/-- The written text of a qualifier: nothing, or the word in braces. -/
def qualifierSource : Option (List Char) → List Char
  | none => []
  | some q => '{' :: q ++ ['}']

theorem source_marker (lead : List Char) (q : Option (List Char)) :
    (Piece.marker lead q).source = lead ++ '*' :: qualifierSource q := by
  cases q <;> simp [Piece.source, qualifierSource]

/-- The qualifier read after a star and the text after it give that text back. -/
theorem qualifierSource_readQualifier (cs : List Char) :
    qualifierSource (readQualifier cs).1 ++ (readQualifier cs).2 = cs := by
  unfold readQualifier
  split
  · rename_i rest
    split
    · rename_i after hdrop
      have hsplit := List.takeWhile_append_dropWhile (p := isWordChar) (l := rest)
      rw [hdrop] at hsplit
      simp only [qualifierSource]
      conv => rhs; rw [← hsplit]
      simp
    · rfl
  · rfl

/-- Cutting the last word off a text and putting it back gives the text. -/
theorem take_append_reverse_takeWhile_reverse {α : Type} (p : α → Bool) (l : List α) :
    l.take (l.length - (l.reverse.takeWhile p).reverse.length) ++
      (l.reverse.takeWhile p).reverse = l := by
  have hl : l = (l.reverse.dropWhile p).reverse ++ (l.reverse.takeWhile p).reverse := by
    rw [← List.reverse_append, List.takeWhile_append_dropWhile, List.reverse_reverse]
  generalize (l.reverse.dropWhile p).reverse = front at hl
  generalize (l.reverse.takeWhile p).reverse = word at hl ⊢
  subst hl
  simp

/-- The pieces of a text, written out in order, are the text. -/
theorem source_pieces (cs : List Char) : (pieces cs).flatMap Piece.source = cs := by
  induction cs using pieces.induct with
  | case1 cs hnone =>
    rw [pieces]
    split
    · have hsplit := List.takeWhile_append_dropWhile (p := (· != '*')) (l := cs)
      rw [hnone, List.append_nil] at hsplit
      simp [Piece.source, hsplit]
    · rename_i hcons
      rw [hnone] at hcons
      simp at hcons
  | case2 cs star after hdrop q _ _ ih =>
    -- the text is the run before the first star, the star, and what follows it
    have hstar : star = '*' := by
      have h := List.head_dropWhile_not (· != '*') (l := cs) (by rw [hdrop]; simp)
      simp only [hdrop, List.head_cons, bne_eq_false_iff_eq] at h
      exact h
    have hsplit := List.takeWhile_append_dropWhile (p := (· != '*')) (l := cs)
    rw [hdrop, hstar] at hsplit
    rw [pieces]
    split
    · rename_i hnil
      rw [hdrop] at hnil
      simp at hnil
    · rename_i star' after' hcons
      rw [hdrop] at hcons
      obtain ⟨-, rfl⟩ := List.cons.inj hcons
      rw [List.flatMap_cons, List.flatMap_cons, source_marker, ih]
      simp only [Piece.source]
      conv =>
        rhs
        rw [← hsplit, ← qualifierSource_readQualifier after,
          ← take_append_reverse_takeWhile_reverse (fun c => !Text.isPatternSpace c)
            (cs.takeWhile (· != '*'))]
      simp [q]

/-- A text without a star is one plain run. -/
theorem pieces_of_not_mem {cs : List Char} (h : '*' ∉ cs) : pieces cs = [.text cs] := by
  have hnostar : ∀ c ∈ cs, (c != '*') = true := by
    intro c hc
    simp only [bne_iff_ne, ne_eq]
    rintro rfl
    exact h hc
  have hnone : cs.dropWhile (· != '*') = [] := List.dropWhile_eq_nil_iff.mpr hnostar
  have hall : cs.takeWhile (· != '*') = cs := List.takeWhile_eq_self_iff.mpr hnostar
  rw [pieces]
  split
  · rw [hall]
  · rename_i hcons
    rw [hnone] at hcons
    simp at hcons

/-! ## What the pieces become -/

variable [DecidableEq K]

/-- What one piece of a template's scanned part becomes: plain text stays as it is, and a marker
becomes the field list, computed afresh with the marker's lead, of the entity it names. -/
def Piece.replacement (c : Catalog K) (root : Descriptor K) (depth : Int) :
    Piece → Except QueryError String
  | .text cs => .ok (String.ofList cs)
  | .marker lead q =>
    (target c root (String.ofList (q.getD []))).map fun d =>
      uncachedFieldList c d (String.ofList lead) depth

section Render

variable (c : Catalog K) (root : Descriptor K) (depth : Int)

theorem uncached_renderOf_text (cs : List Char) (rest : List Piece) :
    (renderOf c root depth (.text cs :: rest)).uncached =
      (renderOf c root depth rest).uncached.map (String.ofList cs ++ ·) := by
  simp [renderOf]

theorem uncached_renderOf_marker_ok {lead : List Char} {q : Option (List Char)} {d : Descriptor K}
    (ht : target c root (String.ofList (q.getD [])) = .ok d) (rest : List Piece) :
    (renderOf c root depth (.marker lead q :: rest)).uncached =
      (renderOf c root depth rest).uncached.map
        (uncachedFieldList c d (String.ofList lead) depth ++ ·) := by
  simp [renderOf, ht]

theorem uncached_renderOf_marker_error {lead : List Char} {q : Option (List Char)}
    {err : QueryError} (ht : target c root (String.ofList (q.getD [])) = .error err)
    (rest : List Piece) :
    (renderOf c root depth (.marker lead q :: rest)).uncached = .error err := by
  simp [renderOf, ht]

/-- When every piece has its replacement, the pieces become their replacements put together. -/
theorem uncached_renderOf_of_ok :
    ∀ (ps : List Piece) (parts : List String),
      ps.map (Piece.replacement c root depth) = parts.map .ok →
      (renderOf c root depth ps).uncached = .ok (String.join parts)
  | [], [], _ => by simp [renderOf]
  | [], _ :: _, h => absurd h (by simp)
  | _ :: _, [], h => absurd h (by simp)
  | p :: ps, s :: parts, h => by
    simp only [List.map_cons, List.cons.injEq] at h
    obtain ⟨hp, hps⟩ := h
    have ih := uncached_renderOf_of_ok ps parts hps
    cases p with
    | text cs =>
      obtain rfl : String.ofList cs = s := by simpa [Piece.replacement] using hp
      rw [uncached_renderOf_text, ih, String.join_cons]
      rfl
    | marker lead q =>
      cases ht : target c root (String.ofList (q.getD [])) with
      | error err => simp [Piece.replacement, ht, Except.map] at hp
      | ok d =>
        obtain rfl : uncachedFieldList c d (String.ofList lead) depth = s := by
          simpa [Piece.replacement, ht, Except.map] using hp
        rw [uncached_renderOf_marker_ok c root depth ht, ih, String.join_cons]
        rfl

/-- The first piece without a replacement fails the whole rendering with its error. -/
theorem uncached_renderOf_of_error {p : Piece} {err : QueryError}
    (hp : p.replacement c root depth = .error err) :
    ∀ (pre post : List Piece), (∀ p' ∈ pre, ∃ s, p'.replacement c root depth = .ok s) →
      (renderOf c root depth (pre ++ p :: post)).uncached = .error err
  | [], post, _ => by
    cases p with
    | text cs => simp [Piece.replacement] at hp
    | marker lead q =>
      cases ht : target c root (String.ofList (q.getD [])) with
      | error err' =>
        obtain rfl : err' = err := by simpa [Piece.replacement, ht, Except.map] using hp
        exact uncached_renderOf_marker_error c root depth ht post
      | ok d => simp [Piece.replacement, ht, Except.map] at hp
  | p' :: pre, post, hpre => by
    have ih := uncached_renderOf_of_error hp pre post fun p'' hp'' =>
      hpre p'' (List.mem_cons_of_mem p' hp'')
    obtain ⟨s, hs⟩ := hpre p' List.mem_cons_self
    rw [List.cons_append]
    cases p' with
    | text cs => rw [uncached_renderOf_text, ih]; rfl
    | marker lead q =>
      cases ht : target c root (String.ofList (q.getD [])) with
      | error err' => simp [Piece.replacement, ht, Except.map] at hs
      | ok d => rw [uncached_renderOf_marker_ok c root depth ht, ih]; rfl

end Render

/-- A marker whose qualifier is empty or names a reachable entity has its replacement. -/
theorem replacement_marker_of_found {c : Catalog K} {root : Descriptor K} {depth : Int}
    {lead : List Char} {q : Option (List Char)}
    (h : String.ofList (q.getD []) = "" ∨
      (c.findByName? root.key (String.ofList (q.getD []))).isSome) :
    ∃ s, (Piece.marker lead q).replacement c root depth = .ok s := by
  by_cases hempty : String.ofList (q.getD []) = ""
  · exact ⟨uncachedFieldList c root (String.ofList lead) depth,
      by simp [Piece.replacement, target, hempty, Except.map]⟩
  · obtain ⟨d, hd⟩ := Option.isSome_iff_exists.mp (h.resolve_left hempty)
    exact ⟨uncachedFieldList c d (String.ofList lead) depth,
      by simp [Piece.replacement, target, hempty, hd, Except.map]⟩

/-- A marker whose qualifier names no reachable entity fails with that qualifier and the root's
name. -/
theorem replacement_marker_of_not_found {c : Catalog K} {root : Descriptor K} {depth : Int}
    {lead : List Char} {q : Option (List Char)} (hne : String.ofList (q.getD []) ≠ "")
    (hnone : c.findByName? root.key (String.ofList (q.getD [])) = none) :
    (Piece.marker lead q).replacement c root depth =
      .error (.unresolved (String.ofList (q.getD [])) root.name) := by
  simp [Piece.replacement, target, hne, hnone, Except.map]

/-- The first marker whose non-empty qualifier names no reachable entity fails the rendering
with that qualifier and the root's name. -/
theorem uncached_renderOf_first_unresolved {c : Catalog K} {root : Descriptor K} {depth : Int}
    {pre post : List Piece} {lead : List Char} {q : Option (List Char)}
    (hpre : ∀ lead' q', Piece.marker lead' q' ∈ pre → String.ofList (q'.getD []) = "" ∨
      (c.findByName? root.key (String.ofList (q'.getD []))).isSome)
    (hne : String.ofList (q.getD []) ≠ "")
    (hnone : c.findByName? root.key (String.ofList (q.getD [])) = none) :
    (renderOf c root depth (pre ++ Piece.marker lead q :: post)).uncached =
      .error (.unresolved (String.ofList (q.getD [])) root.name) := by
  have hearlier : ∀ p ∈ pre, ∃ s, p.replacement c root depth = .ok s := by
    intro p hp
    cases p with
    | text cs => exact ⟨_, rfl⟩
    | marker lead' q' => exact replacement_marker_of_found (hpre lead' q' hp)
  exact uncached_renderOf_of_error c root depth (replacement_marker_of_not_found hne hnone) pre
    post hearlier

/-- A text without a star renders as itself. -/
theorem uncached_renderOf_pieces_of_not_mem {c : Catalog K} {root : Descriptor K} {depth : Int}
    {cs : List Char} (h : '*' ∉ cs) :
    (renderOf c root depth (pieces cs)).uncached = .ok (String.ofList cs) := by
  have hone := uncached_renderOf_of_ok c root depth (pieces cs) [String.ofList cs]
    (by simp [pieces_of_not_mem h, Piece.replacement])
  rw [hone, String.join_cons, String.join_nil, String.append_empty]

/-! ## Expansions -/

/-- With a root and a template that is not blank, an expansion is the rendering of the scanned
part followed by the rest of the template and the paging clauses. -/
theorem uncached_expandOf_some (c : Catalog K) (d : Descriptor K) {t : String}
    (hblank : Text.isBlank t = false) (offset limit depth : Int) :
    (expandOf c (some d) t offset limit depth).uncached =
      (renderOf c d depth (pieces (splitAtLiteral t.toList).1)).uncached.map
        (· ++ String.ofList (splitAtLiteral t.toList).2 ++ paging offset limit) := by
  simp [expandOf, hblank]

/-- An expander whose map is sound expands a template as it is expanded with no map. -/
theorem Expander.expand_eq_uncached {c : Catalog K} {e : Expander K} (he : e.Sound c)
    (root : Option (Descriptor K)) (t : String) (offset limit depth : Int) :
    (e.expand c root t offset limit depth).1 = (expandOf c root t offset limit depth).uncached :=
  ((faithful_expandOf root t offset limit depth).run he).1

theorem eq_append_of_map_eq_ok {x : Except QueryError String} {s tail : String}
    (h : x.map (· ++ tail) = .ok s) : ∃ body, x = .ok body ∧ s = body ++ tail := by
  cases x with
  | error err => simp [Except.map] at h
  | ok body =>
    simp only [Except.map, Except.ok.injEq] at h
    exact ⟨body, rfl, h.symm⟩

/-- What an expander with a sound map makes of a template. Without a root it fails, whatever the
template; with one, a blank template fails. Otherwise the scanned part and the rest give the
template back, and the pieces give the scanned part back; the first marker whose non-empty
qualifier names no entity reachable from the root fails the expansion with that qualifier and
the root's name; when every piece has its replacement the result is the replacements put
together, the rest unchanged and the paging clauses. So the rest of the template is never
rewritten, and a template without wildcards comes back as it is, with the paging clauses. -/
theorem expand_replaces_markers_in_place (c : Catalog K) (e : Expander K) (he : e.Sound c)
    (t : String) (offset limit depth : Int) :
    (e.expand c none t offset limit depth).1 = .error .noDescriptor ∧
    ∀ d : Descriptor K,
      (Text.isBlank t = true →
        (e.expand c (some d) t offset limit depth).1 = .error .emptyTemplate) ∧
      (Text.isBlank t = false →
        (splitAtLiteral t.toList).1 ++ (splitAtLiteral t.toList).2 = t.toList ∧
        (pieces (splitAtLiteral t.toList).1).flatMap Piece.source = (splitAtLiteral t.toList).1 ∧
        (∀ pre lead q post,
          pieces (splitAtLiteral t.toList).1 = pre ++ Piece.marker lead q :: post →
          (∀ lead' q', Piece.marker lead' q' ∈ pre → String.ofList (q'.getD []) = "" ∨
            (c.findByName? d.key (String.ofList (q'.getD []))).isSome) →
          String.ofList (q.getD []) ≠ "" → c.findByName? d.key (String.ofList (q.getD [])) = none →
          (e.expand c (some d) t offset limit depth).1 =
            .error (.unresolved (String.ofList (q.getD [])) d.name)) ∧
        (∀ parts : List String,
          (pieces (splitAtLiteral t.toList).1).map (Piece.replacement c d depth) =
            parts.map .ok →
          (e.expand c (some d) t offset limit depth).1 =
            .ok (String.join parts ++ String.ofList (splitAtLiteral t.toList).2 ++
              paging offset limit)) ∧
        (∀ s, (e.expand c (some d) t offset limit depth).1 = .ok s →
          ∃ body, s = body ++ String.ofList (splitAtLiteral t.toList).2 ++ paging offset limit) ∧
        (hasWildcard t = false →
          (e.expand c (some d) t offset limit depth).1 = .ok (t ++ paging offset limit))) := by
  refine ⟨by simp [Expander.expand_eq_uncached he, expandOf], fun d => ⟨fun hblank => ?_,
    fun hblank => ?_⟩⟩
  · simp [Expander.expand_eq_uncached he, expandOf, hblank]
  -- from here on the expansion is the rendering of the pieces of the scanned part
  rw [Expander.expand_eq_uncached he, uncached_expandOf_some c d hblank]
  refine ⟨splitAtLiteral_append _, source_pieces _, ?_, ?_, ?_, ?_⟩
  · intro pre lead q post hpieces hpre hne hnone
    rw [hpieces, uncached_renderOf_first_unresolved hpre hne hnone]
    rfl
  · intro parts hparts
    rw [uncached_renderOf_of_ok c d depth _ parts hparts]
    simp [Except.map, String.append_assoc]
  · intro s hs
    have hs' : (renderOf c d depth (pieces (splitAtLiteral t.toList).1)).uncached.map
        (· ++ (String.ofList (splitAtLiteral t.toList).2 ++ paging offset limit)) = .ok s := by
      simpa only [String.append_assoc] using hs
    obtain ⟨body, -, rfl⟩ := eq_append_of_map_eq_ok hs'
    exact ⟨body, String.append_assoc.symm⟩
  · intro hwild
    have hnostar : '*' ∉ (splitAtLiteral t.toList).1 := by
      simpa [hasWildcard] using hwild
    rw [uncached_renderOf_pieces_of_not_mem hnostar]
    simp only [Except.map]
    rw [← String.ofList_append, splitAtLiteral_append, String.ofList_toList]

/-- A new expander's map is sound, and a star inside a literal is left as it is. -/
theorem expand_replaces_markers_in_place_quoted :
    ({} : Expander String).Sound {} ∧
      (({} : Expander String).expand {}
        (some ⟨"Account", "Account", "Account", [], []⟩)
        "SELECT Id FROM Account WHERE Name = 'a*'" 0 5 1).1 =
        .ok ("SELECT Id FROM Account WHERE Name = 'a*'" ++ paging 0 5) :=
  ⟨Expander.sound_empty _,
    ((expand_replaces_markers_in_place {} {} (Expander.sound_empty _)
      "SELECT Id FROM Account WHERE Name = 'a*'" 0 5 1).2 _).2
      (by simp [Text.isBlank, Text.isSpace]) |>.2.2.2.2.2 (by simp [hasWildcard, splitAtLiteral])⟩

end EntityQuery.Query
