import Mathlib.Logic.Basic
import Mathlib.Data.List.Forall2
import Mathlib.Tactic.SplitIfs
import EntityQuery.QueryFile.Validate
import EntityQuery.Proofs.Expansion

/-!
# Which query files validate

A query file validates, with no error among its diagnostics, exactly when it is given, has
version `1`, and every query in turn passes every check: its name is given and new, it names its
entity, has exactly one of a template and an id, paging and depth that are not negative, a lookup
that finds its entity at the state the queries before it left, and it builds against that entity
(`QueriesAccepted`). Warnings and infos play no part. Whatever expander builds the queries, it
only answers with field lists, which never fail, so whether a query builds does not depend on it
(`isOk_renderWith`).

The diagnostics come out in the order they are raised: first those about the whole file, then,
query after query, those about the query, each of which carries the query's label.

The argument follows the checks: each one adds findings about the query to the report, and those
hold no error exactly when the check passes (`Report.Raises`); checks in sequence compose
(`Raises.trans`), and the run over the queries is an induction on the list.
-/

set_option autoImplicit false

namespace EntityQuery

/-! ## Reports that grow -/

namespace Report

@[simp] theorem addAll_nil (r : Report) : r.addAll [] = r := rfl

@[simp] theorem isValid_empty : ({} : Report).isValid = true := rfl

theorem addAll_append (r : Report) (ds ds' : List Diagnostic) :
    r.addAll (ds ++ ds') = (r.addAll ds).addAll ds' :=
  List.foldl_append

theorem addError_eq_addAll (r : Report) (code message query field : String) :
    r.addError code message query field = r.addAll [⟨.error, code, message, query, field⟩] :=
  rfl

theorem addWarning_eq_addAll (r : Report) (code message query field : String) :
    r.addWarning code message query field = r.addAll [⟨.warning, code, message, query, field⟩] :=
  rfl

theorem isValid_add (r : Report) (d : Diagnostic) :
    (r.add d).isValid = true ↔ r.isValid = true ∧ d.severity ≠ .error := by
  unfold add isValid
  cases d.severity <;> simp

theorem isValid_addAll (r : Report) (ds : List Diagnostic) :
    (r.addAll ds).isValid = true ↔ r.isValid = true ∧ ∀ d ∈ ds, d.severity ≠ .error := by
  induction ds generalizing r with
  | nil => simp
  | cons d ds ih =>
    change (r.add d |>.addAll ds).isValid = true ↔ _
    rw [ih, isValid_add, List.forall_mem_cons, and_assoc]

/-- `r'` is `r` with findings added that concern the query labelled `label`, and that hold no
error exactly when `ok` holds. -/
def Raises (label : String) (ok : Prop) (r r' : Report) : Prop :=
  ∃ ds : List Diagnostic, r' = r.addAll ds ∧ (∀ d ∈ ds, d.query = label) ∧
    ((∀ d ∈ ds, d.severity ≠ .error) ↔ ok)

variable {label : String} {ok ok' : Prop} {r r' r'' : Report}

theorem raises_refl (label : String) (r : Report) : r.Raises label True r :=
  ⟨[], rfl, by simp, by simp⟩

theorem raises_addError (code message field : String) :
    r.Raises label False (r.addError code message label field) :=
  ⟨_, addError_eq_addAll .., by simp, by simp⟩

theorem raises_addWarning (code message field : String) :
    r.Raises label True (r.addWarning code message label field) :=
  ⟨_, addWarning_eq_addAll .., by simp, by simp⟩

theorem Raises.congr (h : ok ↔ ok') (hr : r.Raises label ok r') : r.Raises label ok' r' := by
  obtain ⟨ds, rfl, hlabel, hok⟩ := hr
  exact ⟨ds, rfl, hlabel, hok.trans h⟩

theorem Raises.trans (h : r.Raises label ok r') (h' : r'.Raises label ok' r'') :
    r.Raises label (ok ∧ ok') r'' := by
  obtain ⟨ds, rfl, hlabel, hok⟩ := h
  obtain ⟨ds', rfl, hlabel', hok'⟩ := h'
  refine ⟨ds ++ ds', (addAll_append ..).symm, ?_, ?_⟩
  · rw [List.forall_mem_append]
    exact ⟨hlabel, hlabel'⟩
  · rw [List.forall_mem_append, hok, hok']

theorem raises_ite_addError {c : Prop} [Decidable c] (code message field : String) :
    r.Raises label (¬c) (if c then r.addError code message label field else r) := by
  split
  · exact (raises_addError ..).congr (by simp_all)
  · exact (raises_refl ..).congr (by simp_all)

theorem raises_ite_addWarning {c : Prop} [Decidable c] (code message field : String) :
    r.Raises label True (if c then r.addWarning code message label field else r) := by
  split
  · exact raises_addWarning ..
  · exact raises_refl ..

/-- A report that raises findings is valid exactly when it was and the findings hold no error. -/
theorem Raises.isValid_iff (h : r.Raises label ok r') :
    r'.isValid = true ↔ r.isValid = true ∧ ok := by
  obtain ⟨ds, rfl, -, hok⟩ := h
  rw [isValid_addAll, hok]

end Report

/-! ## The expander does not decide whether a query builds -/

namespace Query.Cached

variable {K α β : Type}

/-- Whatever the map answers, the computation ends with a result that satisfies `post`. -/
def Always (post : α → Prop) : Cached K α → Prop
  | .pure a => post a
  | .load _ next => ∀ found, Always post (next found)
  | .loadOrStore _ _ next => ∀ stored, Always post (next stored)

theorem Always.bind {p : Cached K α} {f : α → Cached K β} {Q : α → Prop} {post : β → Prop}
    (hp : p.Always Q) (hf : ∀ a, Q a → (f a).Always post) : (p.bind f).Always post := by
  induction p with
  | pure a => exact hf a hp
  | load key next ih => exact fun found => ih found (hp found)
  | loadOrStore key s next ih => exact fun stored => ih stored (hp stored)

theorem always_true (p : Cached K α) : p.Always fun _ => True := by
  induction p with
  | pure a => trivial
  | load key next ih => exact ih
  | loadOrStore key s next ih => exact ih

theorem Always.run [DecidableEq K] {p : Cached K α} {post : α → Prop} (hp : p.Always post)
    (e : Expander K) : post (p.run e).1 := by
  induction p generalizing e with
  | pure a => exact hp
  | load key next ih => exact ih _ (hp _) e
  | loadOrStore key s next ih => exact ih _ (hp _) _

end Query.Cached

namespace Query

variable {K : Type} [DecidableEq K] (c : Catalog K)

/-- What a computation of a query comes to, its text left out: built, or the error. -/
abbrev outcome (r : Except QueryError String) : Except QueryError Unit := r.map fun _ => ()

@[simp] theorem outcome_map (f : String → String) (r : Except QueryError String) :
    outcome (r.map f) = outcome r := by
  cases r <;> rfl

theorem isOk_eq_of_outcome {r r' : Except QueryError String} (h : outcome r = outcome r') :
    r.isOk = r'.isOk := by
  cases r <;> cases r' <;> cases h <;> rfl

/-- Field lists never fail, so the outcome of rendering pieces does not depend on the map. -/
theorem always_renderOf (root : Descriptor K) (depth : Int) : ∀ ps : List Piece,
    (renderOf c root depth ps).Always fun r =>
      outcome r = outcome (renderOf c root depth ps).uncached
  | [] => rfl
  | .text cs :: rest => by
    rw [uncached_renderOf_text, outcome_map, renderOf]
    exact (always_renderOf root depth rest).bind fun tail htail => by
      simp only [Cached.pure_eq_pure, Cached.Always, outcome_map]
      exact htail
  | .marker lead q :: rest => by
    cases ht : target c root (String.ofList (q.getD [])) with
    | error err =>
      rw [uncached_renderOf_marker_error c root depth ht]
      simp [renderOf, ht, Cached.Always]
    | ok d =>
      rw [uncached_renderOf_marker_ok c root depth ht, outcome_map, renderOf, ht]
      exact (Cached.always_true _).bind fun _ _ =>
        (always_renderOf root depth rest).bind fun tail htail => by
          simp only [Cached.pure_eq_pure, Cached.Always, outcome_map]
          exact htail

theorem always_expandOf (root : Option (Descriptor K)) (template : String)
    (offset limit depth : Int) :
    (expandOf c root template offset limit depth).Always fun r =>
      outcome r = outcome (expandOf c root template offset limit depth).uncached := by
  unfold expandOf
  split
  · rfl
  · split
    · rfl
    · exact (always_renderOf c _ _ _).bind fun body hbody => by
        simp only [Cached.Always, Cached.bind_eq_bind, Cached.uncached_bind, Cached.pure_eq_pure,
          Cached.uncached_pure, outcome_map]
        exact hbody

theorem always_findByIdOf (root : Option (Descriptor K)) (id : String) (depth : Int) :
    (findByIdOf c root id depth).Always fun r =>
      outcome r = outcome (findByIdOf c root id depth).uncached := by
  unfold findByIdOf
  split
  · rfl
  · split
    · rfl
    · exact always_expandOf c _ _ _ _ _

end Query

namespace QueryDefinition

variable {K : Type} [DecidableEq K]

/-- An expander only changes the text of a built query: whether the query builds, and the error
it fails with, are those of a new expander. -/
theorem outcome_renderWith (q : QueryDefinition) (e : Query.Expander K) (c : Catalog K)
    (d : Option (Descriptor K)) :
    Query.outcome (q.renderWith e c d).1 = Query.outcome (q.render c d) := by
  unfold render renderWith
  split
  · exact ((Query.always_findByIdOf c _ _ _).run e).trans
      ((Query.always_findByIdOf c _ _ _).run {}).symm
  · exact ((Query.always_expandOf c _ _ _ _ _).run e).trans
      ((Query.always_expandOf c _ _ _ _ _).run {}).symm

theorem isOk_renderWith (q : QueryDefinition) (e : Query.Expander K) (c : Catalog K)
    (d : Option (Descriptor K)) : (q.renderWith e c d).1.isOk = (q.render c d).isOk := by
  exact Query.isOk_eq_of_outcome (q.outcome_renderWith e c d)

end QueryDefinition

/-! ## The shape of a query -/

namespace QueryDefinition

/-- The checks on a query that need no entity pass: it names its entity, has exactly one of a
template and an id, and neither its paging nor its depth is negative. -/
def ShapeOk (q : QueryDefinition) : Prop :=
  q.entity ≠ "" ∧ Xor (q.template ≠ "") (q.id ≠ "") ∧ 0 ≤ q.offset ∧ 0 ≤ q.limit ∧
    ∀ d ∈ q.depth, 0 ≤ d

/-- The shape of a query is right exactly when no finding about it is an error. -/
theorem no_error_shapeFindings (q : QueryDefinition) :
    (∀ f ∈ q.shapeFindings, f.severity ≠ .error) ↔ q.ShapeOk := by
  simp only [shapeFindings, ShapeOk, List.append_assoc, List.forall_mem_append]
  -- one finding group per check, the last one (no limit) never an error
  refine and_congr ?entity (and_congr ?templateOrId (and_congr ?offset (and_congr ?limit
    ((and_iff_left ?noLimit).trans ?depth))))
  case entity => split <;> simp_all
  case templateOrId =>
    split_ifs
    all_goals by_cases ht : q.template = "" <;> simp_all [Xor]
  case offset => split <;> simp_all
  case limit => split <;> simp_all
  case noLimit => split <;> simp
  case depth =>
    cases q.depth with
    | none => simp
    | some d =>
      simp only [Option.mem_def, Option.some.injEq, forall_eq']
      split_ifs with hneg hdeep
      · simpa using hneg
      · have : (0 : Int) ≤ d := by unfold Query.defaultDepth at hdeep; omega
        simpa using this
      · simpa using Int.not_lt.mp hneg

variable (q : QueryDefinition) (label : String) (r : Report)

theorem checkShape_raises : r.Raises label q.ShapeOk (q.checkShape label r).1 := by
  refine ⟨_, rfl, by simp [Finding.diagnostic], ?_⟩
  simpa [Finding.diagnostic] using q.no_error_shapeFindings

/-- The shape check answers that the query can be built exactly when its shape is right. -/
theorem checkShape_valid : (q.checkShape label r).2 = true ↔ q.ShapeOk := by
  simpa [checkShape] using q.no_error_shapeFindings

theorem renderProblem_raises (err : QueryError) :
    r.Raises label False (q.renderProblem label r err) := by
  unfold renderProblem
  split <;> exact Report.raises_addError ..

theorem checkName_raises (seen : List String) :
    r.Raises label (q.name ≠ "" ∧ q.name ∉ seen) (q.checkName seen label r) := by
  unfold checkName
  split_ifs with hempty hseen
  · exact (Report.raises_addError ..).congr (by simp_all)
  · exact (Report.raises_addError ..).congr (by simp_all)
  · exact (Report.raises_refl ..).congr (by simp_all)

end QueryDefinition

/-! ## Query after query -/

namespace QueryFile

variable {σ K : Type} [DecidableEq K] (lookup : Option (EntityLookup σ K))
  (catalog : σ → Catalog K) (e : Query.Expander K)

/-- The entity of a query is found at lookup state `st`, which the lookup leaves at `st'`, and
the query builds against it with the expander `e`. -/
def Resolves (q : QueryDefinition) (st st' : σ) : Prop :=
  ∃ look d, lookup = some look ∧ look q.entity st = (.ok (some d), st') ∧
    (q.renderWith e (catalog st') (some d)).1.isOk = true

/-- The query passes every check, given the names `seen` of the queries before it and the state
`st` they left the lookup in: its name is given and new, its shape is right, and its entity
resolves, leaving the state `st'`, and the query builds. -/
def Accepted (seen : List String) (st : σ) (q : QueryDefinition) (st' : σ) : Prop :=
  q.name ≠ "" ∧ q.name ∉ seen ∧ q.ShapeOk ∧ Resolves lookup catalog e q st st'

/-- Every query of a list passes every check, each at the state the ones before it left. -/
def QueriesAccepted : List String → σ → List QueryDefinition → Prop
  | _, _, [] => True
  | seen, st, q :: qs =>
    ∃ st', Accepted lookup catalog e seen st q st' ∧ QueriesAccepted (q.name :: seen) st' qs

variable (q : QueryDefinition) (label : String) (r : Report) (st : σ)

theorem checkQuery_raises :
    r.Raises label (∃ st', Resolves lookup catalog e q st st')
      (checkQuery lookup catalog q label r st).1 := by
  unfold checkQuery
  cases lookup with
  | none => exact (Report.raises_addError ..).congr (by simp [Resolves])
  | some look =>
    dsimp only
    rcases hlook : look q.entity st with ⟨(f | text) | (_ | d), st'⟩
    · exact (Report.raises_addError ..).congr (by simp [Resolves, hlook])
    · exact (Report.raises_addError ..).congr (by simp [Resolves, hlook])
    · exact (Report.raises_addError ..).congr (by simp [Resolves, hlook])
    · dsimp only
      have hok := q.isOk_renderWith e (catalog st') (some d)
      cases hrender : q.render (catalog st') (some d) with
      | ok text =>
        refine (Report.raises_refl ..).congr
          ⟨fun _ => ⟨st', look, d, rfl, hlook, ?_⟩, fun _ => trivial⟩
        rw [hok, hrender]
        rfl
      | error err =>
        refine (q.renderProblem_raises label r err).congr ⟨False.elim, ?_⟩
        rintro ⟨st'', look', d', hlook', hfound, hbuilt⟩
        cases hlook'
        rw [hlook] at hfound
        cases hfound
        rw [hok, hrender] at hbuilt
        cases hbuilt

theorem checkQuery_state {st' : σ} (h : Resolves lookup catalog e q st st') :
    (checkQuery lookup catalog q label r st).2 = st' := by
  obtain ⟨look, d, rfl, hlook, -⟩ := h
  unfold checkQuery
  simp only [hlook]
  split <;> rfl

variable (seen : List String) (i : Nat)

theorem checkEntry_raises :
    r.Raises (q.label i) (∃ st', Accepted lookup catalog e seen st q st')
      (checkEntry lookup catalog (r, st, seen) (q, i)).1 := by
  have hname := q.checkName_raises (q.label i) r seen
  have hshape := q.checkShape_raises (q.label i) (q.checkName seen (q.label i) r)
  have hvalid := q.checkShape_valid (q.label i) (q.checkName seen (q.label i) r)
  unfold checkEntry
  dsimp only
  rcases hcheck : q.checkShape (q.label i) (q.checkName seen (q.label i) r) with ⟨r', valid⟩
  rw [hcheck] at hshape hvalid
  cases valid with
  | false =>
    -- the shape is wrong: nothing is looked up, and the query is not accepted
    refine (hname.trans hshape).congr ⟨fun h => absurd (hvalid.mpr h.2) (by simp), ?_⟩
    rintro ⟨st', hnamed, hnew, hok, -⟩
    exact ⟨⟨hnamed, hnew⟩, hok⟩
  | true =>
    refine ((hname.trans hshape).trans (checkQuery_raises lookup catalog e q _ r' st)).congr ?_
    constructor
    · rintro ⟨⟨⟨hnamed, hnew⟩, hok⟩, st', hres⟩
      exact ⟨st', hnamed, hnew, hok, hres⟩
    · rintro ⟨st', hnamed, hnew, hok, hres⟩
      exact ⟨⟨⟨hnamed, hnew⟩, hok⟩, st', hres⟩

/-- An accepted query leaves the lookup in the state its resolution left, and its name among
those seen. -/
theorem checkEntry_of_accepted {st' : σ} (h : Accepted lookup catalog e seen st q st') :
    (checkEntry lookup catalog (r, st, seen) (q, i)).2 = (st', q.name :: seen) := by
  obtain ⟨-, -, hok, hres⟩ := h
  have hvalid := (q.checkShape_valid (q.label i) (q.checkName seen (q.label i) r)).mpr hok
  unfold checkEntry
  dsimp only
  rcases hcheck : q.checkShape (q.label i) (q.checkName seen (q.label i) r) with ⟨r', valid⟩
  rw [hcheck] at hvalid
  subst hvalid
  dsimp only
  rw [checkQuery_state lookup catalog e q _ r' st hres]
  rfl

/-- The run lemma: the report after checking a list of queries is valid exactly when it was
before and every query is accepted, each at the state the ones before it left. -/
theorem foldl_checkEntry_isValid : ∀ (qs : List QueryDefinition) (n : Nat) (r : Report) (st : σ)
    (seen : List String),
    ((qs.zipIdx n).foldl (checkEntry lookup catalog) (r, st, seen)).1.isValid = true ↔
      r.isValid = true ∧ QueriesAccepted lookup catalog e seen st qs
  | [], _, _, _, _ => by simp [QueriesAccepted]
  | q :: qs, n, r, st, seen => by
    have hstep := checkEntry_raises lookup catalog e q r st seen n
    have hnext : ∀ st', Accepted lookup catalog e seen st q st' →
        (checkEntry lookup catalog (r, st, seen) (q, n)).2 = (st', q.name :: seen) :=
      fun _ hacc => checkEntry_of_accepted lookup catalog e q r st seen n hacc
    rw [List.zipIdx_cons, List.foldl_cons]
    generalize checkEntry lookup catalog (r, st, seen) (q, n) = acc at hstep hnext
    obtain ⟨r', st₁, seen₁⟩ := acc
    rw [foldl_checkEntry_isValid qs (n + 1) r' st₁ seen₁, hstep.isValid_iff]
    simp only [QueriesAccepted]
    constructor
    · rintro ⟨⟨hvalid, st', hacc⟩, hrest⟩
      obtain ⟨rfl, rfl⟩ := Prod.mk.inj (hnext st' hacc)
      exact ⟨hvalid, _, hacc, hrest⟩
    · rintro ⟨hvalid, st', hacc, hrest⟩
      obtain ⟨rfl, rfl⟩ := Prod.mk.inj (hnext st' hacc)
      exact ⟨⟨hvalid, _, hacc⟩, hrest⟩

/-- The findings raised while checking a list of queries, query by query, each list carrying
the label of its query. -/
theorem foldl_checkEntry_raised : ∀ (qs : List QueryDefinition) (n : Nat) (r : Report) (st : σ)
    (seen : List String), ∃ raised : List (List Diagnostic),
      List.Forall₂ (fun ds p => ∀ d ∈ ds, d.query = p.1.label p.2) raised (qs.zipIdx n) ∧
      ((qs.zipIdx n).foldl (checkEntry lookup catalog) (r, st, seen)).1 = r.addAll raised.flatten
  | [], _, r, _, _ => ⟨[], .nil, rfl⟩
  | q :: qs, n, r, st, seen => by
    obtain ⟨ds, hr', hlabel, -⟩ :=
      checkEntry_raises lookup catalog ({} : Query.Expander K) q r st seen n
    rw [List.zipIdx_cons, List.foldl_cons]
    generalize checkEntry lookup catalog (r, st, seen) (q, n) = acc at hr'
    obtain ⟨r', st₁, seen₁⟩ := acc
    obtain ⟨raised, hraised, hfold⟩ := foldl_checkEntry_raised qs (n + 1) r' st₁ seen₁
    refine ⟨ds :: raised, .cons hlabel hraised, ?_⟩
    rw [hfold, List.flatten_cons, Report.addAll_append, ← hr']

theorem checkFile_raises (qf : QueryFile) :
    r.Raises "" (qf.version = "1") (qf.checkFile r) := by
  unfold checkFile
  exact ((Report.raises_ite_addError ..).trans (Report.raises_ite_addWarning ..)).congr (by simp)

/-- A query file validates exactly when it is given, has version `1`, and every query passes
every check, each looked up at the state the ones before it left, and builds with the expander
`e`, whatever it is. The diagnostics are those about the whole file, which concern no query,
then query after query those raised for the query, each carrying the query's label. -/
theorem file_validates_iff_every_query_builds (qf : Option QueryFile) (st : σ) :
    ((validate qf lookup catalog st).1.isValid = true ↔
      ∃ f, qf = some f ∧ f.version = "1" ∧ QueriesAccepted lookup catalog e [] st f.queries) ∧
    ∀ f, qf = some f → ∃ (whole : List Diagnostic) (raised : List (List Diagnostic)),
      (∀ d ∈ whole, d.query = "") ∧
      List.Forall₂ (fun ds p => ∀ d ∈ ds, d.query = p.1.label p.2) raised f.queries.zipIdx ∧
      (validate qf lookup catalog st).1 = ({} : Report).addAll (whole ++ raised.flatten) := by
  cases qf with
  | none =>
    refine ⟨?_, fun f hf => absurd hf (by simp)⟩
    simp [validate, Report.isValid, Report.addError, Report.add]
  | some f =>
    obtain ⟨whole, hhead, hwhole, hversion⟩ := checkFile_raises ({} : Report) f
    have hvalid := foldl_checkEntry_isValid lookup catalog e f.queries 0 (f.checkFile {}) st []
    obtain ⟨raised, hraised, hfold⟩ :=
      foldl_checkEntry_raised lookup catalog f.queries 0 (f.checkFile {}) st []
    simp only [validate] at hvalid hfold ⊢
    refine ⟨?_, fun f' hf' => ?_⟩
    · rw [hvalid, (checkFile_raises ({} : Report) f).isValid_iff]
      simp
    · cases hf'
      refine ⟨whole, raised, hwhole, hraised, ?_⟩
      rw [hfold, hhead, Report.addAll_append]

end QueryFile

end EntityQuery
