import Mathlib.Data.List.Sort
import EntityQuery.Diagnostic

/-!
# A report is its log of findings

A report grows by single findings (`addError`, `addWarning`, `addInfo`) and by merging in other
reports, the report itself included. `Report.Built r log` says that such steps from the empty
report give `r`, with `log` the findings in the order they were added, a merged report adding
its own log at the point of the merge.

Whatever the steps, the report keeps of each severity exactly the log's findings of that
severity, in log order (`Built.ofSeverity_eq`). Its reads follow (`reads_follow_added_log`):
`all` is the log under a stable sort that puts errors before warnings before infos, which is
the log cut into its errors, warnings and infos (`mergeSort_bySeverity`); `byQuery` is `all`
filtered on the query; the summary counts the log's errors and warnings; the error text joins
the log's errors, and is there exactly when the report has errors.

Reads are functions of the report: none of them changes it.
-/

set_option autoImplicit false

namespace EntityQuery

/-- Errors rank above warnings, warnings above infos. -/
def Severity.rank : Severity → Nat
  | .info => 0
  | .warning => 1
  | .error => 2

/-- The order of a listing that puts the more severe findings first. -/
def Diagnostic.bySeverity (a b : Diagnostic) : Bool := b.severity.rank ≤ a.severity.rank

namespace Report

/-- The findings of one severity. -/
def ofSeverity (r : Report) : Severity → List Diagnostic
  | .error => r.errors
  | .warning => r.warnings
  | .info => r.infos

/-- The log's findings of one severity, in log order. -/
def logged (log : List Diagnostic) (s : Severity) : List Diagnostic :=
  log.filter (·.severity == s)

@[simp] theorem logged_nil (s : Severity) : logged [] s = [] := rfl

@[simp] theorem logged_append (log log' : List Diagnostic) (s : Severity) :
    logged (log ++ log') s = logged log s ++ logged log' s :=
  List.filter_append ..

@[simp] theorem logged_cons (d : Diagnostic) (log : List Diagnostic) (s : Severity) :
    logged (d :: log) s = if d.severity = s then d :: logged log s else logged log s := by
  by_cases h : d.severity = s <;> simp [logged, h]

/-- `Built r log`: adding findings and merging reports, from the empty report, gives `r`; `log`
holds the findings in the order they were added, a merged report's own log in its place. -/
inductive Built : Report → List Diagnostic → Prop
  | empty : Built {} []
  | addError {r : Report} {log : List Diagnostic} (code message query field : String) :
      Built r log →
      Built (r.addError code message query field) (log ++ [⟨.error, code, message, query, field⟩])
  | addWarning {r : Report} {log : List Diagnostic} (code message query field : String) :
      Built r log →
      Built (r.addWarning code message query field)
        (log ++ [⟨.warning, code, message, query, field⟩])
  | addInfo {r : Report} {log : List Diagnostic} (code message query field : String) :
      Built r log →
      Built (r.addInfo code message query field) (log ++ [⟨.info, code, message, query, field⟩])
  | merge {r other : Report} {log log' : List Diagnostic} :
      Built r log → Built other log' → Built (r.merge other) (log ++ log')

/-! ### One step at a time -/

@[simp] theorem ofSeverity_empty (s : Severity) : ({} : Report).ofSeverity s = [] := by
  cases s <;> rfl

theorem ofSeverity_add (r : Report) (d : Diagnostic) (s : Severity) :
    (r.add d).ofSeverity s = r.ofSeverity s ++ logged [d] s := by
  unfold add
  cases hd : d.severity <;> cases s <;> simp [ofSeverity, hd]

@[simp] theorem ofSeverity_merge (r other : Report) (s : Severity) :
    (r.merge other).ofSeverity s = r.ofSeverity s ++ other.ofSeverity s := by
  cases s <;> rfl

/-- Every severity's list is the log's findings of that severity. -/
theorem Built.ofSeverity_eq {r : Report} {log : List Diagnostic} (h : Built r log)
    (s : Severity) : r.ofSeverity s = logged log s := by
  induction h with
  | empty => simp
  | addError _ _ _ _ _ ih => rw [Report.addError, ofSeverity_add, ih, logged_append]
  | addWarning _ _ _ _ _ ih => rw [Report.addWarning, ofSeverity_add, ih, logged_append]
  | addInfo _ _ _ _ _ ih => rw [Report.addInfo, ofSeverity_add, ih, logged_append]
  | merge _ _ ih ih' => rw [ofSeverity_merge, ih, ih', logged_append]

/-! ### The listing by severity -/

theorem bySeverity_trans (a b c : Diagnostic) :
    Diagnostic.bySeverity a b → Diagnostic.bySeverity b c → Diagnostic.bySeverity a c := by
  simp only [Diagnostic.bySeverity, decide_eq_true_eq]
  omega

theorem bySeverity_total (a b : Diagnostic) :
    (Diagnostic.bySeverity a b || Diagnostic.bySeverity b a) = true := by
  simp only [Diagnostic.bySeverity, Bool.or_eq_true, decide_eq_true_eq]
  omega

/-- A list with the more severe findings first is its errors, then its warnings, then its
infos. -/
theorem eq_logged_of_pairwise {l : List Diagnostic}
    (h : l.Pairwise (Diagnostic.bySeverity · ·)) :
    l = logged l .error ++ logged l .warning ++ logged l .info := by
  induction l with
  | nil => rfl
  | cons a t ih =>
    rw [List.pairwise_cons] at h
    have below : ∀ b ∈ t, b.severity.rank ≤ a.severity.rank := by
      simpa [Diagnostic.bySeverity] using h.1
    have none_above (s : Severity) (hs : a.severity.rank < s.rank) : logged t s = [] := by
      unfold logged
      rw [List.filter_eq_nil_iff]
      intro b hb heq
      have := below b hb
      rw [beq_iff_eq.mp heq] at this
      omega
    have ih := ih h.2
    -- below an info only infos follow, below a warning no error
    cases ha : a.severity
    · have he := none_above .error (by simp [ha, Severity.rank])
      have hw := none_above .warning (by simp [ha, Severity.rank])
      simpa [ha, he, hw] using ih
    · have he := none_above .error (by simp [ha, Severity.rank])
      simpa [ha, he] using ih
    · simpa [ha, List.append_assoc] using ih

/-- Sorting keeps the findings of each severity in their order. -/
theorem logged_mergeSort (l : List Diagnostic) (s : Severity) :
    logged (l.mergeSort Diagnostic.bySeverity) s = logged l s := by
  -- the findings of one severity are sorted already, so the sort keeps them in order
  have sorted : (logged l s).Pairwise (Diagnostic.bySeverity · ·) := by
    apply List.pairwise_of_forall_mem_list
    intro a ha b hb
    simp only [logged, List.mem_filter, beq_iff_eq] at ha hb
    simp [Diagnostic.bySeverity, ha.2, hb.2]
  have sub : List.Sublist (logged l s) (l.mergeSort Diagnostic.bySeverity) :=
    List.sublist_mergeSort bySeverity_trans bySeverity_total sorted List.filter_sublist
  have sub' : List.Sublist (logged l s) (logged (l.mergeSort Diagnostic.bySeverity) s) := by
    simpa [logged, List.filter_filter] using sub.filter (·.severity == s)
  have len : (logged l s).length = (logged (l.mergeSort Diagnostic.bySeverity) s).length :=
    ((List.mergeSort_perm l _).filter _).length_eq.symm
  exact (sub'.eq_of_length len).symm

/-- The stable sort with the more severe findings first cuts a list into its errors, its
warnings and its infos. -/
theorem mergeSort_bySeverity (l : List Diagnostic) :
    l.mergeSort Diagnostic.bySeverity = logged l .error ++ logged l .warning ++ logged l .info := by
  have sorted := List.pairwise_mergeSort bySeverity_trans bySeverity_total l
  rw [eq_logged_of_pairwise sorted, logged_mergeSort, logged_mergeSort, logged_mergeSort]

/-! ### What a built report reads -/

/-- Whatever steps built a report, its reads are those of its log: the listing is the log sorted
stably with errors first, then warnings, then infos; the findings of a query are the listing's
findings of that query; the summary counts the log's errors and warnings; the report has errors
exactly when it is not valid and exactly when it has an error text, which joins the texts of the
log's errors in log order. -/
theorem reads_follow_added_log {r : Report} {log : List Diagnostic} (h : Built r log)
    (query : String) :
    r.all = log.mergeSort Diagnostic.bySeverity ∧
    r.byQuery query = r.all.filter (·.query == query) ∧
    r.summary = toString (log.countP (·.severity == .error)) ++ " error(s), " ++
      toString (log.countP (·.severity == .warning)) ++ " warning(s)" ∧
    r.hasErrors = log.any (·.severity == .error) ∧ r.isValid = !r.hasErrors ∧
    r.errorText = if r.hasErrors then
      some ("; ".intercalate ((logged log .error).map Diagnostic.render)) else none := by
  have he : r.errors = logged log .error := h.ofSeverity_eq .error
  have hw : r.warnings = logged log .warning := h.ofSeverity_eq .warning
  have hi : r.infos = logged log .info := h.ofSeverity_eq .info
  refine ⟨?_, rfl, ?_, ?_, ?_, ?_⟩
  · rw [mergeSort_bySeverity, all, he, hw, hi]
  · simp only [summary, he, hw, logged, List.countP_eq_length_filter]
  · rw [hasErrors, he]
    cases hany : log.any (·.severity == .error) <;> simp_all [logged, List.filter_eq_nil_iff]
  · simp [hasErrors, isValid]
  · simp [errorText, isValid, hasErrors, he]

/-- A report of a warning and an error merged into itself: its log holds both twice. -/
theorem reads_follow_added_log_self_merge :
    let r := (({} : Report).addWarning "late" "slow" "q" "").addError "bad" "broken" "q" "depth"
    let log : List Diagnostic :=
      [⟨.warning, "late", "slow", "q", ""⟩, ⟨.error, "bad", "broken", "q", "depth"⟩]
    Built (r.merge r) (log ++ log) ∧
      (r.merge r).all = (log ++ log).mergeSort Diagnostic.bySeverity ∧
      (r.merge r).hasErrors = true := by
  intro r log
  have h : Built r log := .addError _ _ _ _ (.addWarning _ _ _ _ .empty)
  obtain ⟨hall, -, -, herr, -⟩ := reads_follow_added_log (h.merge h) "q"
  exact ⟨h.merge h, hall, by rw [herr]; decide⟩

end Report

end EntityQuery
