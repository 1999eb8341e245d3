/-!
# Diagnostics

Findings about a query file, each with a severity, a code, a message, and optionally the query
and the field it concerns. A `Report` keeps errors, warnings and infos apart, each list in the
order the findings were added; `all` lists the errors, then the warnings, then the infos. The
report is valid when it has no error; its error text joins the errors' texts with `; `.

A finding is written `[query] field: [code] message`, leaving out the parts that are empty
(and the colon when neither query nor field is given).
-/

set_option autoImplicit false

namespace EntityQuery

/-- How serious a finding is. -/
inductive Severity where
  | info
  | warning
  | error
deriving DecidableEq, Repr

/-- The name of a severity. -/
def Severity.text : Severity → String
  | .info => "info"
  | .warning => "warning"
  | .error => "error"

/-- One finding. -/
structure Diagnostic where
  severity : Severity
  code : String
  message : String
  /-- The query concerned, empty for the whole file. -/
  query : String := ""
  /-- The field concerned, empty for none. -/
  field : String := ""
deriving DecidableEq, Repr

/-- `[query] field: [code] message`, without the parts that are empty. -/
def Diagnostic.render (d : Diagnostic) : String :=
  let head := (if d.query != "" then ["[" ++ d.query ++ "]"] else []) ++
    (if d.field != "" then [d.field] else [])
  let msg := if d.code != "" then "[" ++ d.code ++ "] " ++ d.message else d.message
  if head.isEmpty then msg else " ".intercalate head ++ ": " ++ msg

/-- Findings kept by severity, each in the order added. -/
structure Report where
  errors : List Diagnostic := []
  warnings : List Diagnostic := []
  infos : List Diagnostic := []
deriving DecidableEq, Repr

namespace Report

/-- Adds a finding to the list of its severity. -/
def add (r : Report) (d : Diagnostic) : Report :=
  match d.severity with
  | .error => { r with errors := r.errors ++ [d] }
  | .warning => { r with warnings := r.warnings ++ [d] }
  | .info => { r with infos := r.infos ++ [d] }

/-- Adds an error. -/
def addError (r : Report) (code message query field : String) : Report :=
  r.add ⟨.error, code, message, query, field⟩

/-- Adds a warning. -/
def addWarning (r : Report) (code message query field : String) : Report :=
  r.add ⟨.warning, code, message, query, field⟩

/-- Adds an info. -/
def addInfo (r : Report) (code message query field : String) : Report :=
  r.add ⟨.info, code, message, query, field⟩

/-- Adds findings, in order. -/
def addAll (r : Report) (ds : List Diagnostic) : Report := ds.foldl add r

/-- Appends the findings of another report, severity by severity. -/
def merge (r other : Report) : Report :=
  ⟨r.errors ++ other.errors, r.warnings ++ other.warnings, r.infos ++ other.infos⟩

/-- All findings: errors, then warnings, then infos. -/
def all (r : Report) : List Diagnostic := r.errors ++ r.warnings ++ r.infos

/-- The findings about one query. -/
def byQuery (r : Report) (query : String) : List Diagnostic := r.all.filter (·.query == query)

/-- A report without errors. -/
def isValid (r : Report) : Bool := r.errors.isEmpty

/-- The report has errors. -/
def hasErrors (r : Report) : Bool := !r.errors.isEmpty

/-- `<errors> error(s), <warnings> warning(s)`. -/
def summary (r : Report) : String :=
  toString r.errors.length ++ " error(s), " ++ toString r.warnings.length ++ " warning(s)"

/-- The errors' texts joined by `; `, or `none` for a valid report. -/
def errorText (r : Report) : Option String :=
  if r.isValid then none else some ("; ".intercalate (r.errors.map Diagnostic.render))

end Report

end EntityQuery
