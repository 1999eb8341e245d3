import EntityQuery.Workspace
import EntityQuery.QueryFile.Decode
import EntityQuery.Samples.Store

/-!
# The command line

Two commands work on the sample data model (the store and warehouse packages below the module
`soql-mapper`):

* `check` reads a query file on standard input, validates every query against the packages
  that the flags and the file name, and prints the diagnostics with a summary; it fails when
  there are errors.
* `expand -t TYPE TEMPLATE` (or `expand -t TYPE --id ID`) prints the query a template expands
  to for an entity type, with `--offset` and `--limit` for paging.

Flags common to both: `-p`/`--packages` (patterns, comma separated, repeatable), `--opaque`
(package paths whose types are scalars) and `--depth` (relationship hops of a wildcard).

Running a command is a pure function of the arguments and the input text; it yields the text
for standard output and standard error and the exit status.
-/

set_option autoImplicit false

namespace EntityQuery

namespace Command

/-- What a run prints and how it ends. -/
structure Outcome where
  out : String := ""
  err : String := ""
  status : UInt32 := 0

/-- The settings of one command line. -/
structure Options where
  packages : List String := []
  opaquePaths : List String := []
  depth : Int := Query.defaultDepth
  type : Option String := none
  offset : Int := 0
  limit : Int := 0
  id : String := ""
  help : Bool := false
  /-- The arguments that are not flags, in order. -/
  positional : List String := []

/-- The name the command line goes by. -/
def program : String := "entityquery"

/-- The packages a command can load. -/
def available : List Package :=
  [Samples.storePackage "soql-mapper", Samples.warehousePackage "soql-mapper"] ++
    Samples.libraryPackages

def usage : String :=
  "Expand query templates against entity types.\n\n" ++
  "Usage:\n" ++
  "  " ++ program ++ " check [flags] < queries.yaml\n" ++
  "  " ++ program ++ " expand -t TYPE [--offset N] [--limit N] [flags] TEMPLATE\n" ++
  "  " ++ program ++ " expand -t TYPE --id ID [flags]\n\n" ++
  "Flags:\n" ++
  "  -p, --packages strings   package patterns to load\n" ++
  "      --opaque strings     package path prefixes whose types are treated as scalars\n" ++
  "      --depth int          relationship hops a wildcard follows (default 5)\n" ++
  "  -t, --type string        root entity type\n" ++
  "      --offset int         number of records to skip\n" ++
  "      --limit int          maximum number of records\n" ++
  "      --id string          select the record with this id instead of expanding a template\n"

/-- The long name of a one-letter flag. -/
def longName (c : Char) : Option String :=
  match c with
  | 'p' => some "packages"
  | 't' => some "type"
  | 'h' => some "help"
  | _ => none

/-- The flags that take a value. -/
def takesValue (name : String) : Bool :=
  ["packages", "opaque", "depth", "type", "offset", "limit", "id"].contains name

/-- An integer flag's value. -/
def intValue (name value : String) : Except String Int :=
  match value.toInt? with
  | some n => .ok n
  | none => .error ("invalid argument " ++ Text.quote value ++ " for " ++ Text.quote ("--" ++ name) ++
      " flag: not an integer")

/-- The options with a flag set. -/
def Options.set (o : Options) (name value : String) : Except String Options :=
  match name with
  | "packages" => .ok { o with packages := o.packages ++ value.splitOn "," }
  | "opaque" => .ok { o with opaquePaths := o.opaquePaths ++ value.splitOn "," }
  | "depth" => do return { o with depth := ← intValue name value }
  | "offset" => do return { o with offset := ← intValue name value }
  | "limit" => do return { o with limit := ← intValue name value }
  | "type" => .ok { o with type := some value }
  | "id" => .ok { o with id := value }
  | "help" => .ok { o with help := true }
  | _ => .error ("unknown flag: --" ++ name)

/-- A flag argument as its long name and the value written into it, if any. -/
def flagOf (arg : String) : Option (String × Option String) :=
  match arg.toList with
  | '-' :: '-' :: body@(_ :: _) =>
    match (String.ofList body).splitOn "=" with
    | n :: v :: more => some (n, some ("=".intercalate (v :: more)))
    | _ => some (String.ofList body, none)
  | '-' :: c :: rest =>
    let n := (longName c).getD (String.singleton c)
    match rest with
    | [] => some (n, none)
    | '=' :: v => some (n, some (String.ofList v))
    | v => some (n, some (String.ofList v))
  | _ => none

/-- Read the flags and arguments of a command. -/
def readArgs : List String → Options → Except String Options
  | [], o => .ok o
  | arg :: rest, o =>
    match flagOf arg with
    | none => readArgs rest { o with positional := o.positional ++ [arg] }
    | some (name, some value) => do readArgs rest (← o.set name value)
    | some (name, none) =>
      if takesValue name then
        match rest with
        | value :: more => do readArgs more (← o.set name value)
        | [] => .error ("flag needs an argument: --" ++ name)
      else do readArgs rest (← o.set name "")

/-- A failed run: the error on standard error, once marked and once plain, and status 1. -/
def failure (out text : String) : Outcome :=
  { out, err := "Error: " ++ text ++ "\n" ++ text ++ "\n", status := 1 }

/-- Print a diagnostic with the mark of its severity. -/
def diagnosticLine (d : Diagnostic) : String :=
  let mark := match d.severity with
    | .error => "✗"
    | .warning => "!"
    | .info => "i"
  "  " ++ mark ++ " " ++ d.render ++ "\n"

/-- The diagnostics of a report, a blank line after them, and the summary. -/
def reportText (r : Report) : String :=
  String.join (r.all.map diagnosticLine) ++ (if r.all.isEmpty then "" else "\n") ++
    (if r.hasErrors then r.summary else "✓ " ++ r.summary) ++ "\n"

/-- Validate the query file `text`. -/
def check (o : Options) (text : String) : Outcome :=
  let head := "Checking standard input...\n\n"
  match QueryFile.parse text with
  | .error e => failure head e
  | .ok qf =>
    let qf := qf.setDefaultDepth o.depth
    match Workspace.load available (o.packages ++ qf.packages.getD []) o.opaquePaths with
    | .error e => failure head e
    | .ok w =>
      let r := w.validate qf
      if r.hasErrors then failure (head ++ reportText r) "check failed"
      else { out := head ++ reportText r }

/-- Expand a template, or select a record by id, for an entity type. -/
def expand (o : Options) : Outcome :=
  match o.type with
  | none => failure "" "required flag \"type\" not set"
  | some typeName =>
    if o.positional.length > 1 then
      failure "" ("accepts at most 1 arg, received " ++ toString o.positional.length)
    else if o.positional.isEmpty == (o.id == "") then failure "" "pass either a template or --id"
    else if o.offset < 0 || o.limit < 0 then failure "" "offset and limit must not be negative"
    else
      match Workspace.load available o.packages o.opaquePaths with
      | .error e => failure "" e
      | .ok w =>
        match w.entity typeName with
        | (.error e, _) => failure "" e
        | (.ok d, w) =>
          let c := w.registry.catalog
          let query :=
            if o.id != "" then Query.findById c (some d) o.id o.depth
            else Query.expand c (some d) (o.positional.headD "") o.offset o.limit o.depth
          match query with
          | .ok q => { out := q ++ "\n" }
          | .error e => failure "" e.message

/-- The command reads a query file on standard input. -/
def readsInput (args : List String) : Bool := args.head? == some "check"

/-- Run a command line on the text of standard input. -/
def run (args : List String) (input : String) : Outcome :=
  match args with
  | [] => { out := usage }
  | cmd :: rest =>
    match readArgs rest {} with
    | .error e => failure "" e
    | .ok o =>
      if o.help then { out := usage }
      else if o.depth < 0 then failure "" ("depth " ++ toString o.depth ++ " is negative")
      else
        match cmd with
        | "check" =>
          if o.positional.isEmpty then check o input
          else failure "" ("unknown command " ++ Text.quote (o.positional.headD "") ++ " for " ++
            Text.quote (program ++ " check"))
        | "expand" => expand o
        | "help" | "--help" | "-h" => { out := usage }
        | _ => failure "" ("unknown command " ++ Text.quote cmd ++ " for " ++ Text.quote program)

end Command

end EntityQuery
