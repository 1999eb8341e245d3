import EntityQuery.Yaml.Emit
import EntityQuery.QueryFile.Codec

/-!
# Writing a query file as YAML

The YAML writer of this library, as the program runs it in place of the YAML library's encoder.
Writing goes in two steps, as with any YAML encoder: the file is turned into a tree of values
(strings, integers, lists and mappings with keys in order), and the tree is written as text.

The tree of a file is a mapping: `version`, then `packages` as the package list's writing hook
gives it (left out when there are none), `depth` when set, and `queries` (a list, written `[]`
when empty). Each query is a mapping: the name and the entity always, then the template and the
id when not empty, the paging when not zero and the depth when set.

The text is a block mapping indented by four spaces. A nested value is indented to the next
multiple of four past its mapping's indentation; an item of a list starts with `- `, and a
mapping inside a list has its first key on the line of the `-` and the others two columns past
it.
-/

set_option autoImplicit false

namespace EntityQuery.Yaml

/-- A value as it is handed to the writer: a string, an integer, a list, or a mapping whose keys
are strings, in order. -/
inductive Value where
  | str (s : String)
  | int (n : Int)
  | list (items : List Value)
  | map (entries : List (String × Value))
deriving Repr, Inhabited

/-- Text being written, whether it stands at the start of a line, and whether the next line
goes on after a `- ` already written. -/
structure Writer where
  text : String := ""
  atLineStart : Bool := true
  inline : Bool := false

namespace Writer

def spaces (n : Nat) : String := String.ofList (List.replicate n ' ')

/-- Start a line at `indent`, breaking the current one unless it is empty; right after a `- `
the line goes on instead. -/
def line (w : Writer) (indent : Nat) : Writer :=
  if w.inline then { w with inline := false }
  else
    { text := w.text ++ (if w.atLineStart then "" else "\n") ++ spaces indent,
      atLineStart := false }

def put (w : Writer) (s : String) : Writer := { w with text := w.text ++ s, atLineStart := false }

/-- A string value at `indent`. -/
def string (w : Writer) (value : String) (indent : Nat) : Writer :=
  let (s, atStart) := writeString value indent
  { text := w.text ++ s, atLineStart := atStart }

end Writer

mutual

/-- The value of a mapping entry whose key stands at column `c`, after its `key:`. -/
def writeEntryValue (c : Nat) (w : Writer) : Value → Writer
  | .str s => w.string s (c / 4 * 4 + 4)
  | .int n => w.put (" " ++ toString n)
  | .list [] => w.put " []"
  | .list (v :: vs) => writeItems (c / 4 * 4 + 4) w (v :: vs)
  | .map [] => w.put " {}"
  | .map (e :: es) => writeEntries (c / 4 * 4 + 4) w (e :: es)

/-- The items of a list, each with its `-` at column `d`. -/
def writeItems (d : Nat) (w : Writer) : List Value → Writer
  | [] => w
  | v :: vs => writeItems d (writeItem d w v) vs

/-- One item of a list, its `-` at column `d`. -/
def writeItem (d : Nat) (w : Writer) : Value → Writer
  | .str s => (w.line d |>.put "-").string s (d + 2)
  | .int n => w.line d |>.put ("- " ++ toString n)
  | .list [] => w.line d |>.put "- []"
  | .list (v :: vs) => writeItems (d + 2) { w.line d |>.put "- " with inline := true } (v :: vs)
  | .map [] => w.line d |>.put "- {}"
  | .map (e :: es) => writeEntries (d + 2) { w.line d |>.put "- " with inline := true } (e :: es)

/-- The entries of a mapping, each with its key at column `c`. -/
def writeEntries (c : Nat) (w : Writer) : List (String × Value) → Writer
  | [] => w
  | (k, v) :: es => writeEntries c (writeEntryValue c (w.line c |>.put (k ++ ":")) v) es

end

/-- The text of a document whose root is a mapping with these entries. -/
def writeMapping (entries : List (String × Value)) : String :=
  ((writeEntries 0 {} entries).line 0).text

end EntityQuery.Yaml

namespace EntityQuery

open Yaml

/-- The entries a query is written with: its name and entity, then the keys that are set. -/
def QueryDefinition.entries (q : QueryDefinition) : List (String × Yaml.Value) :=
  [("name", .str q.name), ("entity", .str q.entity)] ++
  (if q.template != "" then [("template", .str q.template)] else []) ++
  (if q.id != "" then [("id", .str q.id)] else []) ++
  (if q.offset != 0 then [("offset", .int q.offset)] else []) ++
  (if q.limit != 0 then [("limit", .int q.limit)] else []) ++
  (match q.depth with
    | some d => [("depth", .int d)]
    | none => [])

namespace QueryFile

/-- What a writing hook gives, as a value of the tree. -/
def writtenValue : YamlCodec.Written → Yaml.Value
  | .string s => .str s
  | .strings items => .list (items.map .str)

/-- The entries a file is written with: the version, the packages as `hook` gives them when there
are any, the depth when set, and the queries. -/
def entries (hook : List String → YamlCodec.Written) (qf : QueryFile) :
    List (String × Yaml.Value) :=
  [("version", .str qf.version)] ++
  (match qf.packages.getD [] with
    | [] => []
    | ps => [("packages", writtenValue (hook ps))]) ++
  (match qf.depth with
    | some d => [("depth", .int d)]
    | none => []) ++
  [("queries", .list (qf.queries.map fun q => .map q.entries))]

end QueryFile

/-- The YAML text of a query file, the package list written as `hook` gives it. -/
def Yaml.writeFile (hook : List String → YamlCodec.Written) (qf : QueryFile) : String :=
  writeMapping (qf.entries hook)

end EntityQuery
