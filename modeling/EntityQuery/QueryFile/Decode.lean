import EntityQuery.Yaml.Node
import EntityQuery.QueryFile.Encode
import EntityQuery.Text.Quoted
import EntityQuery.Text.Utf8

/-!
# Reading a query file from YAML

The YAML reader of this library, as the program runs it in place of the YAML library's decoder;
with the writer it makes `Yaml.library`, the `YamlCodec` the program's `QueryFile.parse` and
`QueryFile.marshal` use.

The first document of the text is decoded into a `QueryFile`. Each value is decoded into the
type its key asks for, and a value of the wrong kind is recorded as a type error (with the
line it is on) while decoding goes on; when there are type errors the whole reading fails
with all of them. Some problems stop decoding at once: a tag the value does not fit, bad
`!!binary` data, a malformed merge, and a failure of the package list's reading hook.

Rules that shape the result:

* a null value leaves strings and numbers as they were and clears lists and the depth;
* any non-null scalar is accepted as a string, in the text it was written with;
* an integer field accepts integers and floats up to `2 ^ 63` (cut toward zero);
* elements of a list that do not decode are left out;
* keys that name no field are ignored; a key written twice in one mapping is an error;
* `<<` merges mappings in: keys of the mapping itself win over merged ones, and earlier
  merged mappings over later ones;
* the package list's node is handed to its reading hook, which decodes it on its own: the type
  errors of that decoding are added to the others and leave the list as it was.
-/

set_option autoImplicit false

namespace EntityQuery

namespace QueryFile

open Yaml

/-- The value of a base64 digit. -/
def base64Value (c : Char) : Option Nat :=
  if 'A' ≤ c && c ≤ 'Z' then some (c.toNat - 65)
  else if 'a' ≤ c && c ≤ 'z' then some (c.toNat - 71)
  else if c.isDigit then some (c.toNat + 4)
  else if c == '+' then some 62
  else if c == '/' then some 63
  else none

/-- Base64 groups of four characters, the last one possibly padded with `=`. -/
def decodeQuanta : List Char → Option (List UInt8)
  | [] => some []
  | [a, b, '=', '='] => do
    let x ← base64Value a
    let y ← base64Value b
    return [(x * 4 + y / 16).toUInt8]
  | [a, b, c, '='] => do
    let x ← base64Value a
    let y ← base64Value b
    let z ← base64Value c
    return [(x * 4 + y / 16).toUInt8, ((y % 16) * 16 + z / 4).toUInt8]
  | a :: b :: c :: d :: rest => do
    let x ← base64Value a
    let y ← base64Value b
    let z ← base64Value c
    let w ← base64Value d
    let more ← decodeQuanta rest
    return [(x * 4 + y / 16).toUInt8, ((y % 16) * 16 + z / 4).toUInt8, ((z % 4) * 64 + w).toUInt8] ++ more
  | _ => none

/-- Standard padded base64, line breaks ignored. -/
def decodeBase64 (s : String) : Option (List UInt8) :=
  decodeQuanta (s.toList.filter fun c => c != '\r' && c != '\n')

/-- What decoding carries along: the type errors so far, the keys already set when merging,
and the aliases being merged (to stop a mapping merging itself). -/
structure DecodeState where
  errors : Array String := #[]
  merged : Option (List String) := none
  active : List (String × Nat × Nat) := []

abbrev DecodeM := StateT DecodeState (Except String)

def addError (msg : String) : DecodeM Unit :=
  modify fun s => { s with errors := s.errors.push msg }

/-- The value part of a type error: the scalar's text, cut to seven bytes when it is long. -/
def shownValue (n : Node) (tag : String) : String :=
  if tag == "!!seq" || tag == "!!map" then ""
  else
    let bytes := Text.utf8Bytes n.value.toList
    if bytes.length > 10 then " `" ++ Text.ofBytesLossy (bytes.take 7) ++ "...`"
    else " `" ++ n.value ++ "`"

/-- Record that node `n` cannot be decoded into `target`. -/
def typeError (n : Node) (tag target : String) : DecodeM Unit :=
  let tag := if n.tag != "" then n.tag else tag
  addError ("line " ++ toString n.line ++ ": cannot unmarshal " ++ shortTag tag ++
    shownValue n tag ++ " into " ++ target)

/-- The pairs of keys of a mapping written twice: each key with every later key of the same kind
and text. -/
def duplicatePairs : List Node → List (Node × Node)
  | [] => []
  | ki :: rest =>
    rest.filterMap (fun kj =>
      if ki.kindCode == kj.kindCode && ki.value == kj.value then some (ki, kj) else none) ++
    duplicatePairs rest

/-- Record keys written twice in a mapping; true when there were any. -/
def duplicateKeys (n : Node) : DecodeM Bool := do
  match n with
  | .mapping _ pairs _ =>
    let dups := duplicatePairs (pairs.map (·.1))
    dups.forM fun (ki, kj) =>
      addError ("line " ++ toString kj.line ++ ": mapping key " ++ Text.quote kj.value ++
        " already defined at line " ++ toString ki.line)
    return !dups.isEmpty
  | _ => return false

/-- The tag and value of a scalar node, with `!!binary` data decoded into the string. -/
def scalarValue (n : Node) : DecodeM (String × Resolved) :=
  match n with
  | .scalar tag value _ _ =>
    if tag == "!!str" then return ("!!str", .str value)
    else
      match Yaml.resolve tag value with
      | .error e => throw e
      | .ok (rtag, r) =>
        if rtag == "!!binary" then
          match decodeBase64 value with
          | some bytes => return (rtag, .str (Text.ofBytesLossy bytes))
          | none => throw "yaml: !!binary value contains invalid base64 data"
        else return (rtag, r)
  | _ => return ("", .null)

/-- Decode into a string; false when nothing was set. -/
def decodeString (doc : Document) (n : Node) (current : String) : DecodeM (Bool × String) := do
  let n := doc.resolveAlias n
  match n with
  | .scalar .. =>
    let (rtag, r) ← scalarValue n
    match r with
    | .null => return (false, current)
    | .str s => return (true, if rtag == "!!binary" then s else n.value)
    | _ => return (true, n.value)
  | .mapping .. =>
    if ← duplicateKeys n then return (false, current)
    typeError n "!!map" "string"
    return (false, current)
  | _ =>
    typeError n "!!seq" "string"
    return (false, current)

/-- A double cut toward zero into 64 bits; out of range gives the least value. -/
def truncateInt64 (f : Number.Binary64) : Int :=
  match f.truncate with
  | some t => if -Int.pow 2 63 ≤ t && t < Int.pow 2 63 then t else -Int.pow 2 63
  | none => -Int.pow 2 63

/-- Decode into an integer; false when nothing was set. -/
def decodeInt (doc : Document) (n : Node) (current : Int) : DecodeM (Bool × Int) := do
  let n := doc.resolveAlias n
  match n with
  | .scalar .. =>
    let (rtag, r) ← scalarValue n
    match r with
    | .null => return (false, current)
    | .int v => return (true, v)
    | .float f =>
      if f.atMostTwoPow63 then return (true, truncateInt64 f)
      typeError n rtag "int"
      return (false, current)
    | _ =>
      typeError n rtag "int"
      return (false, current)
  | .mapping .. =>
    if ← duplicateKeys n then return (false, current)
    typeError n "!!map" "int"
    return (false, current)
  | _ =>
    typeError n "!!seq" "int"
    return (false, current)

/-- Decode into an optional integer: null clears it, anything else decodes as an integer. -/
def decodeIntRef (doc : Document) (n : Node) (current : Option Int) :
    DecodeM (Bool × Option Int) := do
  let n := doc.resolveAlias n
  if n.tag == "!!null" then return (true, none)
  let (good, v) ← decodeInt doc n (current.getD 0)
  return (good, some v)

/-- Decode the elements of a list of strings, leaving out those that do not decode. -/
def decodeStrings (doc : Document) (items : List Node) : DecodeM (List String) := do
  let out ← items.foldlM (fun (out : Array String) item => do
    let (good, s) ← decodeString doc item ""
    return if good then out.push s else out) #[]
  return out.toList

/-- A node of a document, with the document its aliases point into: what the reader hands the
package list's reading hook. -/
structure DocNode where
  doc : Document
  node : Node

/-- The package list's reading hook. -/
abbrev PackagesHook := DocNode → Except YamlCodec.DecodeError (List String)

/-- Decode the package list: a null value clears it; any other node goes to the hook, whose type
errors are recorded and leave the list as it was. -/
def decodePackages (hook : PackagesHook) (doc : Document) (n : Node)
    (current : Option (List String)) : DecodeM (Option (List String)) := do
  let n := doc.resolveAlias n
  if n.tag == "!!null" then return none
  match hook ⟨doc, n⟩ with
  | .ok items => return some items
  | .error (.typeErrors messages) =>
    modify fun s => { s with errors := s.errors ++ messages.toArray }
    return current
  | .error (.failure message) => throw message

/-- A decoding run on its own, as for a node decoded by a hook: its type errors are its
outcome's. -/
def decodeAlone {α : Type} (m : DecodeM α) : Except YamlCodec.DecodeError α :=
  match m.run {} with
  | .error e => .error (.failure e)
  | .ok (a, st) => if st.errors.isEmpty then .ok a else .error (.typeErrors st.errors.toList)

namespace DocNode

/-- The kind of a node. -/
def kind (n : DocNode) : YamlCodec.NodeKind :=
  match n.node with
  | .scalar .. => .scalar
  | .sequence .. => .sequence
  | .mapping .. => .mapping
  | .alias .. => .alias

/-- A node decoded into a string. -/
def decodeString (n : DocNode) : Except YamlCodec.DecodeError String :=
  decodeAlone ((QueryFile.decodeString n.doc n.node "").map (·.2))

/-- A node decoded into a list of strings: the elements of a sequence that decode. -/
def decodeStrings (n : DocNode) : Except YamlCodec.DecodeError (List String) :=
  decodeAlone do
    match n.doc.resolveAlias n.node with
    | .sequence _ items _ => QueryFile.decodeStrings n.doc items
    | .scalar .. =>
      let (rtag, r) ← scalarValue n.node
      if let .null := r then return []
      typeError n.node rtag "[]string"
      return []
    | m =>
      typeError m "!!map" "[]string"
      return []

end DocNode

/-- Whether a key is the merge key `<<`. -/
def isMergeKey : Node → Bool
  | .scalar tag value _ _ => value == "<<" && tag == "!!merge"
  | _ => false

/-- The keys of a mapping that decode to strings. -/
def stringKeys (doc : Document) (n : Node) : DecodeM (List String) := do
  match n with
  | .mapping _ pairs _ =>
    let mut out : List String := []
    for (k, _) in pairs do
      let k := doc.resolveAlias k
      if let .scalar .. := k then
        if let (_, .str s) ← scalarValue k then out := s :: out
    return out
  | _ => return []

def mergeError {α : Type} : DecodeM α :=
  throw "yaml: map merge requires map or sequence of maps as the value"

/-- Decoding the entries of a mapping into a record: the keys set so far when merging, the
record, the fields already set, and the value of the merge key. -/
structure RecordWalk (α : Type) where
  merged : Option (List String)
  value : α
  done : List String
  mergeNode : Option Node

/-- Set the field a key names, unless it was set already (an error). -/
def setEntryField {α : Type} (target : String) (fields : List String)
    (setField : String → Node → α → DecodeM α) (w : RecordWalk α) (k : Node) (name : String)
    (value : Node) : DecodeM (RecordWalk α) := do
  if fields.contains name then
    if w.done.contains name then
      addError ("line " ++ toString k.line ++ ": field " ++ name ++ " already set in type " ++
        target)
      return w
    let v ← setField name value w.value
    return { w with done := name :: w.done, value := v }
  else return w

/-- Decode one entry of a mapping into a record: the merge key is kept for later, a key that
does not decode is skipped, and when merging a key set before is skipped too. -/
def decodeEntry {α : Type} (doc : Document) (target : String) (fields : List String)
    (setField : String → Node → α → DecodeM α) (w : RecordWalk α) (p : Node × Node) :
    DecodeM (RecordWalk α) := do
  let (k, value) := p
  if isMergeKey k then return { w with mergeNode := some value }
  let (good, name) ← decodeString doc k ""
  if !good then return w
  match w.merged with
  | some m =>
    if m.contains name then return w
    setEntryField target fields setField { w with merged := some (name :: m) } k name value
  | none => setEntryField target fields setField w k name value

/-- Decode a mapping into a record whose fields are named `fields`; `setField` decodes one
field's value. `target` names the record type in messages. -/
def decodeRecord {α : Type} (doc : Document) (target : String) (fields : List String)
    (setField : String → Node → α → DecodeM α) : Nat → Node → α → DecodeM (Bool × α)
  | 0, _, v => return (false, v)
  | fuel + 1, n, v => do
    let n := doc.resolveAlias n
    match n with
    | .mapping _ pairs _ =>
      if ← duplicateKeys n then return (false, v)
      let merged := (← get).merged
      modify fun s => { s with merged := none }
      let walk ← pairs.foldlM (decodeEntry doc target fields setField) ⟨merged, v, [], none⟩
      let mut v := walk.value
      modify fun s => { s with merged := walk.merged }
      match walk.mergeNode with
      | none => return (true, v)
      | some m =>
        let saved := (← get).merged
        if saved.isNone then
          let keys ← stringKeys doc n
          modify fun s => { s with merged := some keys }
        let mergeOne (x : Node) (v : α) : DecodeM α := do
          match x with
          | .alias name t line =>
            match doc.resolveAlias x with
            | .mapping .. =>
              if (← get).active.contains (name, t, line) then
                throw ("yaml: anchor '" ++ name ++ "' value contains itself")
              modify fun s => { s with active := (name, t, line) :: s.active }
              let (_, v) ← decodeRecord doc target fields setField fuel x v
              modify fun s => { s with active := s.active.drop 1 }
              return v
            | _ => mergeError
          | .mapping .. => return (← decodeRecord doc target fields setField fuel x v).2
          | _ => mergeError
        match m with
        | .sequence _ items _ =>
          for item in items do
            v ← mergeOne item v
        | _ => v ← mergeOne m v
        if saved.isNone then modify fun s => { s with merged := none }
        return (true, v)
    | .scalar .. =>
      let (rtag, r) ← scalarValue n
      if let .null := r then return (false, v)
      typeError n rtag target
      return (false, v)
    | _ =>
      typeError n "!!seq" target
      return (false, v)

def queryFields : List String := ["name", "entity", "template", "id", "offset", "limit", "depth"]

def setQueryField (doc : Document) (name : String) (n : Node) (q : QueryDefinition) :
    DecodeM QueryDefinition := do
  match name with
  | "name" => return { q with name := (← decodeString doc n q.name).2 }
  | "entity" => return { q with entity := (← decodeString doc n q.entity).2 }
  | "template" => return { q with template := (← decodeString doc n q.template).2 }
  | "id" => return { q with id := (← decodeString doc n q.id).2 }
  | "offset" => return { q with offset := (← decodeInt doc n q.offset).2 }
  | "limit" => return { q with limit := (← decodeInt doc n q.limit).2 }
  | "depth" => return { q with depth := (← decodeIntRef doc n q.depth).2 }
  | _ => return q

/-- How deep decoding may go: merges through aliases are the only way to nest. -/
def fuelOf (doc : Document) : Nat := doc.bound * (doc.anchors.size + 1) + 8

/-- Decode the query list, leaving out entries that are not mappings. -/
def decodeQueries (doc : Document) (n : Node) (current : List QueryDefinition) :
    DecodeM (List QueryDefinition) := do
  let n := doc.resolveAlias n
  match n with
  | .sequence _ items _ =>
    let out ← items.foldlM (fun (out : Array QueryDefinition) item => do
      let (good, q) ← decodeRecord doc "querydef.Query" queryFields (setQueryField doc)
        (fuelOf doc) item {}
      return if good then out.push q else out) #[]
    return out.toList
  | .scalar .. =>
    let (rtag, r) ← scalarValue n
    if let .null := r then return []
    typeError n rtag "[]querydef.Query"
    return current
  | _ =>
    if ← duplicateKeys n then return current
    typeError n "!!map" "[]querydef.Query"
    return current

def fileFields : List String := ["version", "packages", "depth", "queries"]

def setFileField (hook : PackagesHook) (doc : Document) (name : String) (n : Node)
    (qf : QueryFile) : DecodeM QueryFile := do
  match name with
  | "version" => return { qf with version := (← decodeString doc n qf.version).2 }
  | "packages" => return { qf with packages := ← decodePackages hook doc n qf.packages }
  | "depth" => return { qf with depth := (← decodeIntRef doc n qf.depth).2 }
  | "queries" => return { qf with queries := ← decodeQueries doc n qf.queries }
  | _ => return qf

/-- Decode a document into a query file (no defaults applied). -/
def decodeDocument (hook : PackagesHook) (doc : Document) : Except String QueryFile :=
  match doc.root with
  | none => .ok {}
  | some root =>
    match (decodeRecord doc "querydef.QueryFile" fileFields (setFileField hook doc) (fuelOf doc)
        root {}).run {} with
    | .error e => .error e
    | .ok ((_, qf), st) =>
      if st.errors.isEmpty then .ok qf
      else .error ("yaml: unmarshal errors:\n  " ++ "\n  ".intercalate st.errors.toList)

/-- Read a query file from YAML text, the package list by `hook` (no defaults applied). -/
def readFile (hook : PackagesHook) (text : String) : Except String QueryFile :=
  match readDocument text with
  | .error e => .error e.message
  | .ok doc => decodeDocument hook doc

end QueryFile

/-- The YAML reader and writer of this library, as the program runs them. -/
def Yaml.library : YamlCodec QueryFile.DocNode where
  kind := QueryFile.DocNode.kind
  decodeString := QueryFile.DocNode.decodeString
  decodeStrings := QueryFile.DocNode.decodeStrings
  unmarshal := QueryFile.readFile
  marshal := Yaml.writeFile
  marshalNil := "null\n"

namespace QueryFile

/-- Read a query file from YAML text and fill in its defaults. -/
def parse (text : String) : Except String QueryFile := parseWith Yaml.library text

/-- The YAML text of a query file. -/
def marshal (qf : QueryFile) : String := marshalWith Yaml.library qf

/-- The YAML text written for a missing file. -/
def marshalNone : String := Yaml.library.marshalNil

end QueryFile

end EntityQuery
