import EntityQuery.QueryFile.Basic
/-!
# Query files through a YAML library

Query files are read and written by a YAML library that is not part of this library:
`YamlCodec N` stands for it, `N` being its document nodes. A query file needs of it the decoding
of a text into a file (`unmarshal`), the encoding of a file as text (`marshal`, and `marshalNil`
for a missing file), and, for the package list, the kind of a node and the decoding of a node
into a string or into a list of strings.

The library decodes every field of a file from the value of the key the field's tag names, and
encodes it under that key, leaving out the fields marked `omitempty` when they are zero or empty.
The package list has reading and writing code of its own, which the library calls as hooks:
`StringOrArray.unmarshal` reads one string (an empty string for no packages) or a list of
strings, and refuses any other node; `StringOrArray.marshal` writes one package as a string and
any other number of packages as a list.

`QueryFile.parseWith` reads a file and fills in its defaults; `QueryFile.marshalWith` writes one.

What a file's round trip relies on the library for is `YamlCodec.ReadsBack`: decoding what it
encoded for a file gives back every field, the ones left out for being zero or empty included,
and hands the package list's reading hook a node that holds what the writing hook gave
(`YamlCodec.Holds`): a string node that decodes to the string, or a sequence node that decodes to
the list.
-/

set_option autoImplicit false

namespace EntityQuery

namespace YamlCodec

/-- The kind of a document node, with the number the library gives it. -/
inductive NodeKind where
  | document
  | sequence
  | mapping
  | scalar
  | alias
deriving DecidableEq, Repr

/-- The number of a node kind, as messages print it. -/
def NodeKind.code : NodeKind → Nat
  | .document => 1
  | .sequence => 2
  | .mapping => 4
  | .scalar => 8
  | .alias => 16

/-- Why a node did not decode: type errors, one message each, which the library collects while
it goes on with the rest of the document, or a failure, which stops it. -/
inductive DecodeError where
  | typeErrors (messages : List String)
  | failure (message : String)
deriving DecidableEq, Repr

/-- What a writing hook hands the library to write in place of a value: a string, or a list of
strings. -/
inductive Written where
  | string (s : String)
  | strings (items : List String)
deriving DecidableEq, Repr

end YamlCodec

open YamlCodec in
/-- The YAML library, over its document nodes `N`. -/
structure YamlCodec (N : Type) where
  /-- The kind of a node. -/
  kind : N → NodeKind
  /-- A node decoded into a string. -/
  decodeString : N → Except DecodeError String
  /-- A node decoded into a list of strings. -/
  decodeStrings : N → Except DecodeError (List String)
  /-- A text decoded into a new file, each field from the value of its key, the package list by
  the reading hook on its node (a null value leaves it absent); the error is the library's
  message. -/
  unmarshal : (N → Except DecodeError (List String)) → String → Except String QueryFile
  /-- A file encoded as text, the package list as the writing hook gives it. -/
  marshal : (List String → Written) → QueryFile → String
  /-- The text written for a missing file. -/
  marshalNil : String

variable {N : Type}

namespace StringOrArray

open YamlCodec

/-- Reading a package list: a string is one package, or none when it is empty; a list of strings
is the packages; any other node is refused. -/
def unmarshal (y : YamlCodec N) (n : N) : Except DecodeError (List String) :=
  match y.kind n with
  | .scalar => (y.decodeString n).map fun s => if s != "" then [s] else []
  | .sequence => y.decodeStrings n
  | k => .error (.failure ("expected string or array, got " ++ toString k.code))

/-- Writing a package list: one package as a string, any other number as a list. -/
def marshal : List String → Written
  | [p] => .string p
  | ps => .strings ps

end StringOrArray

namespace QueryFile

/-- Read a query file from YAML text with the library, and fill in its defaults. -/
def parseWith (y : YamlCodec N) (text : String) : Except String QueryFile :=
  match y.unmarshal (StringOrArray.unmarshal y) text with
  | .error e => .error ("failed to parse query YAML: " ++ e)
  | .ok qf => .ok qf.withDefaults

/-- The YAML text of a query file, written by the library. -/
def marshalWith (y : YamlCodec N) (qf : QueryFile) : String :=
  y.marshal StringOrArray.marshal qf

end QueryFile

namespace YamlCodec

variable (y : YamlCodec N)

/-- A node holds what a writing hook gave: a string node that decodes to the string, or a
sequence node that decodes to the list. -/
def Holds : Written → N → Prop
  | .string s, n => y.kind n = .scalar ∧ y.decodeString n = .ok s
  | .strings items, n => y.kind n = .sequence ∧ y.decodeStrings n = .ok items

/-- The library reads back what it writes for the file `qf`, the package list written by the hook
`w`: every field comes back as it was, those left out for being zero or empty included. An empty
package list is left out and comes back absent; any other is handed to the reading hook as a node
holding what `w` gave, and a hook that reads every such node as `items` has `items` put in the
file. -/
structure ReadsBack (w : List String → Written) (qf : QueryFile) : Prop where
  omitted : qf.packages.getD [] = [] →
    ∀ hook, y.unmarshal hook (y.marshal w qf) = .ok { qf with packages := none }
  written : qf.packages.getD [] ≠ [] → ∀ hook items,
    (∀ n, y.Holds (w (qf.packages.getD [])) n → hook n = .ok items) →
    y.unmarshal hook (y.marshal w qf) = .ok { qf with packages := some items }

end YamlCodec

end EntityQuery
