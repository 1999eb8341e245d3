import EntityQuery.Yaml.Parser
import EntityQuery.Yaml.Resolve

/-!
# Documents as trees of nodes

The events of the first document are assembled into a tree. Each node keeps its tag and the
line it starts on (counted from one). A scalar without a written tag gets the tag its text
resolves to, a quoted or block scalar the string tag.

Anchored nodes are numbered in the order their anchors appear and kept in a table; an alias
is a leaf holding the number of the node its anchor named when the alias was read (a later
anchor of the same name rebinds it). Since an anchor is bound when its node starts, an alias
may refer to a node that contains it.
-/

set_option autoImplicit false

namespace EntityQuery.Yaml

/-- A node of a YAML document. -/
inductive Node where
  | scalar (tag value : String) (style : ScalarStyle) (line : Nat)
  | sequence (tag : String) (items : List Node) (line : Nat)
  | mapping (tag : String) (pairs : List (Node × Node)) (line : Nat)
  /-- An alias: its anchor's name and the number of the anchored node. -/
  | alias (name : String) (target : Nat) (line : Nat)
deriving Repr, Inhabited

namespace Node

/-- The kind of a node as a number: sequence 2, mapping 4, scalar 8, alias 16. -/
def kindCode : Node → Nat
  | .scalar .. => 8
  | .sequence .. => 2
  | .mapping .. => 4
  | .alias .. => 16

/-- The text of a scalar, the name of an alias, empty for collections. -/
def value : Node → String
  | .scalar _ v _ _ => v
  | .alias name _ _ => name
  | _ => ""

def tag : Node → String
  | .scalar t _ _ _ => t
  | .sequence t _ _ => t
  | .mapping t _ _ => t
  | .alias .. => ""

def line : Node → Nat
  | .scalar _ _ _ l => l
  | .sequence _ _ l => l
  | .mapping _ _ l => l
  | .alias _ _ l => l

end Node

/-- The first document of a stream: its root (none for an empty stream) and the table of
anchored nodes. -/
structure Document where
  root : Option Node
  anchors : Array Node
  /-- A bound on the nesting of the document: its length and a little more. -/
  bound : Nat

namespace Document

/-- The node an alias stands for; other nodes are themselves. -/
def resolveAlias (doc : Document) : Node → Node
  | .alias _ target _ => doc.anchors.getD target default
  | n => n

end Document

/-- The state of assembling nodes: the parser, one event read ahead, anchor bindings and the
anchored nodes. -/
structure Composer where
  parser : Parser
  pending : Option Event := none
  names : List (String × Nat) := []
  anchors : Array Node := #[]

abbrev ComposeM := StateT Composer (Except ReadError)

namespace Composer

def liftParse {α : Type} (m : ParseM α) : ComposeM α := do
  let c ← get
  let (a, p) ← StateT.lift (m.run c.parser)
  set { c with parser := p }
  return a

def peekEvent : ComposeM Event := do
  match (← get).pending with
  | some e => return e
  | none =>
    let e ← liftParse Parser.next
    modify fun c => { c with pending := some e }
    return e

def consume : ComposeM Unit := modify fun c => { c with pending := none }

/-- Bind an anchor name to a fresh number. -/
def reserve (anchor : String) : ComposeM (Option Nat) := do
  if anchor.isEmpty then return none
  let c ← get
  let id := c.anchors.size
  set { c with anchors := c.anchors.push default, names := (anchor, id) :: c.names }
  return some id

def fill (id : Option Nat) (n : Node) : ComposeM Unit :=
  match id with
  | some i => modify fun c => { c with anchors := c.anchors.set! i n }
  | none => pure ()

def bound : ComposeM Nat := do
  let c ← get
  return c.parser.scanner.text.size - c.parser.scanner.mark.index + 8

/-- The tag of a node: the written one, unless absent or `!`. -/
def nodeTag (written fallback : String) : String :=
  if written != "" && written != "!" then shortTag written else fallback

/-- Assemble the node starting at the next event. -/
def compose : Nat → ComposeM Node
  | 0 => throw (.invalid "yaml: document nested too deeply")
  | fuel + 1 => do
    let e ← peekEvent
    let line := e.start.line + 1
    match e.kind with
    | .scalar anchor tag value style =>
      let fallback :=
        if style != .plain then "!!str" else if value == "<<" then "!!merge" else resolvedTag value
      let n := Node.scalar (nodeTag tag fallback) value style line
      let id ← reserve anchor
      fill id n
      consume
      return n
    | .alias name =>
      match (← get).names.lookup name with
      | none => throw (.invalid ("yaml: unknown anchor '" ++ name ++ "' referenced"))
      | some id =>
        consume
        return .alias name id line
    | .sequenceStart anchor tag _ =>
      let id ← reserve anchor
      consume
      let mut items : Array Node := #[]
      let n ← bound
      for _ in [0:n] do
        if (← peekEvent).kind == .sequenceEnd then break
        items := items.push (← compose fuel)
      consume
      let node := Node.sequence (nodeTag tag "!!seq") items.toList line
      fill id node
      return node
    | .mappingStart anchor tag _ =>
      let id ← reserve anchor
      consume
      let mut pairs : Array (Node × Node) := #[]
      let n ← bound
      for _ in [0:n] do
        if (← peekEvent).kind == .mappingEnd then break
        let k ← compose fuel
        let v ← compose fuel
        pairs := pairs.push (k, v)
      consume
      let node := Node.mapping (nodeTag tag "!!map") pairs.toList line
      fill id node
      return node
    | _ => throw (.invalid "yaml: unexpected event")

/-- The first document of the stream. -/
def document : ComposeM (Option Node) := do
  let _ ← peekEvent
  consume
  let e ← peekEvent
  match e.kind with
  | .documentStart =>
    consume
    let root ← compose ((← bound) + 1)
    let _ ← peekEvent
    consume
    return some root
  | _ => return none

end Composer

/-- Read the first document of a YAML text. -/
def readDocument (input : String) : Except ReadError Document := do
  if input.toList.any (fun c => !isAllowedChar c) then
    throw (.malformed .reader "" {} "control characters are not allowed" {})
  let input := if input.isEmpty then "\n" else input
  let (root, c) ← Composer.document.run { parser := { scanner := Scanner.start input } }
  return { root, anchors := c.anchors, bound := input.length + 8 }

end EntityQuery.Yaml
