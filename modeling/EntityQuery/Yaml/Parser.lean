import EntityQuery.Yaml.Scanner

/-!
# From tokens to events

The parser is a state machine over the token stream. Each call produces one event: the start
and end of the stream, of a document, of a sequence or a mapping, a scalar or an alias.
Nested collections are tracked by a stack of phases (what to do once the current node is
complete) and a stack of positions where the open collections started, used in error messages.

A tag written with a handle (`!!int`, `!x!y`) is expanded through the document's tag
directives, which always include `!` and `!!` (the latter standing for `tag:yaml.org,2002:`).
-/

set_option autoImplicit false

namespace EntityQuery.Yaml

/-- What an event is. An empty anchor or tag means there is none. -/
inductive EventKind where
  | streamStart
  | streamEnd
  | documentStart
  | documentEnd
  | alias (name : String)
  | scalar (anchor tag value : String) (style : ScalarStyle)
  | sequenceStart (anchor tag : String) (flow : Bool)
  | sequenceEnd
  | mappingStart (anchor tag : String) (flow : Bool)
  | mappingEnd
deriving Repr, Inhabited, DecidableEq

/-- An event and where it starts. -/
structure Event where
  kind : EventKind
  start : Mark
deriving Repr, Inhabited

/-- What the parser expects next. -/
inductive Phase where
  | streamStart
  | implicitDocumentStart
  | documentStart
  | documentContent
  | documentEnd
  | blockNode
  | blockNodeOrIndentlessSequence
  | flowNode
  | blockSequenceFirstEntry
  | blockSequenceEntry
  | indentlessSequenceEntry
  | blockMappingFirstKey
  | blockMappingKey
  | blockMappingValue
  | flowSequenceFirstEntry
  | flowSequenceEntry
  | flowSequenceEntryMappingKey
  | flowSequenceEntryMappingValue
  | flowSequenceEntryMappingEnd
  | flowMappingFirstKey
  | flowMappingKey
  | flowMappingValue
  | flowMappingEmptyValue
  | finished
deriving Repr, Inhabited, DecidableEq

/-- The parser's state. -/
structure Parser where
  scanner : Scanner
  phase : Phase := .streamStart
  phases : List Phase := []
  marks : List Mark := []
  tagDirectives : List (String × String) := []
  streamEnded : Bool := false

/-- Parsing: state, and failure with a reading error. -/
abbrev ParseM := StateT Parser (Except ReadError)

/-- The prefix `!!` stands for. -/
def coreTagPrefix : String := "tag:yaml.org,2002:"

namespace Parser

def scan {α : Type} (m : ScanM α) : ParseM α := do
  let p ← get
  let (a, s) ← StateT.lift (m.run p.scanner)
  set { p with scanner := s }
  return a

def token : ParseM Token := scan Scanner.peekToken

def skipToken : ParseM Unit := do
  let t ← token
  scan Scanner.skipToken
  if t.kind == .streamEnd then modify fun p => { p with streamEnded := true }

def fail {α : Type} (problem : String) (mark : Mark) : ParseM α :=
  throw (.malformed .parser "" {} problem mark)

def failIn {α : Type} (context : String) (contextMark : Mark) (problem : String) (mark : Mark) :
    ParseM α :=
  throw (.malformed .parser context contextMark problem mark)

def setPhase (q : Phase) : ParseM Unit := modify fun p => { p with phase := q }

def pushPhase (q : Phase) : ParseM Unit := modify fun p => { p with phases := q :: p.phases }

/-- Continue with the phase saved when the current node began. -/
def popPhase : ParseM Unit := modify fun p =>
  match p.phases with
  | q :: rest => { p with phase := q, phases := rest }
  | [] => p

def pushMark (m : Mark) : ParseM Unit := modify fun p => { p with marks := m :: p.marks }

def popMark : ParseM Mark := do
  let p ← get
  match p.marks with
  | m :: rest =>
    set { p with marks := rest }
    return m
  | [] => return {}

/-- A bound on the tokens still to come, for loops over them. -/
def bound : ParseM Nat := do
  let p ← get
  return p.scanner.text.size - p.scanner.mark.index + 8

def emptyScalar (mark : Mark) : Event := { kind := .scalar "" "" "" .plain, start := mark }

def isDirective : TokenKind → Bool
  | .versionDirective _ _ => true
  | .tagDirective _ _ => true
  | _ => false

/-- Read the directives before a document and install the default tag handles. -/
def processDirectives : ParseM Unit := do
  let mut versionSeen := false
  let n ← bound
  for _ in [0:n] do
    let t ← token
    match t.kind with
    | .versionDirective major minor =>
      if versionSeen then fail "found duplicate %YAML directive" t.start
      if major != 1 || minor != 1 then fail "found incompatible YAML document" t.start
      versionSeen := true
      skipToken
    | .tagDirective handle pfx =>
      if (← get).tagDirectives.any (·.1 == handle) then
        fail "found duplicate %TAG directive" t.start
      modify fun p => { p with tagDirectives := p.tagDirectives ++ [(handle, pfx)] }
      skipToken
    | _ => break
  for (handle, pfx) in [("!", "!"), ("!!", coreTagPrefix)] do
    if !(← get).tagDirectives.any (·.1 == handle) then
      modify fun p => { p with tagDirectives := p.tagDirectives ++ [(handle, pfx)] }

def streamStart : ParseM Event := do
  let t ← token
  if t.kind != .streamStart then fail "did not find expected <stream-start>" t.start
  setPhase .implicitDocumentStart
  skipToken
  return { kind := .streamStart, start := t.start }

def documentStart (implicit : Bool) : ParseM Event := do
  let mut t ← token
  if !implicit then
    let n ← bound
    for _ in [0:n] do
      if t.kind == .documentEnd then
        skipToken
        t ← token
      else break
  if implicit && !(isDirective t.kind || t.kind == .documentStart || t.kind == .streamEnd) then
    processDirectives
    pushPhase .documentEnd
    setPhase .blockNode
    return { kind := .documentStart, start := t.start }
  else if t.kind != .streamEnd then
    let start := t.start
    processDirectives
    let u ← token
    if u.kind != .documentStart then fail "did not find expected <document start>" u.start
    pushPhase .documentEnd
    setPhase .documentContent
    skipToken
    return { kind := .documentStart, start }
  else
    setPhase .finished
    skipToken
    return { kind := .streamEnd, start := t.start }

def documentEnd : ParseM Event := do
  let t ← token
  if t.kind == .documentEnd then skipToken
  modify fun p => { p with tagDirectives := [], phase := .documentStart }
  return { kind := .documentEnd, start := t.start }

/-- A node: an alias, or a scalar or collection start with its anchor and tag. -/
def node (block indentless : Bool) : ParseM Event := do
  let t ← token
  if let .alias name := t.kind then
    popPhase
    skipToken
    return { kind := .alias name, start := t.start }
  let start := t.start
  let mut t := t
  let mut anchor := ""
  let mut tagged := false
  let mut handle := ""
  let mut suffix := ""
  let mut tagMark : Mark := {}
  match t.kind with
  | .anchor name =>
    anchor := name
    skipToken
    t ← token
    if let .tag h x := t.kind then
      tagged := true
      handle := h
      suffix := x
      tagMark := t.start
      skipToken
      t ← token
  | .tag h x =>
    tagged := true
    handle := h
    suffix := x
    tagMark := t.start
    skipToken
    t ← token
    if let .anchor name := t.kind then
      anchor := name
      skipToken
      t ← token
  | _ => pure ()
  let mut tag := ""
  if tagged then
    if handle.isEmpty then tag := suffix
    else
      match (← get).tagDirectives.lookup handle with
      | some pfx => tag := pfx ++ suffix
      | none => failIn "while parsing a node" start "found undefined tag handle" tagMark
  if indentless && t.kind == .blockEntry then
    setPhase .indentlessSequenceEntry
    return { kind := .sequenceStart anchor tag false, start }
  match t.kind with
  | .scalar value style =>
    popPhase
    skipToken
    return { kind := .scalar anchor tag value style, start }
  | .flowSequenceStart =>
    setPhase .flowSequenceFirstEntry
    return { kind := .sequenceStart anchor tag true, start }
  | .flowMappingStart =>
    setPhase .flowMappingFirstKey
    return { kind := .mappingStart anchor tag true, start }
  | .blockSequenceStart =>
    if block then
      setPhase .blockSequenceFirstEntry
      return { kind := .sequenceStart anchor tag false, start }
  | .blockMappingStart =>
    if block then
      setPhase .blockMappingFirstKey
      return { kind := .mappingStart anchor tag false, start }
  | _ => pure ()
  if !anchor.isEmpty || !tag.isEmpty then
    popPhase
    return { kind := .scalar anchor tag "" .plain, start }
  failIn (if block then "while parsing a block node" else "while parsing a flow node") start
    "did not find expected node content" t.start

def blockSequenceEntry (first : Bool) : ParseM Event := do
  if first then
    pushMark (← token).start
    skipToken
  let t ← token
  if t.kind == .blockEntry then
    let mark := t.stop
    skipToken
    let t ← token
    if t.kind != .blockEntry && t.kind != .blockEnd then
      pushPhase .blockSequenceEntry
      node true false
    else
      setPhase .blockSequenceEntry
      return emptyScalar mark
  else if t.kind == .blockEnd then
    popPhase
    let _ ← popMark
    skipToken
    return { kind := .sequenceEnd, start := t.start }
  else
    let m ← popMark
    failIn "while parsing a block collection" m "did not find expected '-' indicator" t.start

def indentlessSequenceEntry : ParseM Event := do
  let t ← token
  if t.kind == .blockEntry then
    let mark := t.stop
    skipToken
    let t ← token
    if t.kind != .blockEntry && t.kind != .key && t.kind != .value && t.kind != .blockEnd then
      pushPhase .indentlessSequenceEntry
      node true false
    else
      setPhase .indentlessSequenceEntry
      return emptyScalar mark
  else
    popPhase
    return { kind := .sequenceEnd, start := t.start }

def blockMappingKey (first : Bool) : ParseM Event := do
  if first then
    pushMark (← token).start
    skipToken
  let t ← token
  if t.kind == .key then
    let mark := t.stop
    skipToken
    let t ← token
    if t.kind != .key && t.kind != .value && t.kind != .blockEnd then
      pushPhase .blockMappingValue
      node true true
    else
      setPhase .blockMappingValue
      return emptyScalar mark
  else if t.kind == .blockEnd then
    popPhase
    let _ ← popMark
    skipToken
    return { kind := .mappingEnd, start := t.start }
  else
    let m ← popMark
    failIn "while parsing a block mapping" m "did not find expected key" t.start

def blockMappingValue : ParseM Event := do
  let t ← token
  if t.kind == .value then
    let mark := t.stop
    skipToken
    let t ← token
    if t.kind != .key && t.kind != .value && t.kind != .blockEnd then
      pushPhase .blockMappingKey
      node true true
    else
      setPhase .blockMappingKey
      return emptyScalar mark
  else
    setPhase .blockMappingKey
    return emptyScalar t.start

def flowSequenceEntry (first : Bool) : ParseM Event := do
  if first then
    pushMark (← token).start
    skipToken
  let mut t ← token
  if t.kind != .flowSequenceEnd then
    if !first then
      if t.kind == .flowEntry then
        skipToken
        t ← token
      else
        let m ← popMark
        failIn "while parsing a flow sequence" m "did not find expected ',' or ']'" t.start
    if t.kind == .key then
      setPhase .flowSequenceEntryMappingKey
      skipToken
      return { kind := .mappingStart "" "" true, start := t.start }
    else if t.kind != .flowSequenceEnd then
      pushPhase .flowSequenceEntry
      return ← node false false
  popPhase
  let _ ← popMark
  skipToken
  return { kind := .sequenceEnd, start := t.start }

def flowSequenceEntryMappingKey : ParseM Event := do
  let t ← token
  if t.kind != .value && t.kind != .flowEntry && t.kind != .flowSequenceEnd then
    pushPhase .flowSequenceEntryMappingValue
    node false false
  else
    let mark := t.stop
    skipToken
    setPhase .flowSequenceEntryMappingValue
    return emptyScalar mark

def flowSequenceEntryMappingValue : ParseM Event := do
  let t ← token
  if t.kind == .value then
    skipToken
    let t ← token
    if t.kind != .flowEntry && t.kind != .flowSequenceEnd then
      pushPhase .flowSequenceEntryMappingEnd
      return ← node false false
    setPhase .flowSequenceEntryMappingEnd
    return emptyScalar t.start
  setPhase .flowSequenceEntryMappingEnd
  return emptyScalar t.start

def flowSequenceEntryMappingEnd : ParseM Event := do
  let t ← token
  setPhase .flowSequenceEntry
  return { kind := .mappingEnd, start := t.start }

def flowMappingKey (first : Bool) : ParseM Event := do
  if first then
    pushMark (← token).start
    skipToken
  let mut t ← token
  if t.kind != .flowMappingEnd then
    if !first then
      if t.kind == .flowEntry then
        skipToken
        t ← token
      else
        let m ← popMark
        failIn "while parsing a flow mapping" m "did not find expected ',' or '\x7d'" t.start
    if t.kind == .key then
      skipToken
      let u ← token
      if u.kind != .value && u.kind != .flowEntry && u.kind != .flowMappingEnd then
        pushPhase .flowMappingValue
        return ← node false false
      else
        setPhase .flowMappingValue
        return emptyScalar u.start
    else if t.kind != .flowMappingEnd then
      pushPhase .flowMappingEmptyValue
      return ← node false false
  popPhase
  let _ ← popMark
  skipToken
  return { kind := .mappingEnd, start := t.start }

def flowMappingValue (empty : Bool) : ParseM Event := do
  let t ← token
  if empty then
    setPhase .flowMappingKey
    return emptyScalar t.start
  if t.kind == .value then
    skipToken
    let t ← token
    if t.kind != .flowEntry && t.kind != .flowMappingEnd then
      pushPhase .flowMappingKey
      return ← node false false
    setPhase .flowMappingKey
    return emptyScalar t.start
  setPhase .flowMappingKey
  return emptyScalar t.start

def documentContent : ParseM Event := do
  let t ← token
  if isDirective t.kind || t.kind == .documentStart || t.kind == .documentEnd ||
      t.kind == .streamEnd then
    popPhase
    return emptyScalar t.start
  node true false

/-- The next event; after the end of the stream, the stream end again. -/
def next : ParseM Event := do
  let p ← get
  if p.streamEnded || p.phase == .finished then
    return { kind := .streamEnd, start := p.scanner.mark }
  match p.phase with
  | .streamStart => streamStart
  | .implicitDocumentStart => documentStart true
  | .documentStart => documentStart false
  | .documentContent => documentContent
  | .documentEnd => documentEnd
  | .blockNode => node true false
  | .blockNodeOrIndentlessSequence => node true true
  | .flowNode => node false false
  | .blockSequenceFirstEntry => blockSequenceEntry true
  | .blockSequenceEntry => blockSequenceEntry false
  | .indentlessSequenceEntry => indentlessSequenceEntry
  | .blockMappingFirstKey => blockMappingKey true
  | .blockMappingKey => blockMappingKey false
  | .blockMappingValue => blockMappingValue
  | .flowSequenceFirstEntry => flowSequenceEntry true
  | .flowSequenceEntry => flowSequenceEntry false
  | .flowSequenceEntryMappingKey => flowSequenceEntryMappingKey
  | .flowSequenceEntryMappingValue => flowSequenceEntryMappingValue
  | .flowSequenceEntryMappingEnd => flowSequenceEntryMappingEnd
  | .flowMappingFirstKey => flowMappingKey true
  | .flowMappingKey => flowMappingKey false
  | .flowMappingValue => flowMappingValue false
  | .flowMappingEmptyValue => flowMappingValue true
  | .finished => return { kind := .streamEnd, start := p.scanner.mark }

end Parser

end EntityQuery.Yaml
