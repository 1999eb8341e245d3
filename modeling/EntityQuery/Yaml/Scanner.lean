import EntityQuery.Yaml.Token
import EntityQuery.Text.Quoted
import EntityQuery.Text.Utf8

/-!
# Cutting YAML text into tokens

The scanner reads the text one character at a time and keeps a queue of tokens numbered from
the start of the stream. Block structure is found from indentation: when a line starts to the
right of the current indentation a block collection starts, and when it starts to the left
the open collections end.

A key without `?` (a *simple key*) is only known to be a key when the `:` after it arrives.
The scanner therefore remembers, for each flow level, where a simple key could start (its
token number and position). When the `:` comes, the `KEY` token (and, in block context, the
mapping start) is inserted at the remembered token number. A simple key stays possible only
on one line and for 1024 characters; a key that had to be one and is not is an error.

The parser never looks at a token that a pending simple key could still precede: tokens are
fetched until at least three are queued and no possible simple key sits at the head.

Every loop runs at most once per remaining character, which bounds it: each pass consumes a
character or stops.
-/

set_option autoImplicit false

namespace EntityQuery.Yaml

/-- Space or tab. -/
def isBlankChar (c : Char) : Bool := c == ' ' || c == '\t'

/-- The five line break characters of YAML. -/
def isBreakChar (c : Char) : Bool :=
  c == '\r' || c == '\n' || c == '\u0085' || c == '\u2028' || c == '\u2029'

/-- A line break, or the end of the text (read as the character zero). -/
def isBreakOrEnd (c : Char) : Bool := isBreakChar c || c == '\x00'

/-- A blank, a line break or the end of the text. -/
def isBlankOrEnd (c : Char) : Bool := isBlankChar c || isBreakOrEnd c

/-- ASCII letters, digits, `_` and `-`: the characters of anchors, handles and directives. -/
def isWordChar (c : Char) : Bool := c.isAlphanum || c == '_' || c == '-'

/-- Characters that cannot start a plain scalar. -/
def isIndicatorChar (c : Char) : Bool :=
  c == '-' || c == '?' || c == ':' || c == ',' || c == '[' || c == ']' || c == '\x7b' ||
  c == '\x7d' || c == '#' || c == '&' || c == '*' || c == '!' || c == '|' || c == '>' ||
  c == '\'' || c == '"' || c == '%' || c == '@' || c == '\x60'

/-- Characters allowed in the text at all. -/
def isAllowedChar (c : Char) : Bool :=
  let v := c.toNat
  v == 0x09 || v == 0x0A || v == 0x0D || (0x20 ≤ v && v ≤ 0x7E) || v == 0x85 ||
  (0xA0 ≤ v && v ≤ 0xD7FF) || (0xE000 ≤ v && v ≤ 0xFFFD) || (0x10000 ≤ v && v ≤ 0x10FFFF)

/-- Characters of a tag's URI; inside `!<...>` also `,`, `[` and `]`. -/
def isUriChar (c : Char) (verbatim : Bool) : Bool :=
  isWordChar c || c == ';' || c == '/' || c == '?' || c == ':' || c == '@' || c == '&' ||
  c == '=' || c == '+' || c == '$' || c == '.' || c == '!' || c == '~' || c == '*' ||
  c == '\'' || c == '(' || c == ')' || c == '%' ||
  (verbatim && (c == ',' || c == '[' || c == ']'))

/-- The number of bytes of a UTF-8 sequence with this leading byte, zero when it cannot lead. -/
def utf8Width (b : Nat) : Nat :=
  if b < 0x80 then 1 else if b / 32 == 6 then 2 else if b / 16 == 14 then 3
  else if b / 8 == 30 then 4 else 0

/-- A place where a simple key could start. -/
structure SimpleKey where
  possible : Bool := false
  required : Bool := false
  tokenNumber : Nat := 0
  mark : Mark := {}
deriving Inhabited

/-- The scanner's state. -/
structure Scanner where
  text : Array Char
  mark : Mark := {}
  /-- Every token produced, numbered from the start of the stream. -/
  tokens : Array Token := #[]
  /-- How many tokens the parser has consumed: the head of the queue. -/
  parsed : Nat := 0
  tokenAvailable : Bool := false
  started : Bool := false
  flowLevel : Nat := 0
  indent : Int := -1
  indents : List Int := []
  keyAllowed : Bool := false
  /-- One possible simple key per flow level. -/
  keys : Array SimpleKey := #[]
  /-- Token number of a saved simple key to its flow level. -/
  keysByToken : List (Nat × Nat) := []

/-- Scanning: state, and failure with a reading error. -/
abbrev ScanM := StateT Scanner (Except ReadError)

namespace Scanner

/-- The character `k` places ahead, zero past the end. -/
def charAt (s : Scanner) (k : Nat) : Char := s.text.getD (s.mark.index + k) '\x00'

/-- Whether the next four characters are a document marker made of `c`. -/
def atDocumentMarker (s : Scanner) (c : Char) : Bool :=
  s.mark.column == 0 && s.charAt 0 == c && s.charAt 1 == c && s.charAt 2 == c &&
  isBlankOrEnd (s.charAt 3)

/-- The position after one more character on the same line. -/
def advance (s : Scanner) : Scanner :=
  { s with mark := { s.mark with index := s.mark.index + 1, column := s.mark.column + 1 } }

/-- The position after a line break of `width` characters. -/
def nextLine (s : Scanner) (width : Nat) : Scanner :=
  { s with mark := { index := s.mark.index + width, line := s.mark.line + 1, column := 0 } }

/-- The scanner at the start of a text, with a leading byte order mark dropped. -/
def start (input : String) : Scanner :=
  let cs := input.toList
  let cs := match cs with
    | '\uFEFF' :: rest => rest
    | _ => cs
  { text := cs.toArray }

def peekAt (k : Nat) : ScanM Char := do return (← get).charAt k

def peek : ScanM Char := peekAt 0

def skip : ScanM Unit := modify advance

/-- Skip one line break (CR LF counts as one). -/
def skipLine : ScanM Unit := do
  let c ← peek
  if c == '\r' && (← peekAt 1) == '\n' then modify (nextLine · 2)
  else if isBreakChar c then modify (nextLine · 1)

/-- Consume a character and append it. -/
def readChar (acc : String) : ScanM String := do
  let c ← peek
  skip
  return acc.push c

/-- Consume a line break and append it: CR, LF, CR LF and NEL as LF, LS and PS as themselves. -/
def readLine (acc : String) : ScanM String := do
  let c ← peek
  if c == '\r' && (← peekAt 1) == '\n' then
    modify (nextLine · 2)
    return acc.push '\n'
  else if c == '\r' || c == '\n' || c == '\u0085' then
    modify (nextLine · 1)
    return acc.push '\n'
  else if c == '\u2028' || c == '\u2029' then
    modify (nextLine · 1)
    return acc.push c
  else
    return acc

/-- One more than the characters left: a bound for every loop over the text. -/
def remaining : ScanM Nat := do
  let s ← get
  return s.text.size - s.mark.index + 1

def fail {α : Type} (context : String) (contextMark : Mark) (problem : String) : ScanM α := do
  throw (.malformed .scanner context contextMark problem (← get).mark)

def skipWhile (p : Char → Bool) : ScanM Unit := do
  let n ← remaining
  for _ in [0:n] do
    if p (← peek) then skip else break

def eraseKey (m : List (Nat × Nat)) (t : Nat) : List (Nat × Nat) := m.filter (·.1 != t)

/-- Add a token at the end, or at an absolute token number. -/
def insertToken (position : Option Nat) (t : Token) : ScanM Unit := modify fun s =>
  match position with
  | none => { s with tokens := s.tokens.push t }
  | some p => { s with tokens := (s.tokens.toList.take p ++ t :: s.tokens.toList.drop p).toArray }

def lastKeyMark (s : Scanner) : Mark := (s.keys.getD (s.keys.size - 1) {}).mark

/-- Whether the simple key of level `i` is still possible; one that has expired stops being
possible, and is an error when it was required. -/
def keyValid (i : Nat) : ScanM Bool := do
  let s ← get
  let k := s.keys.getD i {}
  if !k.possible then return false
  if k.mark.line < s.mark.line || k.mark.index + 1024 < s.mark.index then
    if k.required then fail "while scanning a simple key" k.mark "could not find expected ':'"
    set { s with keys := s.keys.modify i fun k => { k with possible := false } }
    return false
  return true

/-- Drop the possible simple key of the current flow level. -/
def removeSimpleKey : ScanM Unit := do
  let s ← get
  let i := s.keys.size - 1
  let k := s.keys.getD i {}
  if k.possible then
    if k.required then fail "while scanning a simple key" k.mark "could not find expected ':'"
    set { s with keys := s.keys.modify i (fun k => { k with possible := false }),
                 keysByToken := eraseKey s.keysByToken k.tokenNumber }

/-- Remember that a simple key could start here, when one may. -/
def saveSimpleKey : ScanM Unit := do
  let s ← get
  if s.keyAllowed then
    let key : SimpleKey :=
      { possible := true, required := s.flowLevel == 0 && s.indent == (s.mark.column : Int),
        tokenNumber := s.tokens.size, mark := s.mark }
    removeSimpleKey
    modify fun s =>
      let i := s.keys.size - 1
      { s with keys := s.keys.modify i (fun _ => key),
               keysByToken := (key.tokenNumber, i) :: eraseKey s.keysByToken key.tokenNumber }

def increaseFlowLevel : ScanM Unit := do
  let s ← get
  let key : SimpleKey := { tokenNumber := s.tokens.size, mark := s.mark }
  set { s with keys := s.keys.push key, flowLevel := s.flowLevel + 1 }
  if s.flowLevel + 1 > 10000 then
    fail "while increasing flow level" key.mark "exceeded max depth of 10000"

def decreaseFlowLevel : ScanM Unit := modify fun s =>
  if s.flowLevel > 0 then
    let last := s.keys.getD (s.keys.size - 1) {}
    { s with flowLevel := s.flowLevel - 1, keys := s.keys.pop,
             keysByToken := eraseKey s.keysByToken last.tokenNumber }
  else s

/-- Open a block collection when `column` is right of the current indentation. -/
def rollIndent (column : Int) (number : Option Nat) (kind : TokenKind) (mark : Mark) :
    ScanM Unit := do
  let s ← get
  if s.flowLevel == 0 && s.indent < column then
    set { s with indents := s.indent :: s.indents, indent := column }
    if s.indents.length + 1 > 10000 then
      fail "while increasing indent level" (lastKeyMark s) "exceeded max depth of 10000"
    insertToken number { kind, start := mark, stop := mark }

/-- Close the block collections right of `column`. -/
def unrollIndent (column : Int) (scanMark : Mark) : ScanM Unit := do
  let s ← get
  if s.flowLevel == 0 then
    let blockMark := { scanMark with index := scanMark.index - 1 }
    for _ in [0:s.indents.length] do
      let s ← get
      if s.indent > column then
        match s.indents with
        | i :: rest =>
          set { s with indent := i, indents := rest,
                       tokens := s.tokens.push { kind := .blockEnd, start := blockMark, stop := blockMark } }
        | [] => break
      else break

/-- Skip blanks, comments and line breaks up to the next token. -/
def scanToNextToken : ScanM Unit := do
  let n ← remaining
  for _ in [0:n] do
    let s ← get
    if s.mark.column == 0 && s.charAt 0 == '\uFEFF' then skip
    let s ← get
    let tabs := s.flowLevel > 0 || !s.keyAllowed
    skipWhile fun c => c == ' ' || (tabs && c == '\t')
    if (← peek) == '#' then skipWhile fun c => !isBreakOrEnd c
    if isBreakChar (← peek) then
      skipLine
      if (← get).flowLevel == 0 then modify fun s => { s with keyAllowed := true }
    else break

def fetchStreamStart : ScanM Unit := modify fun s =>
  { s with indent := -1, keys := s.keys.push {}, keysByToken := [], keyAllowed := true,
           started := true,
           tokens := s.tokens.push { kind := .streamStart, start := s.mark, stop := s.mark } }

def fetchStreamEnd : ScanM Unit := do
  modify fun s =>
    if s.mark.column != 0 then { s with mark := { s.mark with column := 0, line := s.mark.line + 1 } }
    else s
  unrollIndent (-1) (← get).mark
  removeSimpleKey
  modify fun s =>
    { s with keyAllowed := false,
             tokens := s.tokens.push { kind := .streamEnd, start := s.mark, stop := s.mark } }

def scanDirectiveName (start : Mark) : ScanM String := do
  let mut name := ""
  let n ← remaining
  for _ in [0:n] do
    if isWordChar (← peek) then name ← readChar name else break
  if name.isEmpty then
    fail "while scanning a directive" start "could not find expected directive name"
  if !isBlankOrEnd (← peek) then
    fail "while scanning a directive" start "found unexpected non-alphabetical character"
  return name

def scanVersionNumber (start : Mark) : ScanM Nat := do
  let mut value := 0
  let mut length := 0
  for _ in [0:3] do
    let c ← peek
    if c.isDigit then
      length := length + 1
      if length > 2 then
        fail "while scanning a %YAML directive" start "found extremely long version number"
      value := value * 10 + (c.toNat - '0'.toNat)
      skip
    else break
  if length == 0 then
    fail "while scanning a %YAML directive" start "did not find expected version number"
  return value

def tagContext (directive : Bool) : String :=
  if directive then "while parsing a %TAG directive" else "while parsing a tag"

/-- A `%XX` run encoding one UTF-8 character. -/
def scanUriEscapes (directive : Bool) (start : Mark) (acc : String) : ScanM String := do
  let mut bytes : List UInt8 := []
  let mut width := 0
  for _ in [0:4] do
    let s ← get
    match s.charAt 0 == '%', Text.hexValue (s.charAt 1), Text.hexValue (s.charAt 2) with
    | true, some a, some b =>
      let octet := a * 16 + b
      if width == 0 then
        width := utf8Width octet
        if width == 0 then
          fail (tagContext directive) start "found an incorrect leading UTF-8 octet"
      else if octet / 64 != 2 then
        fail (tagContext directive) start "found an incorrect trailing UTF-8 octet"
      bytes := bytes ++ [octet.toUInt8]
      skip; skip; skip
      if bytes.length == width then break
    | _, _, _ => fail (tagContext directive) start "did not find URI escaped octet"
  return acc ++ Text.ofBytesLossy bytes

/-- The URI part of a tag; `head` is a handle read before it turned out not to be one. -/
def scanTagUri (verbatim directive : Bool) (head : String) (start : Mark) : ScanM String := do
  let mut acc := String.ofList (head.toList.drop 1)
  let mut found := !head.isEmpty
  let n ← remaining
  for _ in [0:n] do
    let c ← peek
    if !isUriChar c verbatim then break
    if c == '%' then acc ← scanUriEscapes directive start acc
    else acc ← readChar acc
    found := true
  if !found then fail (tagContext directive) start "did not find expected tag URI"
  return acc

def scanTagHandle (directive : Bool) (start : Mark) : ScanM String := do
  if (← peek) != '!' then fail (tagContext directive) start "did not find expected '!'"
  let mut handle ← readChar ""
  let n ← remaining
  for _ in [0:n] do
    if isWordChar (← peek) then handle ← readChar handle else break
  if (← peek) == '!' then handle ← readChar handle
  else if directive && handle != "!" then
    fail (tagContext directive) start "did not find expected '!'"
  return handle

def scanDirective : ScanM Token := do
  let start := (← get).mark
  skip
  let name ← scanDirectiveName start
  let kind ← if name == "YAML" then do
      skipWhile isBlankChar
      let major ← scanVersionNumber start
      if (← peek) != '.' then
        fail "while scanning a %YAML directive" start "did not find expected digit or '.' character"
      skip
      let minor ← scanVersionNumber start
      pure (TokenKind.versionDirective major minor)
    else if name == "TAG" then do
      skipWhile isBlankChar
      let handle ← scanTagHandle true start
      if !isBlankChar (← peek) then
        fail "while scanning a %TAG directive" start "did not find expected whitespace"
      skipWhile isBlankChar
      let pfx ← scanTagUri true true "" start
      if !isBlankOrEnd (← peek) then
        fail "while scanning a %TAG directive" start "did not find expected whitespace or line break"
      pure (TokenKind.tagDirective handle pfx)
    else fail "while scanning a directive" start "found unknown directive name"
  let stop := (← get).mark
  skipWhile isBlankChar
  if (← peek) == '#' then skipWhile fun c => !isBreakOrEnd c
  if !isBreakOrEnd (← peek) then
    fail "while scanning a directive" start "did not find expected comment or line break"
  skipLine
  return { kind, start, stop }

def fetchDirective : ScanM Unit := do
  unrollIndent (-1) (← get).mark
  removeSimpleKey
  modify fun s => { s with keyAllowed := false }
  let t ← scanDirective
  insertToken none t

/-- Consume `width` characters as one token of this kind. -/
def simpleToken (kind : TokenKind) (width : Nat) : ScanM Unit := do
  let start := (← get).mark
  for _ in [0:width] do skip
  insertToken none { kind, start, stop := (← get).mark }

def fetchDocumentMarker (kind : TokenKind) : ScanM Unit := do
  unrollIndent (-1) (← get).mark
  removeSimpleKey
  modify fun s => { s with keyAllowed := false }
  simpleToken kind 3

def fetchCollectionStart (kind : TokenKind) : ScanM Unit := do
  saveSimpleKey
  increaseFlowLevel
  modify fun s => { s with keyAllowed := true }
  simpleToken kind 1

def fetchCollectionEnd (kind : TokenKind) : ScanM Unit := do
  removeSimpleKey
  decreaseFlowLevel
  modify fun s => { s with keyAllowed := false }
  simpleToken kind 1

def fetchFlowEntry : ScanM Unit := do
  removeSimpleKey
  modify fun s => { s with keyAllowed := true }
  simpleToken .flowEntry 1

def fetchBlockEntry : ScanM Unit := do
  let s ← get
  if s.flowLevel == 0 then
    if !s.keyAllowed then
      fail "" s.mark "block sequence entries are not allowed in this context"
    rollIndent s.mark.column none .blockSequenceStart s.mark
  removeSimpleKey
  modify fun s => { s with keyAllowed := true }
  simpleToken .blockEntry 1

def fetchKey : ScanM Unit := do
  let s ← get
  if s.flowLevel == 0 then
    if !s.keyAllowed then fail "" s.mark "mapping keys are not allowed in this context"
    rollIndent s.mark.column none .blockMappingStart s.mark
  removeSimpleKey
  modify fun s => { s with keyAllowed := s.flowLevel == 0 }
  simpleToken .key 1

def fetchValue : ScanM Unit := do
  let i := (← get).keys.size - 1
  if ← keyValid i then
    let key := (← get).keys.getD i {}
    insertToken (some key.tokenNumber) { kind := .key, start := key.mark, stop := key.mark }
    rollIndent key.mark.column (some key.tokenNumber) .blockMappingStart key.mark
    modify fun s =>
      { s with keys := s.keys.modify i (fun k => { k with possible := false }),
               keysByToken := eraseKey s.keysByToken key.tokenNumber, keyAllowed := false }
  else
    let s ← get
    if s.flowLevel == 0 then
      if !s.keyAllowed then fail "" s.mark "mapping values are not allowed in this context"
      rollIndent s.mark.column none .blockMappingStart s.mark
    modify fun s => { s with keyAllowed := s.flowLevel == 0 }
  simpleToken .value 1

def scanAnchor (isAnchor : Bool) : ScanM Token := do
  let start := (← get).mark
  skip
  let mut name := ""
  let n ← remaining
  for _ in [0:n] do
    if isWordChar (← peek) then name ← readChar name else break
  let stop := (← get).mark
  let c ← peek
  if name.isEmpty || !(isBlankOrEnd c || c == '?' || c == ':' || c == ',' || c == ']' ||
      c == '\x7d' || c == '%' || c == '@' || c == '\x60') then
    fail (if isAnchor then "while scanning an anchor" else "while scanning an alias") start
      "did not find expected alphabetic or numeric character"
  return { kind := if isAnchor then .anchor name else .alias name, start, stop }

def fetchAnchor (isAnchor : Bool) : ScanM Unit := do
  saveSimpleKey
  modify fun s => { s with keyAllowed := false }
  let t ← scanAnchor isAnchor
  insertToken none t

def scanTag : ScanM Token := do
  let start := (← get).mark
  let mut handle := ""
  let mut suffix := ""
  if (← peekAt 1) == '<' then
    skip; skip
    suffix ← scanTagUri true false "" start
    if (← peek) != '>' then fail "while scanning a tag" start "did not find the expected '>'"
    skip
  else
    let h ← scanTagHandle false start
    if h.length > 1 && h.endsWith "!" then
      handle := h
      suffix ← scanTagUri false false "" start
    else
      suffix ← scanTagUri false false h start
      handle := "!"
      if suffix.isEmpty then
        handle := ""
        suffix := "!"
  let s ← get
  let c := s.charAt 0
  if !isBlankOrEnd c && (s.flowLevel == 0 || c != ',') then
    fail "while scanning a tag" start "did not find expected whitespace or line break"
  return { kind := .tag handle suffix, start, stop := s.mark }

def fetchTag : ScanM Unit := do
  saveSimpleKey
  modify fun s => { s with keyAllowed := false }
  let t ← scanTag
  insertToken none t

/-- Indentation and empty lines before a block scalar's line: returns the indentation (fixed
now if it was not), the line breaks read, and the end position. -/
def scanBlockBreaks (indent : Nat) (breaks : String) (start : Mark) :
    ScanM (Nat × String × Mark) := do
  let mut breaks := breaks
  let mut stop := (← get).mark
  let mut widest := 0
  let n ← remaining
  for _ in [0:n] do
    let m ← remaining
    for _ in [0:m] do
      let s ← get
      if (indent == 0 || s.mark.column < indent) && s.charAt 0 == ' ' then skip else break
    let s ← get
    if s.mark.column > widest then widest := s.mark.column
    if (indent == 0 || s.mark.column < indent) && s.charAt 0 == '\t' then
      fail "while scanning a block scalar" start
        "found a tab character where an indentation space is expected"
    if !isBreakChar (s.charAt 0) then break
    breaks ← readLine breaks
    stop := (← get).mark
  let outer := (← get).indent
  let indent := if indent == 0 then max widest (max (outer + 1).toNat 1) else indent
  return (indent, breaks, stop)

def scanBlockScalar (literal : Bool) : ScanM Token := do
  let start := (← get).mark
  skip
  let mut chomping : Int := 0
  let mut increment := 0
  let c ← peek
  if c == '+' || c == '-' then
    chomping := if c == '+' then 1 else -1
    skip
    let d ← peek
    if d.isDigit then
      if d == '0' then
        fail "while scanning a block scalar" start "found an indentation indicator equal to 0"
      increment := d.toNat - '0'.toNat
      skip
  else if c.isDigit then
    if c == '0' then
      fail "while scanning a block scalar" start "found an indentation indicator equal to 0"
    increment := c.toNat - '0'.toNat
    skip
    let d ← peek
    if d == '+' || d == '-' then
      chomping := if d == '+' then 1 else -1
      skip
  skipWhile isBlankChar
  if (← peek) == '#' then skipWhile fun c => !isBreakOrEnd c
  if !isBreakOrEnd (← peek) then
    fail "while scanning a block scalar" start "did not find expected comment or line break"
  skipLine
  let outer := (← get).indent
  let indent0 := if increment > 0 then (if outer >= 0 then (outer + increment).toNat else increment) else 0
  let (indent0, breaks0, stop0) ← scanBlockBreaks indent0 "" start
  let mut indent := indent0
  let mut trailingBreaks := breaks0
  let mut stop := stop0
  let mut text := ""
  let mut leadingBreak := ""
  let mut leadingBlank := false
  let n ← remaining
  for _ in [0:n] do
    let s ← get
    if !(s.mark.column == indent && s.charAt 0 != '\x00') then break
    let trailingBlank := isBlankChar (s.charAt 0)
    if !literal && !leadingBlank && !trailingBlank && leadingBreak.startsWith "\n" then
      if trailingBreaks.isEmpty then text := text.push ' '
    else
      text := text ++ leadingBreak
    leadingBreak := ""
    text := text ++ trailingBreaks
    trailingBreaks := ""
    leadingBlank := isBlankChar (s.charAt 0)
    let m ← remaining
    for _ in [0:m] do
      if isBreakOrEnd (← peek) then break
      text ← readChar text
    leadingBreak ← readLine leadingBreak
    let (i, b, e) ← scanBlockBreaks indent trailingBreaks start
    indent := i
    trailingBreaks := b
    stop := e
  if chomping != -1 then text := text ++ leadingBreak
  if chomping == 1 then text := text ++ trailingBreaks
  return { kind := .scalar text (if literal then .literal else .folded), start, stop }

def fetchBlockScalar (literal : Bool) : ScanM Unit := do
  removeSimpleKey
  modify fun s => { s with keyAllowed := true }
  let t ← scanBlockScalar literal
  insertToken none t

/-- The character a double-quoted escape stands for, for the one-letter escapes. -/
def escapedChar : Char → Option Char
  | '0' => some '\x00'
  | 'a' => some '\x07'
  | 'b' => some '\x08'
  | 't' => some '\t'
  | '\t' => some '\t'
  | 'n' => some '\n'
  | 'v' => some '\x0b'
  | 'f' => some '\x0c'
  | 'r' => some '\r'
  | 'e' => some '\x1b'
  | ' ' => some ' '
  | '"' => some '"'
  | '\'' => some '\''
  | '\\' => some '\\'
  | 'N' => some '\u0085'
  | '_' => some '\u00A0'
  | 'L' => some '\u2028'
  | 'P' => some '\u2029'
  | _ => none

/-- The value of `count` hexadecimal digits ahead. -/
def hexAhead (count : Nat) : ScanM (Option Nat) := do
  let s ← get
  let mut value := 0
  for k in [0:count] do
    match Text.hexValue (s.charAt k) with
    | some v => value := value * 16 + v
    | none => return none
  return some value

def scanFlowScalar (single : Bool) : ScanM Token := do
  let start := (← get).mark
  skip
  let mut text := ""
  let mut leadingBreak := ""
  let mut trailingBreaks := ""
  let mut whitespaces := ""
  let n ← remaining
  for _ in [0:n] do
    let s ← get
    if s.atDocumentMarker '-' || s.atDocumentMarker '.' then
      fail "while scanning a quoted scalar" start "found unexpected document indicator"
    if s.charAt 0 == '\x00' then
      fail "while scanning a quoted scalar" start "found unexpected end of stream"
    let mut leadingBlanks := false
    let m ← remaining
    for _ in [0:m] do
      let s ← get
      let c := s.charAt 0
      let d := s.charAt 1
      if isBlankOrEnd c then break
      if single && c == '\'' && d == '\'' then
        text := text.push '\''
        skip; skip
      else if single && c == '\'' then break
      else if !single && c == '"' then break
      else if !single && c == '\\' && isBreakChar d then
        skip
        skipLine
        leadingBlanks := true
        break
      else if !single && c == '\\' then
        let width := if d == 'x' then 2 else if d == 'u' then 4 else if d == 'U' then 8 else 0
        if width == 0 then
          match escapedChar d with
          | some e => text := text.push e
          | none => fail "while parsing a quoted scalar" start "found unknown escape character"
        skip; skip
        if width > 0 then
          match ← hexAhead width with
          | none =>
            fail "while parsing a quoted scalar" start "did not find expected hexdecimal number"
          | some v =>
            if (0xD800 ≤ v && v ≤ 0xDFFF) || v > 0x10FFFF then
              fail "while parsing a quoted scalar" start "found invalid Unicode character escape code"
            text := text.push (Char.ofNat v)
            for _ in [0:width] do skip
      else
        text ← readChar text
    let c ← peek
    if (single && c == '\'') || (!single && c == '"') then break
    let m ← remaining
    for _ in [0:m] do
      let c ← peek
      if isBlankChar c then
        if !leadingBlanks then whitespaces ← readChar whitespaces else skip
      else if isBreakChar c then
        if !leadingBlanks then
          whitespaces := ""
          leadingBreak ← readLine leadingBreak
          leadingBlanks := true
        else
          trailingBreaks ← readLine trailingBreaks
      else break
    if leadingBlanks then
      if leadingBreak.startsWith "\n" then
        if trailingBreaks.isEmpty then text := text.push ' '
        else text := text ++ trailingBreaks
      else
        text := text ++ leadingBreak ++ trailingBreaks
      leadingBreak := ""
      trailingBreaks := ""
    else
      text := text ++ whitespaces
      whitespaces := ""
  skip
  return { kind := .scalar text (if single then .singleQuoted else .doubleQuoted), start,
           stop := (← get).mark }

def fetchFlowScalar (single : Bool) : ScanM Unit := do
  saveSimpleKey
  modify fun s => { s with keyAllowed := false }
  let t ← scanFlowScalar single
  insertToken none t

def scanPlainScalar : ScanM Token := do
  let s0 ← get
  let indent : Int := s0.indent + 1
  let start := s0.mark
  let mut stop := s0.mark
  let mut text := ""
  let mut leadingBreak := ""
  let mut trailingBreaks := ""
  let mut whitespaces := ""
  let mut leadingBlanks := false
  let n ← remaining
  for _ in [0:n] do
    let s ← get
    if s.atDocumentMarker '-' || s.atDocumentMarker '.' then break
    if s.charAt 0 == '#' then break
    let m ← remaining
    for _ in [0:m] do
      let s ← get
      let c := s.charAt 0
      if isBlankOrEnd c then break
      if (c == ':' && isBlankOrEnd (s.charAt 1)) || (s.flowLevel > 0 &&
          (c == ',' || c == '?' || c == '[' || c == ']' || c == '\x7b' || c == '\x7d')) then
        break
      if leadingBlanks then
        if leadingBreak.startsWith "\n" then
          if trailingBreaks.isEmpty then text := text.push ' '
          else text := text ++ trailingBreaks
        else
          text := text ++ leadingBreak ++ trailingBreaks
        leadingBreak := ""
        trailingBreaks := ""
        leadingBlanks := false
      else if !whitespaces.isEmpty then
        text := text ++ whitespaces
        whitespaces := ""
      text ← readChar text
      stop := (← get).mark
    let c ← peek
    if !(isBlankChar c || isBreakChar c) then break
    let m ← remaining
    for _ in [0:m] do
      let s ← get
      let c := s.charAt 0
      if isBlankChar c then
        if leadingBlanks && (s.mark.column : Int) < indent && c == '\t' then
          fail "while scanning a plain scalar" start "found a tab character that violates indentation"
        if !leadingBlanks then whitespaces ← readChar whitespaces else skip
      else if isBreakChar c then
        if !leadingBlanks then
          whitespaces := ""
          leadingBreak ← readLine leadingBreak
          leadingBlanks := true
        else
          trailingBreaks ← readLine trailingBreaks
      else break
    let s ← get
    if s.flowLevel == 0 && (s.mark.column : Int) < indent then break
  if leadingBlanks then modify fun s => { s with keyAllowed := true }
  return { kind := .scalar text .plain, start, stop }

def fetchPlainScalar : ScanM Unit := do
  saveSimpleKey
  modify fun s => { s with keyAllowed := false }
  let t ← scanPlainScalar
  insertToken none t

/-- Produce the next token (or several: block ends, a key, a mapping start). -/
def fetchNextToken : ScanM Unit := do
  if !(← get).started then
    fetchStreamStart
    return
  let scanMark := (← get).mark
  scanToNextToken
  unrollIndent (← get).mark.column scanMark
  let s ← get
  let c := s.charAt 0
  let d := s.charAt 1
  if c == '\x00' then fetchStreamEnd
  else if s.mark.column == 0 && c == '%' then fetchDirective
  else if s.atDocumentMarker '-' then fetchDocumentMarker .documentStart
  else if s.atDocumentMarker '.' then fetchDocumentMarker .documentEnd
  else if c == '[' then fetchCollectionStart .flowSequenceStart
  else if c == '\x7b' then fetchCollectionStart .flowMappingStart
  else if c == ']' then fetchCollectionEnd .flowSequenceEnd
  else if c == '\x7d' then fetchCollectionEnd .flowMappingEnd
  else if c == ',' then fetchFlowEntry
  else if c == '-' && isBlankOrEnd d then fetchBlockEntry
  else if c == '?' && (s.flowLevel > 0 || isBlankOrEnd d) then fetchKey
  else if c == ':' && (s.flowLevel > 0 || isBlankOrEnd d) then fetchValue
  else if c == '*' then fetchAnchor false
  else if c == '&' then fetchAnchor true
  else if c == '!' then fetchTag
  else if c == '|' && s.flowLevel == 0 then fetchBlockScalar true
  else if c == '>' && s.flowLevel == 0 then fetchBlockScalar false
  else if c == '\'' then fetchFlowScalar true
  else if c == '"' then fetchFlowScalar false
  else if !(isBlankOrEnd c || isIndicatorChar c) || (c == '-' && !isBlankChar d) ||
      (s.flowLevel == 0 && (c == '?' || c == ':') && !isBlankOrEnd d) then
    fetchPlainScalar
  else
    fail "while scanning for the next token" s.mark "found character that cannot start any token"

/-- Fetch until the head token is settled: three tokens queued and no possible simple key
at the head. -/
def fetchMoreTokens : ScanM Unit := do
  let n ← remaining
  for _ in [0:n + 8] do
    let s ← get
    if s.parsed + 2 < s.tokens.size then
      match s.keysByToken.lookup s.parsed with
      | none => break
      | some i => if !(← keyValid i) then break
    fetchNextToken
  modify fun s => { s with tokenAvailable := true }

/-- The token at the head of the queue. -/
def peekToken : ScanM Token := do
  if !(← get).tokenAvailable then fetchMoreTokens
  let s ← get
  return s.tokens.getD s.parsed { kind := .streamEnd, start := s.mark, stop := s.mark }

/-- Consume the head token. -/
def skipToken : ScanM Unit :=
  modify fun s => { s with tokenAvailable := false, parsed := s.parsed + 1 }

end Scanner

end EntityQuery.Yaml
