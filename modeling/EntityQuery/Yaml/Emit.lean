import EntityQuery.Yaml.Resolve
import EntityQuery.Yaml.Scanner

/-!
# Writing scalars

A string is written plain when it would read back as the same string, in a literal block
(`|`) when it has line breaks, and double-quoted otherwise. The text itself may rule a style
out: leading or trailing spaces and breaks, indicator characters, tabs and characters that
cannot be printed each forbid some styles, and the writer falls back from plain to single
quotes to double quotes, and from a literal block to double quotes.

Written values sit after `key:` or `-`, so each starts with a space. Continuation lines of a
literal block, and lines after a break inside single quotes, are indented to the value's
indentation.
-/

set_option autoImplicit false

namespace EntityQuery.Yaml

/-- Characters written as they are inside quotes and blocks. -/
def isPrintableChar (c : Char) : Bool :=
  let v := c.toNat
  v == 0x0A || (0x20 ≤ v && v ≤ 0x7E) || (0xA0 ≤ v && v ≤ 0xD7FF) ||
  (0xE000 ≤ v && v ≤ 0xFFFD && v != 0xFEFF)

/-- Which styles a scalar's text allows. -/
structure ScalarAnalysis where
  multiline : Bool
  flowPlainAllowed : Bool
  blockPlainAllowed : Bool
  singleQuotedAllowed : Bool
  blockAllowed : Bool
deriving Repr

/-- What the characters of a scalar say about it, gathered in one pass. -/
structure ScalarFacts where
  blockIndicators : Bool := false
  flowIndicators : Bool := false
  lineBreaks : Bool := false
  special : Bool := false
  tabs : Bool := false
  leadingSpace : Bool := false
  leadingBreak : Bool := false
  trailingSpace : Bool := false
  trailingBreak : Bool := false
  breakSpace : Bool := false
  spaceBreak : Bool := false
  previousSpace : Bool := false
  previousBreak : Bool := false
  precededByWhitespace : Bool := true

/-- Look at the character at position `i` (of `size`), followed by `next`. -/
def ScalarFacts.step (f : ScalarFacts) (i size : Nat) (c : Char) (next : Option Char) :
    ScalarFacts :=
  let followed := match next with
    | none => true
    | some d => isBlankChar d
  let f :=
    if i == 0 then
      if "#,[]&*!|>'\"%@".toList.contains c || c == '\x7b' || c == '\x7d' || c == '\x60' then
        { f with flowIndicators := true, blockIndicators := true }
      else if c == '?' || c == ':' then
        { f with flowIndicators := true, blockIndicators := f.blockIndicators || followed }
      else if c == '-' && followed then
        { f with flowIndicators := true, blockIndicators := true }
      else f
    else
      if c == ',' || c == '?' || c == '[' || c == ']' || c == '\x7b' || c == '\x7d' then
        { f with flowIndicators := true }
      else if c == ':' then
        { f with flowIndicators := true, blockIndicators := f.blockIndicators || followed }
      else if c == '#' && f.precededByWhitespace then
        { f with flowIndicators := true, blockIndicators := true }
      else f
  let f :=
    if c == '\t' then { f with tabs := true }
    else if !isPrintableChar c then { f with special := true }
    else f
  let last := i + 1 == size
  let f :=
    if c == ' ' then
      { f with leadingSpace := f.leadingSpace || i == 0,
               trailingSpace := f.trailingSpace || last,
               breakSpace := f.breakSpace || f.previousBreak,
               previousSpace := true, previousBreak := false }
    else if isBreakChar c then
      { f with lineBreaks := true,
               leadingBreak := f.leadingBreak || i == 0,
               trailingBreak := f.trailingBreak || last,
               spaceBreak := f.spaceBreak || f.previousSpace,
               previousSpace := false, previousBreak := true }
    else { f with previousSpace := false, previousBreak := false }
  { f with precededByWhitespace := isBlankOrEnd c }

/-- The styles a scalar's text allows. -/
def analyze (value : String) : ScalarAnalysis :=
  let cs := value.toList
  if cs.isEmpty then
    { multiline := false, flowPlainAllowed := false, blockPlainAllowed := true,
      singleQuotedAllowed := true, blockAllowed := false }
  else
    let start : ScalarFacts :=
      if value.startsWith "---" || value.startsWith "..." then
        { blockIndicators := true, flowIndicators := true }
      else {}
    let nexts := (cs.drop 1).map some ++ [none]
    let f := ((cs.zip nexts).zipIdx.foldl (fun (f : ScalarFacts) p =>
      f.step p.2 cs.length p.1.1 p.1.2) start)
    let edges := f.leadingSpace || f.leadingBreak || f.trailingSpace || f.trailingBreak
    let noPlain := edges || f.breakSpace || f.spaceBreak || f.tabs || f.special || f.lineBreaks
    { multiline := f.lineBreaks,
      flowPlainAllowed := !(noPlain || f.flowIndicators),
      blockPlainAllowed := !(noPlain || f.blockIndicators),
      singleQuotedAllowed := !(f.breakSpace || f.spaceBreak || f.tabs || f.special),
      blockAllowed := !(f.trailingSpace || f.spaceBreak || f.special) }

/-- Whether a string may be written plain: it reads back as this string, and readers of
YAML 1.1 would not take it for a boolean or a sexagesimal number. -/
def readsAsString (s : String) : Bool :=
  resolvedTag s == "!!str" && !(isSexagesimal s || isOldBool s)

/-- The style a string value of a block collection is written in. -/
def chooseStyle (s : String) : ScalarStyle :=
  let a := analyze s
  if s.toList.contains '\n' then (if a.blockAllowed then .literal else .doubleQuoted)
  else if readsAsString s then
    if a.blockPlainAllowed then .plain
    else if a.singleQuotedAllowed then .singleQuoted
    else .doubleQuoted
  else .doubleQuoted

def upperHexDigit (n : Nat) : Char :=
  if n < 10 then Char.ofNat (48 + n) else Char.ofNat (55 + n)

/-- `width` uppercase hexadecimal digits of `v`. -/
def upperHex (v width : Nat) : String :=
  String.ofList ((List.range width).reverse.map fun k => upperHexDigit (v / Nat.pow 16 k % 16))

/-- A character inside double quotes. -/
def doubleQuotedChar (c : Char) : String :=
  let v := c.toNat
  if isPrintableChar c && !isBreakChar c && c != '"' && c != '\\' then c.toString
  else
    match v with
    | 0x00 => "\\0"
    | 0x07 => "\\a"
    | 0x08 => "\\b"
    | 0x09 => "\\t"
    | 0x0A => "\\n"
    | 0x0B => "\\v"
    | 0x0C => "\\f"
    | 0x0D => "\\r"
    | 0x1B => "\\e"
    | 0x22 => "\\\""
    | 0x5C => "\\\\"
    | 0x85 => "\\N"
    | 0xA0 => "\\_"
    | 0x2028 => "\\L"
    | 0x2029 => "\\P"
    | _ =>
      if v ≤ 0xFF then "\\x" ++ upperHex v 2
      else if v ≤ 0xFFFF then "\\u" ++ upperHex v 4
      else "\\U" ++ upperHex v 8

/-- A line break as written: a newline, or the break character itself. -/
def breakText (c : Char) : String := if c == '\n' then "\n" else c.toString

/-- Single quotes: `'` doubled; after line breaks the text continues at `indent`. -/
def singleQuoted (value : String) (indent : Nat) : String :=
  let step (acc : String × Bool) (c : Char) : String × Bool :=
    let (out, breaks) := acc
    if c == ' ' then (out.push ' ', breaks)
    else if isBreakChar c then
      let out := if !breaks && c == '\n' then out.push '\n' else out
      (out ++ breakText c, true)
    else
      let out := if breaks then out ++ String.ofList (List.replicate indent ' ') else out
      let out := if c == '\'' then out.push '\'' else out
      (out.push c, false)
  " '" ++ (value.toList.foldl step ("", false)).1 ++ "'"

/-- The indicators after `|`: an indentation digit when the text starts with a space or a
break, and `-` (no final break) or `+` (several final breaks). -/
def blockHints (value : String) : String :=
  let cs := value.toList
  let indentHint := match cs with
    | c :: _ => if c == ' ' || isBreakChar c then "4" else ""
    | [] => ""
  let chomp := match cs.reverse with
    | [] => "-"
    | c :: rest =>
      if !isBreakChar c then "-"
      else match rest with
        | [] => "+"
        | d :: _ => if isBreakChar d then "+" else ""
  indentHint ++ chomp

/-- A literal block: each line at `indent`, empty lines left empty. -/
def literalBlock (value : String) (indent : Nat) : String :=
  let step (acc : String × Bool) (c : Char) : String × Bool :=
    let (out, breaks) := acc
    if isBreakChar c then (out ++ breakText c, true)
    else
      let out := if breaks then out ++ String.ofList (List.replicate indent ' ') else out
      (out.push c, false)
  " |" ++ blockHints value ++ "\n" ++ (value.toList.foldl step ("", true)).1

/-- A string value written at `indent`, with whether the output then stands at the start of a
line (a literal block ending in a line break). -/
def writeString (value : String) (indent : Nat) : String × Bool :=
  match chooseStyle value with
  | .plain => (" " ++ value, false)
  | .singleQuoted => (singleQuoted value indent, false)
  | .literal =>
    (literalBlock value indent, match value.toList.getLast? with
      | some c => isBreakChar c
      | none => false)
  | _ => (" \"" ++ String.join (value.toList.map doubleQuotedChar) ++ "\"", false)

end EntityQuery.Yaml
