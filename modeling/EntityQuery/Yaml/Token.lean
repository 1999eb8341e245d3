/-!
# YAML tokens and reading errors

A position in a YAML text (`Mark`) counts characters from the start, lines and columns from
zero. The scanner cuts the text into tokens; the parser turns tokens into events. A reading
error says which stage found it, the construct being read and where it started (the context),
and the problem with its position.

An error is shown as `yaml: line N: <problem>`. The line is the context's line when that is
not the first line, otherwise the problem's line, and no line is shown when both are on the
first line. Scanner errors count lines from one, parser errors from zero, as the reader has
always shown them. Errors found before scanning (characters that may not appear) show no line.
-/

set_option autoImplicit false

namespace EntityQuery.Yaml

/-- A position in the text: character index, line and column, all from zero. -/
structure Mark where
  index : Nat := 0
  line : Nat := 0
  column : Nat := 0
deriving Repr, Inhabited, DecidableEq

/-- How a scalar was written. -/
inductive ScalarStyle where
  | plain
  | singleQuoted
  | doubleQuoted
  | literal
  | folded
deriving Repr, Inhabited, DecidableEq

/-- What a token is. -/
inductive TokenKind where
  | streamStart
  | streamEnd
  | versionDirective (major minor : Nat)
  | tagDirective (handle pfx : String)
  | documentStart
  | documentEnd
  | blockSequenceStart
  | blockMappingStart
  | blockEnd
  | flowSequenceStart
  | flowSequenceEnd
  | flowMappingStart
  | flowMappingEnd
  | blockEntry
  | flowEntry
  | key
  | value
  | alias (name : String)
  | anchor (name : String)
  | tag (handle suffix : String)
  | scalar (text : String) (style : ScalarStyle)
deriving Repr, Inhabited, DecidableEq

/-- A token with the positions where it starts and ends. -/
structure Token where
  kind : TokenKind
  start : Mark
  stop : Mark
deriving Repr, Inhabited

/-- The stage that found a reading error. -/
inductive Stage where
  | reader
  | scanner
  | parser
deriving Repr, Inhabited, DecidableEq

/-- A YAML text that cannot be read, or a value that cannot be built from it. -/
inductive ReadError where
  /-- A malformed text: stage, context and its position, problem and its position. -/
  | malformed (stage : Stage) (context : String) (contextMark : Mark) (problem : String)
      (problemMark : Mark)
  /-- A document that is well formed but cannot be turned into a value. -/
  | invalid (text : String)
  /-- Values of the wrong kind, one line per value. -/
  | mismatches (lines : List String)
deriving Repr, Inhabited

/-- The text of a reading error. -/
def ReadError.message : ReadError → String
  | .malformed stage _ contextMark problem problemMark =>
    let shift := if stage == .scanner then 1 else 0
    let line :=
      if contextMark.line != 0 then contextMark.line + shift
      else if problemMark.line != 0 then problemMark.line + shift
      else 0
    let whereText := if line != 0 then "line " ++ toString line ++ ": " else ""
    let problemText := if problem == "" then "unknown problem parsing YAML content" else problem
    "yaml: " ++ whereText ++ problemText
  | .invalid text => text
  | .mismatches lines => "yaml: unmarshal errors:\n  " ++ "\n  ".intercalate lines

end EntityQuery.Yaml
