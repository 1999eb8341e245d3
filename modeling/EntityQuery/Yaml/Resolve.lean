import EntityQuery.Number.Binary64

/-!
# What a scalar stands for

A plain scalar has no written type: `12` is an integer, `1.5` a float, `true` a boolean, `~`
null, `2001-02-03` a timestamp, anything else a string. Quoted and block scalars are always
strings. A scalar with an explicit tag (`!!int 4`) must resolve to that type, except that an
integer may stand where a float is asked for; otherwise reading fails.

The rules are those of YAML 1.2's core schema with some of 1.1 kept: integers may be written
in octal with a leading zero (`017`), with `0o`, `0x` or `0b` prefixes, with a sign and with
underscores between digits. Some strings are quoted when written so that readers of YAML 1.1
do not take them for booleans (`yes`, `off`) or sexagesimal numbers (`1:30`).
-/

set_option autoImplicit false

namespace EntityQuery.Yaml

open EntityQuery.Number

/-- The long form of the standard tags. -/
def longTagPrefix : String := "tag:yaml.org,2002:"

/-- `tag:yaml.org,2002:x` written as `!!x`; other tags unchanged. -/
def shortTag (tag : String) : String :=
  if tag.startsWith longTagPrefix then
    "!!" ++ String.ofList (tag.toList.drop longTagPrefix.length)
  else tag

/-- `!!x` written as `tag:yaml.org,2002:x`; other tags unchanged. -/
def longTag (tag : String) : String :=
  if tag.startsWith "!!" then longTagPrefix ++ String.ofList (tag.toList.drop 2) else tag

/-- What a scalar resolves to. -/
inductive Resolved where
  | null
  | bool (b : Bool)
  /-- An integer that fits in 64 signed bits. -/
  | int (n : Int)
  /-- An integer from `2 ^ 63` up to `2 ^ 64 - 1`. -/
  | uint (n : Nat)
  | float (f : Binary64)
  | timestamp
  | str (s : String)
deriving Repr, Inhabited

/-- The value of a digit in bases up to 36; 99 for other characters. -/
def digitValue (c : Char) : Nat :=
  let l := c.toLower
  if c.isDigit then c.toNat - 48 else if 'a' ≤ l && l ≤ 'z' then l.toNat - 87 else 99

/-- An unsigned integer below `2 ^ 64`. Base zero reads a prefix: `0b`, `0o`, `0x`, or a
leading `0` for octal. -/
def parseUnsigned (cs : List Char) (base : Nat) : Option Nat :=
  match cs with
  | [] => none
  | _ =>
    let (b, digits) : Nat × List Char :=
      if base != 0 then (base, cs)
      else
        match cs with
        | '0' :: c :: d :: r =>
          let l := c.toLower
          if l == 'b' then (2, d :: r) else if l == 'o' then (8, d :: r)
          else if l == 'x' then (16, d :: r) else (8, c :: d :: r)
        | '0' :: r => (8, r)
        | _ => (10, cs)
    let v := digits.foldl (fun (acc : Option Nat) (c : Char) =>
      acc.bind fun v => if digitValue c < b then some (v * b + digitValue c) else none) (some 0)
    v.bind fun n => if n < Nat.pow 2 64 then some n else none

/-- A signed integer that fits in 64 bits, with an optional sign. -/
def parseSigned (cs : List Char) (base : Nat) : Option Int :=
  let (negative, rest) := match cs with
    | '+' :: r => (false, r)
    | '-' :: r => (true, r)
    | _ => (false, cs)
  (parseUnsigned rest base).bind fun n =>
    if !negative && n < Nat.pow 2 63 then some (n : Int)
    else if negative && n ≤ Nat.pow 2 63 then some (-(n : Int))
    else none

/-- The shape of a YAML float: `[-+]?(\.[0-9]+|[0-9]+(\.[0-9]*)?)([eE][-+]?[0-9]+)?`. -/
def isFloatShape (cs : List Char) : Bool :=
  let cs := match cs with
    | '+' :: r => r
    | '-' :: r => r
    | _ => cs
  let afterMantissa : Option (List Char) := match cs with
    | '.' :: r =>
      let ds := r.takeWhile Char.isDigit
      if ds.isEmpty then none else some (r.drop ds.length)
    | _ =>
      let ds := cs.takeWhile Char.isDigit
      if ds.isEmpty then none
      else
        match cs.drop ds.length with
        | '.' :: r => some (r.dropWhile Char.isDigit)
        | r => some r
  match afterMantissa with
  | some [] => true
  | some (e :: r) =>
    (e == 'e' || e == 'E') &&
      (let r := match r with
        | '+' :: t => t
        | '-' :: t => t
        | _ => r
       !r.isEmpty && r.all Char.isDigit)
  | none => false

/-- The groups `(:[0-5]?[0-9])+` of a sexagesimal number, and what follows them. -/
def sexagesimalGroups : List Char → Option (List Char)
  | ':' :: a :: b :: rest =>
    if a.isDigit && b.isDigit && a ≤ '5' then
      if rest.head? == some ':' then sexagesimalGroups rest else some rest
    else if a.isDigit then
      if b == ':' then sexagesimalGroups (b :: rest) else some (b :: rest)
    else none
  | [':', a] => if a.isDigit then some [] else none
  | _ => none
termination_by cs => cs.length

/-- Sexagesimal numbers of YAML 1.1: `[-+]?[0-9][0-9_]*(:[0-5]?[0-9])+(\.[0-9_]*)?`. -/
def isSexagesimal (s : String) : Bool :=
  let cs := match s.toList with
    | '+' :: r => r
    | '-' :: r => r
    | l => l
  match cs with
  | d :: rest =>
    d.isDigit &&
      match sexagesimalGroups (rest.dropWhile fun c => c.isDigit || c == '_') with
      | some [] => true
      | some ('.' :: r) => r.all fun c => c.isDigit || c == '_'
      | _ => false
  | [] => false

/-- The booleans of YAML 1.1 that YAML 1.2 reads as strings. -/
def isOldBool (s : String) : Bool :=
  ["y", "Y", "yes", "Yes", "YES", "on", "On", "ON", "n", "N", "no", "No", "NO", "off", "Off",
    "OFF"].contains s

/-- One or two digits. -/
def readNumber2 : List Char → Option (Nat × List Char)
  | a :: b :: rest =>
    if !a.isDigit then none
    else if b.isDigit then some ((a.toNat - 48) * 10 + (b.toNat - 48), rest)
    else some (a.toNat - 48, b :: rest)
  | [a] => if a.isDigit then some (a.toNat - 48, []) else none
  | [] => none

def isLeapYear (y : Nat) : Bool := y % 4 == 0 && (y % 100 != 0 || y % 400 == 0)

def daysInMonth (month year : Nat) : Nat :=
  if month == 2 then (if isLeapYear year then 29 else 28)
  else if month == 4 || month == 6 || month == 9 || month == 11 then 30 else 31

/-- A date `YYYY-M-D` (month and day of one or two digits) that exists, and the rest. -/
def readDate (cs : List Char) : Option (List Char) :=
  match cs with
  | a :: b :: c :: d :: '-' :: rest =>
    if !(a.isDigit && b.isDigit && c.isDigit && d.isDigit) then none
    else
      let year := [a, b, c, d].foldl (fun (n : Nat) (x : Char) => n * 10 + (x.toNat - 48)) 0
      match readNumber2 rest with
      | some (month, '-' :: rest) =>
        if month == 0 || month > 12 then none
        else
          match readNumber2 rest with
          | some (day, rest) =>
            if day == 0 || day > daysInMonth month year then none else some rest
          | none => none
      | _ => none
  | _ => none

/-- A time `h:m:s` with an optional fraction, and the rest. -/
def readTime (cs : List Char) : Option (List Char) :=
  match readNumber2 cs with
  | some (hour, ':' :: rest) =>
    if hour ≥ 24 then none
    else
      match readNumber2 rest with
      | some (minute, ':' :: rest) =>
        if minute ≥ 60 then none
        else
          match readNumber2 rest with
          | some (second, rest) =>
            if second ≥ 60 then none
            else
              match rest with
              | p :: d :: more =>
                if (p == '.' || p == ',') && d.isDigit then some (more.dropWhile Char.isDigit)
                else some rest
              | _ => some rest
          | none => none
      | _ => none
  | _ => none

/-- A zone: `Z` or `±hh:mm`. -/
def readZone (cs : List Char) : Option (List Char) :=
  match cs with
  | 'Z' :: rest => some rest
  | s :: h1 :: h2 :: ':' :: m1 :: m2 :: rest =>
    if (s == '+' || s == '-') && h1.isDigit && h2.isDigit && m1.isDigit && m2.isDigit &&
        (h1.toNat - 48) * 10 + (h2.toNat - 48) ≤ 24 && (m1.toNat - 48) * 10 + (m2.toNat - 48) ≤ 60
    then some rest else none
  | _ => none

/-- Timestamps: a date, optionally followed by `T`, `t` or a space and a time (with a zone
after `T` or `t`). -/
def isTimestamp (s : String) : Bool :=
  match readDate s.toList with
  | some [] => true
  | some (sep :: rest) =>
    if sep == 'T' || sep == 't' then
      match readTime rest with
      | some z => readZone z == some []
      | none => false
    else if sep == ' ' then readTime rest == some []
    else false
  | none => false

/-- The kind of resolution a scalar's first character calls for. -/
inductive Hint where
  | none
  | sign
  | digit
  | word
  | dot
deriving DecidableEq

def hintOf (s : String) : Hint :=
  match s.toList with
  | [] => .word
  | c :: _ =>
    if c == '+' || c == '-' then .sign
    else if c.isDigit then .digit
    else if "yYnNtTfFoO~".toList.contains c then .word
    else if c == '.' then .dot
    else .none

/-- The scalars named in the resolution table. -/
def namedScalar (s : String) : Option (String × Resolved) :=
  if s == "true" || s == "True" || s == "TRUE" then some ("!!bool", .bool true)
  else if s == "false" || s == "False" || s == "FALSE" then some ("!!bool", .bool false)
  else if s == "" || s == "~" || s == "null" || s == "Null" || s == "NULL" then some ("!!null", .null)
  else if s == ".nan" || s == ".NaN" || s == ".NAN" then some ("!!float", .float .nan)
  else if s == ".inf" || s == ".Inf" || s == ".INF" || s == "+.inf" || s == "+.Inf" ||
      s == "+.INF" then some ("!!float", .float (.infinite false))
  else if s == "-.inf" || s == "-.Inf" || s == "-.INF" then some ("!!float", .float (.infinite true))
  else none

/-- Integers written with a `0b` or `0o` prefix that the general reading did not take. -/
def prefixedInteger (plain : String) : Option (String × Resolved) :=
  let cs := plain.toList
  let attempt (pfx : String) (base : Nat) : Option (String × Resolved) :=
    if plain.startsWith pfx then
      match parseSigned (cs.drop 2) base with
      | some n => some ("!!int", .int n)
      | none => (parseUnsigned (cs.drop 2) base).map fun n => ("!!int", .uint n)
    else if plain.startsWith ("-" ++ pfx) then
      (parseSigned ('-' :: cs.drop 3) base).map fun n => ("!!int", .int n)
    else none
  match attempt "0b" 2 with
  | some r => some r
  | none => attempt "0o" 8

/-- Resolution without a tag to check: the tag and value a scalar stands for. -/
def resolvePlain (tag value : String) : String × Resolved :=
  let hint := hintOf value
  if hint == .none || tag == "!!str" || tag == "!!binary" then ("!!str", .str value)
  else
    match namedScalar value with
    | some r => r
    | none =>
      match hint with
      | .dot =>
        match parseBinary64 value.toList with
        | some f => ("!!float", .float f)
        | none => ("!!str", .str value)
      | .digit | .sign =>
        if (tag == "" || tag == "!!timestamp") && isTimestamp value then ("!!timestamp", .timestamp)
        else
          let plain := String.ofList (value.toList.filter (· != '_'))
          match parseSigned plain.toList 0 with
          | some n => ("!!int", .int n)
          | none =>
            match parseUnsigned plain.toList 0 with
            | some n => ("!!int", .uint n)
            | none =>
              let asFloat := if isFloatShape plain.toList then parseBinary64 plain.toList else none
              match asFloat with
              | some f => ("!!float", .float f)
              | none => (prefixedInteger plain).getD ("!!str", .str value)
      | _ => ("!!str", .str value)

/-- Tags whose scalars are resolved; others keep their text. -/
def isResolvableTag (tag : String) : Bool :=
  tag == "" || tag == "!!str" || tag == "!!bool" || tag == "!!int" || tag == "!!float" ||
  tag == "!!timestamp" || tag == "!!null"

/-- The tag and value of a scalar, checked against its explicit tag. An integer is accepted
as a float; any other mismatch is an error. -/
def resolve (tag value : String) : Except String (String × Resolved) :=
  let tag := shortTag tag
  if !isResolvableTag tag then .ok (tag, .str value)
  else
    let (rtag, out) := resolvePlain tag value
    if tag == "" || tag == rtag || tag == "!!str" then .ok (rtag, out)
    else
      match tag, out with
      | "!!float", .int n => .ok ("!!float", .float (Binary64.ofDecimal (n < 0) n.natAbs 0))
      | _, _ => .error ("yaml: cannot decode " ++ rtag ++ " `" ++ value ++ "` as a " ++ tag)

/-- The tag a plain scalar without a written tag gets. -/
def resolvedTag (value : String) : String := (resolvePlain "" value).1

end EntityQuery.Yaml
