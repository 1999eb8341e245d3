import EntityQuery.Text.Printable
import EntityQuery.Text.Utf8
/-!
# Quoted text

Double-quoted literals in the usual escape syntax. `unquote` reads the characters between the
quotes into bytes: `\a \b \f \n \r \t \v \\ \"` stand for one character each, `\xHH` and
three octal digits for one byte (at most 255), `\uHHHH` and `\UHHHHHHHH` for a scalar value;
a raw line feed, a single quote after a backslash or any other escape is refused. `quote`
writes a text back in that syntax: printable characters stand as they are, a quote and a
backslash get a backslash, and all else becomes the shortest escape.
-/

set_option autoImplicit false

namespace EntityQuery.Text

/-- The value of a hexadecimal digit. -/
def hexValue (c : Char) : Option Nat :=
  if '0' ≤ c && c ≤ '9' then some (c.toNat - '0'.toNat)
  else if 'a' ≤ c && c ≤ 'f' then some (c.toNat - 'a'.toNat + 10)
  else if 'A' ≤ c && c ≤ 'F' then some (c.toNat - 'A'.toNat + 10)
  else none

/-- The number written by hexadecimal digits, most significant first. -/
def hexNumber : List Char → Option Nat
  | [] => some 0
  | c :: rest => do
    let d ← hexValue c
    let r ← hexNumber rest
    pure (d * Nat.pow 16 rest.length + r)

/-- The value of an octal digit. -/
def octalValue (c : Char) : Option Nat :=
  if '0' ≤ c && c ≤ '7' then some (c.toNat - '0'.toNat) else none

/-- A scalar value: below U+110000 and outside the surrogates. -/
def isScalarValue (n : Nat) : Bool := n < 0xD800 || (0xDFFF < n && n < 0x110000)

/-- The bytes of the escape after a backslash, with the characters it leaves. -/
def unescape : List Char → Option (List UInt8 × List Char)
  | 'a' :: rest => some ([0x07], rest)
  | 'b' :: rest => some ([0x08], rest)
  | 'f' :: rest => some ([0x0C], rest)
  | 'n' :: rest => some ([0x0A], rest)
  | 'r' :: rest => some ([0x0D], rest)
  | 't' :: rest => some ([0x09], rest)
  | 'v' :: rest => some ([0x0B], rest)
  | '\\' :: rest => some ([0x5C], rest)
  | '"' :: rest => some ([0x22], rest)
  | 'x' :: rest => do
    let v ← hexNumber (rest.take 2)
    if rest.length < 2 then none else some ([v.toUInt8], rest.drop 2)
  | 'u' :: rest => do
    let v ← hexNumber (rest.take 4)
    if rest.length < 4 || !isScalarValue v then none
    else some (String.utf8EncodeChar (Char.ofNat v), rest.drop 4)
  | 'U' :: rest => do
    let v ← hexNumber (rest.take 8)
    if rest.length < 8 || !isScalarValue v then none
    else some (String.utf8EncodeChar (Char.ofNat v), rest.drop 8)
  | c :: d1 :: d2 :: rest => do
    let a ← octalValue c
    let b ← octalValue d1
    let e ← octalValue d2
    let v := a * 64 + b * 8 + e
    if v > 255 then none else some ([v.toUInt8], rest)
  | _ => none

theorem unescape_length {cs : List Char} {bytes : List UInt8} {rest : List Char}
    (h : unescape cs = some (bytes, rest)) : rest.length < cs.length := by
  unfold unescape at h
  split at h <;> simp_all [bind, Option.bind] <;> grind

/-- The bytes written by the characters between the quotes of a double-quoted literal. -/
def unquoteBody : List Char → Option (List UInt8)
  | [] => some []
  | '\n' :: _ => none
  | '\\' :: rest =>
    match h : unescape rest with
    | none => none
    | some (bytes, after) =>
      have : after.length < rest.length := unescape_length h
      (unquoteBody after).map (bytes ++ ·)
  | c :: rest => (unquoteBody rest).map (String.utf8EncodeChar c ++ ·)
termination_by cs => cs.length

/-- The hexadecimal digit of a number below 16, lower case. -/
def hexDigit (n : Nat) : Char :=
  if n < 10 then Char.ofNat ('0'.toNat + n) else Char.ofNat ('a'.toNat + n - 10)

/-- The lowest `count` hexadecimal digits of a number, most significant first. -/
def hexDigits (n : Nat) : Nat → List Char
  | 0 => []
  | count + 1 => hexDigits (n / 16) count ++ [hexDigit (n % 16)]

/-- The written form of one character inside double quotes. -/
def escapeChar (c : Char) : List Char :=
  let n := c.toNat
  if c == '"' || c == '\\' then ['\\', c]
  else if isPrintable c then [c]
  else if n == 0x07 then ['\\', 'a']
  else if n == 0x08 then ['\\', 'b']
  else if n == 0x0C then ['\\', 'f']
  else if n == 0x0A then ['\\', 'n']
  else if n == 0x0D then ['\\', 'r']
  else if n == 0x09 then ['\\', 't']
  else if n == 0x0B then ['\\', 'v']
  else if n < 0x20 || n == 0x7F then ['\\', 'x'] ++ hexDigits n 2
  else if n < 0x10000 then ['\\', 'u'] ++ hexDigits n 4
  else ['\\', 'U'] ++ hexDigits n 8

/-- A text in double quotes with every character written by `escapeChar`. -/
def quote (s : String) : String :=
  String.ofList ('"' :: s.toList.flatMap escapeChar ++ ['"'])

end EntityQuery.Text
