/-!
# Double precision numbers read from decimal text

A YAML scalar such as `1.5e3` or `99999999999999999999` is read as an IEEE 754 double: the
double nearest to the decimal value, ties going to the even significand. A finite double is
`significand * 2 ^ exponent` with a significand below `2 ^ 53` and an exponent of at least
`-1074` (the subnormal range); values that round past the largest finite double are infinite.

Rounding works on naturals only: the decimal value is the ratio `n / d`, its binary magnitude
is found by comparing `n` with `d * 2 ^ k`, and the significand is one integer division
rounded half to even.
-/

set_option autoImplicit false

namespace EntityQuery.Number

/-- An IEEE 754 double. -/
inductive Binary64 where
  | nan
  | infinite (negative : Bool)
  /-- `significand * 2 ^ exponent`. -/
  | finite (negative : Bool) (significand : Nat) (exponent : Int)
deriving Repr, Inhabited, DecidableEq

/-- `n / d` rounded to the nearest natural, ties to the even one. -/
def divRoundEven (n d : Nat) : Nat :=
  let q := n / d
  let r := n % d
  if 2 * r > d then q + 1 else if 2 * r < d then q else if q % 2 == 1 then q + 1 else q

namespace Binary64

/-- Whether `n / d` is at least `2 ^ j`. -/
def ratioAtLeast (n d : Nat) (j : Int) : Bool :=
  if j ≥ 0 then n ≥ d * Nat.pow 2 j.toNat else n * Nat.pow 2 (-j).toNat ≥ d

/-- The double nearest to `n / d` (with `d > 0`), with the given sign. -/
def ofRatio (negative : Bool) (n d : Nat) : Binary64 :=
  if n == 0 then .finite negative 0 0
  else
    let k : Int := (Nat.log2 n : Int) - (Nat.log2 d : Int)
    let top := if ratioAtLeast n d k then k else k - 1
    let e := max (top - 52) (-1074)
    let m := if e ≥ 0 then divRoundEven n (d * Nat.pow 2 e.toNat) else divRoundEven (n * Nat.pow 2 (-e).toNat) d
    let (m, e) := if m == Nat.pow 2 53 then (Nat.pow 2 52, e + 1) else (m, e)
    if e > 971 then .infinite negative else .finite negative m e

/-- The double nearest to `digits * 10 ^ exp10`. Values far outside the range of doubles are
settled from the number of digits alone. -/
def ofDecimal (negative : Bool) (digits : Nat) (exp10 : Int) : Binary64 :=
  if digits == 0 then .finite negative 0 0
  else
    let size : Int := (Nat.toDigits 10 digits).length
    if exp10 + size > 310 then .infinite negative
    else if exp10 + size < -330 then .finite negative 0 0
    else if exp10 ≥ 0 then ofRatio negative (digits * Nat.pow 10 exp10.toNat) 1
    else ofRatio negative digits (Nat.pow 10 (-exp10).toNat)

/-- The integer part, rounding toward zero; none for infinities and NaN. -/
def truncate : Binary64 → Option Int
  | .finite negative m e =>
    let t : Nat := if e ≥ 0 then m * Nat.pow 2 e.toNat else m / Nat.pow 2 (-e).toNat
    some (if negative then -(t : Int) else t)
  | _ => none

/-- Whether the value is at most `2 ^ 63` (false for NaN). -/
def atMostTwoPow63 : Binary64 → Bool
  | .nan => false
  | .infinite negative => negative
  | .finite negative m e =>
    negative || (if e ≥ 0 then m * Nat.pow 2 e.toNat ≤ Nat.pow 2 63 else m ≤ Nat.pow 2 63 * Nat.pow 2 (-e).toNat)

end Binary64

/-- Underscores sit only between digits (a base prefix counting as a digit). -/
def underscoresFit (cs : List Char) : Bool :=
  let cs := match cs with
    | '+' :: rest => rest
    | '-' :: rest => rest
    | _ => cs
  let (start, hex, cs) := match cs with
    | '0' :: c :: rest =>
      let l := c.toLower
      if l == 'b' || l == 'o' || l == 'x' then ('0', l == 'x', rest) else ('^', false, cs)
    | _ => ('^', false, cs)
  let last := cs.foldl (fun (seen : Char) c =>
    if seen == '#' then '#'
    else if c.isDigit || (hex && 'a' ≤ c.toLower && c.toLower ≤ 'f') then '0'
    else if c == '_' then (if seen == '0' then '_' else '#')
    else if seen == '_' then '#'
    else '!') start
  last != '_' && last != '#'

/-- Read a decimal floating point literal: an optional sign, digits with at most one point
(at least one digit), an optional exponent with at least one digit, and nothing after it.
Returns the sign, the digits as a natural and the power of ten. -/
def readDecimal (s : List Char) : Option (Bool × Nat × Int) :=
  let (negative, body) := match s with
    | '+' :: rest => (false, rest)
    | '-' :: rest => (true, rest)
    | _ => (false, s)
  let intPart := body.takeWhile fun (c : Char) => c.isDigit || c == '_'
  let afterInt := body.drop intPart.length
  let (fracPart, afterFrac) := match afterInt with
    | '.' :: rest =>
      let f := rest.takeWhile fun (c : Char) => c.isDigit || c == '_'
      (f, rest.drop f.length)
    | _ => ([], afterInt)
  let mantissaDigits := (intPart ++ fracPart).filter Char.isDigit
  if mantissaDigits.isEmpty then none
  else
    let expPart : Option (Int × List Char) := match afterFrac with
      | e :: rest =>
        if e == 'e' || e == 'E' then
          let (eneg, digits) := match rest with
            | '+' :: r => (false, r)
            | '-' :: r => (true, r)
            | _ => (false, rest)
          match digits with
          | d :: _ =>
            if d.isDigit then
              let ds := digits.takeWhile fun (c : Char) => c.isDigit || c == '_'
              let v : Nat := (ds.filter Char.isDigit).foldl (fun (a : Nat) (c : Char) => a * 10 + (c.toNat - 48)) 0
              some (if eneg then -(v : Int) else v, digits.drop ds.length)
            else none
          | [] => none
        else some (0, afterFrac)
      | [] => some (0, [])
    match expPart with
    | some (e, []) =>
      if s.contains '_' && !underscoresFit s then none
      else
        let value := mantissaDigits.foldl (fun (a : Nat) (c : Char) => a * 10 + (c.toNat - 48)) 0
        let fracDigits := (fracPart.filter Char.isDigit).length
        some (negative, value, e - fracDigits)
    | _ => none

/-- The double a decimal literal denotes; none when the text is not one or the value is out
of range. -/
def parseBinary64 (s : List Char) : Option Binary64 :=
  match readDecimal s with
  | some (negative, digits, exp10) =>
    match Binary64.ofDecimal negative digits exp10 with
    | .infinite _ => none
    | f => some f
  | none => none

end EntityQuery.Number
