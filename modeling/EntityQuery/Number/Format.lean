import EntityQuery.Number.Binary64

/-!
# Writing doubles

A double is written with the fewest significant digits that read back as the same double. Of
the candidates with that many digits the nearest to the double is taken; when it does not read
back, the candidate on the other side does (next to a power of two the doubles around a value
are not evenly spaced).

The digits are then laid out in the general format: plainly when the decimal exponent lies in
`[-4, 6)`, and as `d.ddde±XX` (at least two exponent digits) otherwise.
-/

set_option autoImplicit false

namespace EntityQuery.Number

namespace Binary64

/-- The number of decimal digits of a positive natural. -/
def digitCount (n : Nat) : Nat := (Nat.toDigits 10 n).length

/-- The exact value `n / d` of a finite double's magnitude. -/
def ratio (m : Nat) (e : Int) : Nat × Nat :=
  if e ≥ 0 then (m * Nat.pow 2 e.toNat, 1) else (m, Nat.pow 2 (-e).toNat)

/-- `n / d` scaled by `10 ^ -q`, as a ratio of naturals. -/
def scaled (n d : Nat) (q : Int) : Nat × Nat :=
  if q ≥ 0 then (n, d * Nat.pow 10 q.toNat) else (n * Nat.pow 10 (-q).toNat, d)

/-- The decimal exponent of the leading digit of `n / d` (positive): the `k` with
`10 ^ k ≤ n / d < 10 ^ (k + 1)`. -/
def leadingExponent (n d : Nat) : Int :=
  let guess : Int := (digitCount n : Int) - (digitCount d : Int)
  let (a, b) := scaled n d guess
  if a ≥ b then guess else guess - 1

/-- Candidates with `p` significant digits around `n / d`: the nearest first, then the one on
the other side; each as digits and the exponent of their last digit. -/
def candidates (n d : Nat) (p : Nat) : List (Nat × Int) :=
  let q := leadingExponent n d - p + 1
  let (a, b) := scaled n d q
  let down := a / b
  let near := divRoundEven a b
  let other := if near == down then (if a % b == 0 then down else down + 1) else down
  [(near, q), (other, q)]

/-- The shortest digits that read back as the double `m * 2 ^ e` (with `m > 0`), and the
exponent of their last digit. -/
def shortest (negative : Bool) (m : Nat) (e : Int) : Nat × Int :=
  let (n, d) := ratio m e
  let x := Binary64.finite negative m e
  let found := (List.range 17).findSome? fun i =>
    (candidates n d (i + 1)).find? fun c => ofDecimal negative c.1 c.2 == x
  found.getD (m, 0)

/-- Decimal digits of a natural, as characters. -/
def digitChars (n : Nat) : List Char := Nat.toDigits 10 n

/-- The general format of digits `ds` whose decimal point stands after `dp` of them. -/
def layout (ds : List Char) (dp : Int) : String :=
  let exp := dp - 1
  if exp < -4 || exp ≥ 6 then
    let mant := match ds with
      | [] => "0"
      | [c] => c.toString
      | c :: rest => c.toString ++ "." ++ String.ofList rest
    let sign := if exp < 0 then "-" else "+"
    let mag := exp.natAbs
    mant ++ "e" ++ sign ++ (if mag < 10 then "0" else "") ++ toString mag
  else if dp ≤ 0 then
    "0." ++ String.ofList (List.replicate dp.natAbs '0' ++ ds)
  else
    let k := dp.toNat
    if k ≥ ds.length then String.ofList (ds ++ List.replicate (k - ds.length) '0')
    else String.ofList (ds.take k) ++ "." ++ String.ofList (ds.drop k)

/-- The shortest text of a double, in the general format. -/
def format : Binary64 → String
  | .nan => "NaN"
  | .infinite negative => if negative then "-Inf" else "+Inf"
  | .finite negative m e =>
    let sign := if negative then "-" else ""
    if m == 0 then sign ++ "0"
    else
      let (digits, q) := shortest negative m e
      -- trailing zeros carry no digit of their own
      let ds := digitChars digits
      let kept := (ds.reverse.dropWhile (· == '0')).reverse
      let q := q + (ds.length - kept.length : Nat)
      sign ++ layout kept (q + kept.length)

end Binary64

end EntityQuery.Number
