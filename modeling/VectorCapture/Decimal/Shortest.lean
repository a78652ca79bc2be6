/-!
# Doubles from decimals, and back in the fewest digits

A finite double is `m · 2^e` with `m < 2^53` and `-1074 ≤ e ≤ 971`, normal when `m ≥ 2^52` or
`e = -1074`.

* `Double.ofDecimal` reads a decimal `n · 10^p` as the nearest double, a tie going to the even
  significand; a value at or beyond the midpoint above the largest double is too large.
* `Double.shortest` gives the fewest significant digits that read back as the same double:
  for 1, 2, … digits it looks for a multiple of the digit grid inside the interval of reals that
  round to the double (its ends included when the significand is even), and of two such takes
  the one nearer the double, the upper one when both are as near.
* `Double.text` writes a double in positional notation, with no exponent: the digits, with a
  decimal point only where the value has a fraction, or `inf` and `NaN`.
-/

namespace VectorCapture.Decimal

/-- The integer nearest `n / d`, a tie going to the even one. -/
def roundHalfEven (n d : Nat) : Nat :=
  let q := n / d
  let twice := 2 * (n % d)
  if twice > d ∨ (twice = d ∧ q % 2 = 1) then q + 1 else q

/-- The number of binary digits of `n`. -/
def bitLength (n : Nat) : Nat :=
  if n = 0 then 0 else Nat.log2 n + 1

/-- A double: a special value, or a sign and a finite magnitude `m · 2^e`. -/
inductive Double where
  | finite (negative : Bool) (m : Nat) (e : Int)
  | infinite (negative : Bool)
  | nan
  deriving DecidableEq, Repr, Inhabited

/-- `a · 2^ea` compared with `b · 2^eb`, as `a'` against `b'` over one scale. -/
def scaleTwo (a : Nat) (ea : Int) (b : Nat) (eb : Int) : Nat × Nat :=
  let lo := min ea eb
  (a * Nat.pow 2 (ea - lo).toNat, b * Nat.pow 2 (eb - lo).toNat)

/-- The nearest double to the positive rational `num / den`, or `none` when it is too large. -/
def nearest (num den : Nat) : Option (Nat × Int) :=
  if num = 0 then some (0, 0) else
  -- an exponent with `2^52 ≤ num / (den · 2^e) < 2^53`, found from the binary lengths
  let guess : Int := (bitLength num : Int) - (bitLength den : Int) - 53
  let fits (e : Int) : Bool :=
    let (a, b) := scaleTwo num 0 den e
    Nat.pow 2 52 * b ≤ a && a < Nat.pow 2 53 * b
  let e := [guess - 1, guess, guess + 1, guess + 2].find? fits |>.getD guess
  let e := max e (-1074)
  let (a, b) := scaleTwo num 0 den e
  let m := roundHalfEven a b
  let (m, e) := if m = Nat.pow 2 53 then (Nat.pow 2 52, e + 1) else (m, e)
  if e > 971 then none else some (m, e)

/-- The double nearest to `±n · 10^p`. -/
def Double.ofDecimal (negative : Bool) (n : Nat) (p : Int) : Double :=
  let (num, den) := if p ≥ 0 then (n * Nat.pow 10 p.toNat, 1) else (n, Nat.pow 10 (-p).toNat)
  match nearest num den with
  | some (m, e) => .finite negative m e
  | none => .infinite negative

/-- The position of the leading digit of the positive rational `num / den`: the `k` with
`10^k ≤ num / den < 10^(k+1)`. -/
def decimalExponent (num den : Nat) : Int :=
  if num ≥ den then
    ((List.range 330).find? (fun k => num < den * Nat.pow 10 (k + 1))).getD 0
  else
    -(((List.range 330).find? (fun k => num * Nat.pow 10 (k + 1) ≥ den)).getD 0 : Int) - 1

/-- The fewest significant digits that read back as `m · 2^e` (with `m > 0`), and the decimal
exponent of the last of them. -/
def shortest (m : Nat) (e : Int) : Nat × Int :=
  -- the interval of reals that round to the double, in units of 2^(e-2)
  let lowGap := if m = Nat.pow 2 52 ∧ e > -1074 then 1 else 2
  let lo := 4 * m - lowGap
  let hi := 4 * m + 2
  let mid := 4 * m
  let inclusive := m % 2 = 0
  let u := e - 2
  let lead := decimalExponent (mid * Nat.pow 2 (max u 0).toNat) (Nat.pow 2 (max (-u) 0).toNat)
  let attempt (k : Nat) : Option (Nat × Int) :=
    let q : Int := lead + 1 - k
    -- the grid point t · 10^q against x · 2^u, over one common denominator
    let scale (x : Nat) (t : Nat) : Nat × Nat :=
      let x' := x * Nat.pow 2 (max u 0).toNat * Nat.pow 10 (max (-q) 0).toNat
      let t' := t * Nat.pow 10 (max q 0).toNat * Nat.pow 2 (max (-u) 0).toNat
      (x', t')
    let unit := (scale 0 1).2
    let loN := (scale lo 0).1
    let hiN := (scale hi 0).1
    let midN := (scale mid 0).1
    let tLo := if inclusive then (loN + unit - 1) / unit else loN / unit + 1
    let tHi := if inclusive then hiN / unit else (hiN - 1) / unit
    if tLo ≤ tHi then
      let below := min (midN / unit) tHi
      let above := max (below + 1) tLo
      let pick :=
        if below < tLo then above
        else if above > tHi then below
        else if midN - below * unit < above * unit - midN then below else above
      some (pick, q)
    else none
  ((List.range 17).findSome? (fun k => attempt (k + 1))).getD (m, e)

/-- The decimal digits of `n`. -/
def digitsOf (n : Nat) : List Char :=
  (toString n).toList

/-- `t · 10^q` in positional notation, with no exponent and no trailing zeros after a point. -/
def positional (t : Nat) (q : Int) : String :=
  -- drop trailing zeros of `t` into the exponent
  let rec strip (fuel t : Nat) (q : Int) : Nat × Int :=
    match fuel with
    | 0 => (t, q)
    | f + 1 => if t ≠ 0 ∧ t % 10 = 0 then strip f (t / 10) (q + 1) else (t, q)
  let (t, q) := strip 400 t q
  let ds := digitsOf t
  if q ≥ 0 then String.ofList (ds ++ List.replicate q.toNat '0')
  else
    let shift := (-q).toNat
    if shift < ds.length then
      String.ofList (ds.take (ds.length - shift) ++ '.' :: ds.drop (ds.length - shift))
    else String.ofList ('0' :: '.' :: List.replicate (shift - ds.length) '0' ++ ds)

/-- A double in positional notation with its fewest digits, or `inf`, `-inf` and `NaN`. -/
def Double.text : Double → String
  | .nan => "NaN"
  | .infinite neg => if neg then "-inf" else "inf"
  | .finite neg m e =>
    let body := if m = 0 then "0" else let (t, q) := shortest m e; positional t q
    if neg then "-" ++ body else body

end VectorCapture.Decimal
