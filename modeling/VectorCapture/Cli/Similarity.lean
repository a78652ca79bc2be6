import VectorCapture.Decimal.Shortest
/-!
# How alike two names are

The Jaro similarity of two strings counts the characters they have in common within a window
(half the longer length, less one) and the transpositions among those: with `m` matches and
`t` half-transpositions over lengths `a` and `b`, it is `(m/a + m/b + (m-t)/m) / 3`, and zero
when nothing matches.

A mistyped option is matched to the known option it is most like, when that likeness is above
0.7; the quotients and sums are each rounded to the nearest double as they are computed, so
that the comparison with 0.7 agrees with a computation in doubles to the last bit.
-/

namespace VectorCapture.Cli

open VectorCapture.Decimal

/-- A positive rational rounded to the nearest double, as a fraction. -/
def toDouble (num den : Nat) : Nat × Nat :=
  match nearest num den with
  | some (m, e) => if e ≥ 0 then (m * Nat.pow 2 e.toNat, 1) else (m, Nat.pow 2 (-e).toNat)
  | none => (num, den)

/-- The sum of two fractions, rounded to the nearest double. -/
def addDouble (x y : Nat × Nat) : Nat × Nat :=
  toDouble (x.1 * y.2 + y.1 * x.2) (x.2 * y.2)

/-- The characters of `a` matched in `b` within the window, marking those of `b` that are used:
for each character of `a`, the first unused equal one of `b` within the window. -/
def matchFlags (a b : List Char) : List Bool × List Bool :=
  let window := max a.length b.length / 2 - 1
  let step (acc : List Bool × List Bool) (ci : Char × Nat) : List Bool × List Bool :=
    let (aFlags, bFlags) := acc
    let (c, i) := ci
    let lo := i - window
    let hi := min b.length (i + window + 1)
    let hit := (List.range hi).find? fun j =>
      lo ≤ j && b[j]? == some c && bFlags[j]? == some false
    match hit with
    | some j => (aFlags ++ [true], bFlags.set j true)
    | none => (aFlags ++ [false], bFlags)
  a.zipIdx.foldl step ([], List.replicate b.length false)

/-- The matched characters of a string, in order. -/
def matched (s : List Char) (flags : List Bool) : List Char :=
  (s.zip flags).filterMap fun (c, f) => if f then some c else none

/-- The Jaro similarity of two strings, as a fraction rounded as doubles are. -/
def jaro (a b : String) : Nat × Nat :=
  let a := a.toList
  let b := b.toList
  if a.isEmpty && b.isEmpty then (1, 1)
  else if a.isEmpty || b.isEmpty then (0, 1)
  else
    let (aFlags, bFlags) := matchFlags a b
    let ma := matched a aFlags
    let mb := matched b bFlags
    let m := ma.length
    let t := ((ma.zip mb).filter fun (x, y) => x != y).length / 2
    if m = 0 then (0, 1)
    else
      let sum := addDouble (addDouble (toDouble m a.length) (toDouble m b.length))
        (toDouble (m - t) m)
      toDouble sum.1 (sum.2 * 3)

/-- Whether a similarity is above 0.7, as doubles compare. -/
def similarEnough (x : Nat × Nat) : Bool :=
  let bar := toDouble 7 10
  x.1 * bar.2 > bar.1 * x.2

/-- The candidate most like `s`, of those above 0.7; of equally alike ones, the last. -/
def mostLike (s : String) (candidates : List String) : Option String :=
  let scored := candidates.filterMap fun c =>
    let x := jaro s c
    if similarEnough x then some (x, c) else none
  let better (acc : Option ((Nat × Nat) × String)) (xc : (Nat × Nat) × String) :=
    match acc with
    | none => some xc
    | some (y, d) => if xc.1.1 * y.2 ≥ y.1 * xc.1.2 then some xc else some (y, d)
  (scored.foldl better none).map (·.2)

end VectorCapture.Cli
