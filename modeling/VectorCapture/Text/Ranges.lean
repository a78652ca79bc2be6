/-!
# Character classes as tables of ranges

A character class of the Unicode standard is kept as a sorted array of inclusive ranges of code
points, and membership is a binary search over it.
-/

namespace VectorCapture.Text

/-- Whether `n` lies in one of the inclusive ranges of `table`, which are sorted and do not
overlap. -/
def inRanges (table : Array (Nat × Nat)) (n : Nat) : Bool :=
  go 0 table.size
where
  /-- Searches the ranges at positions `lo` up to, but not including, `hi`. -/
  go (lo hi : Nat) : Bool :=
    if lo < hi then
      let mid := (lo + hi) / 2
      match table[mid]? with
      | some (a, b) =>
        if n < a then go lo mid
        else if b < n then go (mid + 1) hi
        else true
      | none => false
    else false
  termination_by hi - lo

end VectorCapture.Text
