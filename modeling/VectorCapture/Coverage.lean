import Std.Data.HashSet
/-!
# Coverage of instrumented locations

A coverage map tracks which instrumented locations of a target have run. Its size is fixed once,
by the first `init` with a positive count, and every later `init` is refused. Location `l` holds
the 32-bit guard `l + 1`, taken modulo `2^32`: a guard that is zero counts as already seen, so a
location whose guard wraps to zero never reports itself.

`trace l` clears the guard of `l`. It answers `true` exactly when `l` is a location of the table
and its guard was still set; that first report is what makes a run new, and `discovered` counts
those reports.
-/

namespace VectorCapture

/-- The guards of the instrumented locations. -/
structure Coverage where
  /-- The number of locations; zero until the table is initialised. -/
  size : Nat := 0
  /-- The locations whose guard a trace has cleared. -/
  cleared : Std.HashSet Nat := {}
  /-- How many traces found their guard still set. -/
  discovered : Nat := 0

namespace Coverage

/-- The empty table, before any `init`. -/
def empty : Coverage := {}

instance : Inhabited Coverage := ⟨empty⟩

/-- Whether the guard of location `l` starts set: its number `l + 1` is not a multiple of
`2^32`. -/
def startsSet (l : Nat) : Bool :=
  (l + 1) % Nat.pow 2 32 != 0

/-- Whether location `l` of the table still has its guard set. -/
def isArmed (t : Coverage) (l : Nat) : Bool :=
  l < t.size && startsSet l && !t.cleared.contains l

/-- Whether the table has been given its locations. -/
def isInitialized (t : Coverage) : Bool :=
  t.size != 0

/-- Gives the table `n` locations, if it has none yet and `n` is positive; the answer says
whether it did. -/
def init (t : Coverage) (n : Nat) : Bool × Coverage :=
  if t.size != 0 || n == 0 then (false, t) else (true, { t with size := n })

/-- Reports that location `l` ran; the answer says whether this cleared its guard. -/
def trace (t : Coverage) (l : Nat) : Bool × Coverage :=
  if t.isArmed l then
    (true, { t with cleared := t.cleared.insert l, discovered := t.discovered + 1 })
  else (false, t)

end Coverage

end VectorCapture
